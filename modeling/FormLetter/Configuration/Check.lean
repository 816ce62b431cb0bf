import FormLetter.Configuration.Basic
import FormLetter.Configuration.Scalar
import FormLetter.Diagnostic.Fault

/-!
# Checking configurations

A configuration comes as data, and what is absent or null takes its default. All problems of its
entries are collected; that no tag has two rules is only looked at when there are none, and the
version last of all.

* `checkSettings`, `checkRule`, `checkRules`: the parts of a configuration.
* `checkConfiguration`: the entries of a configuration.
* `Configuration.ofData`: a configuration from data, or the fault for refusing it.
-/

namespace FormLetter

open Text

/-! ## Entries -/

/-- The problem of a key that is none of the known ones. -/
def keyProblem? (known : List String) (key : Value) : Option Problem :=
  match key with
  | .text name =>
    if known.any fun k => k.toList = name then none else some ⟨[.key name], .unknownKey⟩
  | .bool b => some ⟨[.index (if b then 1 else 0)], .keyNotText⟩
  | .int n =>
    some ⟨[if n.natAbs < Nat.pow 2 63 then .index n else .key (Value.int n).shown], .keyNotText⟩
  | other => some ⟨[.key other.shown], .keyNotText⟩

/-- Accepts entries all of whose keys are known. -/
def checkKeys (known : List String) (entries : List (Value × Value)) : Checked Unit :=
  match entries.filterMap fun entry => keyProblem? known entry.1 with
  | [] => .ok ()
  | problems => .refused problems

/-- The value of a text key among entries. -/
def named? (entries : List (Value × Value)) (name : String) : Option Value :=
  (Value.map entries).field? name

/-- The entry of a key, or a default if there is none. -/
def entryOr {α : Type} (entries : List (Value × Value)) (name : String) (default : Checked α)
    (check : Value → Checked α) : Checked α :=
  Checked.within (.key name.toList) <|
    match named? entries name with
    | some value => check value
    | none => default

/-- A value, or a default if it is null. -/
def orNull {α : Type} (default : α) (check : Value → Checked α) (value : Value) : Checked α :=
  match value with
  | .null => .ok default
  | value => check value

/-- The items of a value that is a list. -/
def checkItems {α : Type} (check : Value → Checked α) (value : Value) : Checked (List α) :=
  match value with
  | .list items | .set items => Checked.each check items
  | .pairs entries => Checked.each check (entries.map fun (key, value) => .list [key, value])
  | _ => .refuse .notList

/-- A list of texts. -/
def checkTexts : Value → Checked (List Text) :=
  checkItems fun item => .ofCause (Scalar.text item)

/-- A truth value. -/
def checkTruth (value : Value) : Checked Bool := .ofCause (Scalar.truth value)

/-- An integer between two bounds. -/
def checkBetween (least greatest : Int) (value : Value) : Checked Int :=
  (Checked.ofCause (Scalar.integer value)).andThen fun n =>
    if n < least then .refuse .tooSmall
    else if greatest < n then .refuse .tooLarge
    else .ok n

/-! ## Settings -/

/-- The names of the elements across which no tag is put together. -/
def checkBoundaries (value : Value) : Checked (List Text) :=
  (checkTexts value).andThen fun names =>
    match (names.map strip).filter (· ≠ []) with
    | [] => .refuse (.unsuitable "hard_boundary_elements must name at least one element".toList)
    | names => .ok names

/-- The keys of the settings. -/
def settingKeys : List String :=
  ["hard_boundary_elements", "max_nesting_depth", "allow_partial_match", "escape_braces",
    "date_dayfirst", "parallel_parts", "strict", "abbreviation_max_length"]

/-- The settings from their entries. -/
def checkSettingEntries (entries : List (Value × Value)) : Checked Settings :=
  let base : Settings := {}
  let setting {α : Type} (name : String) (default : α) (check : Value → Checked α) : Checked α :=
    entryOr entries name (.ok default) (orNull default check)
  (fun _ boundaries depth allowPartial escape dayFirst parallel strict length =>
      ⟨boundaries, depth, allowPartial, escape, dayFirst, parallel, strict, length⟩)
    <$> checkKeys settingKeys entries
    <*> setting "hard_boundary_elements" base.boundaries checkBoundaries
    <*> setting "max_nesting_depth" base.maxNestingDepth (checkBetween 1 10000)
    <*> setting "allow_partial_match" base.allowPartialMatch checkTruth
    <*> setting "escape_braces" base.escapeBraces checkTruth
    <*> setting "date_dayfirst" base.dayFirst checkTruth
    <*> setting "parallel_parts" base.parallelParts checkTruth
    <*> setting "strict" base.strict checkTruth
    <*> setting "abbreviation_max_length" base.abbreviationLength (checkBetween 1 64)

/-- The settings. -/
def checkSettings : Value → Checked Settings
  | .map entries => checkSettingEntries entries
  | _ => .refuse .notMapping

/-! ## Rules -/

/-- The tag of a rule. -/
def checkTag (value : Value) : Checked Text :=
  (Checked.ofCause (Scalar.text value)).andThen fun tag =>
    if isIdentifierLine tag then .ok tag
    else .refuse (.unsuitable ('\'' :: tag ++ "' is not a valid merge tag name".toList))

/-- Keywords in lower case, without those that are blank. -/
def foldKeywords (keywords : List Text) : List Text :=
  (keywords.filter fun keyword => !isAllBlank keyword).map lower

/-- The keywords of a rule; there must be one, be it blank. -/
def checkKeywords (value : Value) : Checked (List Text) :=
  (checkTexts value).andThen fun keywords =>
    if keywords = [] then .refuse .tooShort else .ok (foldKeywords keywords)

/-- The keywords that a suitable key does not contain. -/
def checkExcluded (value : Value) : Checked (List Text) := foldKeywords <$> checkTexts value

/-- Whether a number is zero or below. -/
def Binary64.isAtMostZero : Binary64 → Bool
  | .nan => false
  | .infinite negative => negative
  | .finite negative mantissa _ => negative || mantissa == 0

/-- The priority of a rule, a positive number. -/
def checkPriority (value : Value) : Checked Binary64 :=
  (Checked.ofCause (Scalar.number value)).andThen fun x =>
    if x.isAtMostZero then .refuse .notGreater else .ok x

/-- The keys of a rule. -/
def ruleKeys : List String := ["tag", "keywords", "exclude_keywords", "priority"]

/-- A rule. -/
def checkRule : Value → Checked Rule
  | .map entries =>
    (fun _ tag keywords excluded priority => { tag, keywords, excluded, priority })
      <$> checkKeys ruleKeys entries
      <*> entryOr entries "tag" (.refuse .missing) checkTag
      <*> entryOr entries "keywords" (.refuse .missing) checkKeywords
      <*> entryOr entries "exclude_keywords" (.ok []) checkExcluded
      <*> entryOr entries "priority" (.ok (.ofInt 1)) checkPriority
  | _ => .refuse .notMapping

/-- Several rules. -/
def checkRules : Value → Checked (List Rule) := checkItems checkRule

/-- The first tag that comes twice. -/
def repeatedTag? : List Text → List Text → Option Text
  | _, [] => none
  | seen, tag :: tags => if tag ∈ seen then some tag else repeatedTag? (tag :: seen) tags

/-! ## Configurations -/

/-- The keys of a configuration. -/
def configurationKeys : List String := ["schema_version", "settings", "rules"]

/-- The entries of a configuration. -/
structure Entries where
  /-- The version. -/
  version : Text
  /-- The settings. -/
  settings : Settings
  /-- The rules, if there are any. -/
  rules : Option (List Rule)

/-- The entries of a configuration, each on its own. -/
def checkEntries (entries : List (Value × Value)) : Checked Entries :=
  (fun _ version settings rules => { version, settings, rules })
    <$> checkKeys configurationKeys entries
    <*> entryOr entries "schema_version" (.ok schemaVersion)
      (fun value => .ofCause (Scalar.text value))
    <*> entryOr entries "settings" (.ok {}) checkSettings
    <*> entryOr entries "rules" (.ok none) (orNull none fun value => some <$> checkRules value)

/-- A configuration; without rules of its own it has the given ones. -/
def checkConfiguration (rules : List Rule) (entries : List (Value × Value)) :
    Checked Configuration :=
  (checkEntries entries).andThen fun checked =>
    match repeatedTag? [] ((checked.rules.getD []).map Rule.tag) with
    | some tag => .refuse (.unsuitable ("Duplicate rule for tag '".toList ++ tag ++ ['\'']))
    | none =>
      .ok
        { settings := checked.settings
          rules := checked.rules.getD rules
          version := checked.version }

/-- The number in front of the first point of a version. -/
def majorVersion (version : Text) : Text := (cutAt '.' version).1

namespace Configuration

/-- The fault for data that is no mapping. -/
def notMappingFault (source : Text) (data : Value) : Fault where
  kind := .configValidation
  message := s!"Configuration in {String.ofList source} must be a mapping"
  details := [("source", .text source), ("type", .text data.typeName.toList)]

/-- The fault for a configuration with problems. -/
def problemsFault (source : Text) (problems : List Problem) : Fault where
  kind := .configValidation
  message := s!"Configuration validation failed for {String.ofList source}"
  details := [("source", .text source), ("errors", .list (Problem.records problems))]

/-- The fault for a configuration of another version. -/
def versionFault (source version : Text) : Fault where
  kind := .configValidation
  message := s!"Unsupported schema_version {String.ofList version} " ++
    s!"(expected {String.ofList schemaVersion})"
  details := [("source", .text source), ("schema_version", .text version)]

/-- A configuration from the entries of a mapping. -/
def ofEntries (source : Text) (rules : List Rule) (entries : List (Value × Value)) :
    Except Fault Configuration :=
  match checkConfiguration rules entries with
  | .refused problems => .error (problemsFault source problems)
  | .ok configuration =>
    if majorVersion configuration.version = majorVersion schemaVersion then .ok configuration
    else .error (versionFault source configuration.version)

/-- A configuration from data; the source names the data in faults, and the rules stand in where the
data has none. No data at all is an empty configuration. -/
def ofData (source : Text) (rules : List Rule) : Value → Except Fault Configuration
  | .map entries => ofEntries source rules entries
  | .null => ofEntries source rules []
  | data => .error (notMappingFault source data)

end Configuration

end FormLetter
