import FormLetter.Calendar.Date
import FormLetter.Context.Basic
import FormLetter.Form.Abbreviation
import FormLetter.Form.Field
import FormLetter.Form.Rule

/-!
# Filling a context from a form

A context is filled in steps, and a later step fills gaps only: a key that holds a value that is not
empty keeps it. The steps are the mapping from tags to fields, the keys of every field, the system
values with the date and the time, the name and the address of the person, the rules for tags that
are still empty, and the abbreviations of business names.

* `fill`: sets a key that has no value.
* `fillMapping`, `fillFields`, `fillSystem`, `fillPerson`, `fillRules`, `fillAbbreviations`: the
  steps.
* `fillContext`: all steps.
-/

namespace FormLetter

open Text

/-! ## Gaps -/

/-- Whether a key holds a value that is not empty. -/
def isFilled (context : Context) (key : Text) : Bool :=
  (context.get? key).any fun value => !value.isEmpty

/-- Sets a key unless the key is empty or holds a value that is not empty. -/
def fill (key value : Text) (context : Context) : Context :=
  if key = [] || isFilled context key then context else context.insert key value

/-- Sets several keys to one value, each as far as it has none. -/
def fillAll (keys : List Text) (value : Text) (context : Context) : Context :=
  keys.foldl (fun context key => fill key value context) context

/-! ## Mapping and fields -/

/-- Why an entry of the mapping sets nothing. -/
inductive MappingNote where
  /-- No field has the identifier. -/
  | noSuchField (tag id : Text)
  /-- The value of the field is empty. -/
  | emptyValue (tag id : Text)
  deriving Repr, DecidableEq

/-- The last field with an identifier. -/
def fieldOf? (fields : List Field) (id : Text) : Option Field :=
  fields.reverse.find? fun field => field.id = id

/-- Sets each tag to the value of its field. -/
def fillMapping (fields : List Field) :
    List (Text × Text) → Context → Context × List MappingNote
  | [], context => (context, [])
  | (tag, id) :: mapping, context =>
    match fieldOf? fields id with
    | none =>
      let (context, notes) := fillMapping fields mapping context
      (context, .noSuchField tag id :: notes)
    | some field =>
      if field.flat = [] then
        let (context, notes) := fillMapping fields mapping context
        (context, .emptyValue tag id :: notes)
      else fillMapping fields mapping (context.insert tag field.flat)

/-- Fills the keys of every field. -/
def fillFields (fields : List Field) (context : Context) : Context :=
  fields.foldl (fun context field => fillAll field.keys field.flat context) context

/-! ## System values -/

/-- The system values that stand under other keys than their name. -/
def systemAliases : List (String × List String) :=
  [("form_title", ["FormTitle", "FORMTITLE", "Form_Title"]),
    ("entry_id", ["EntryId", "ENTRYID", "Entry_ID"]), ("entry_date", ["Entry_Date"]),
    ("user_ip", ["User_IP"]), ("source_url", ["Source_URL"]),
    ("site_name", ["SiteName", "SITENAME"])]

/-- The keys of a system value. -/
def systemKeys (name : Text) : List Text :=
  match systemAliases.find? fun entry => entry.1.toList = name with
  | some (_, aliases) => aliases.map String.toList
  | none => [name]

/-- The date of a moment, with its fields behind hyphens. -/
def dateText (moment : Moment) : Text :=
  ofNat moment.date.year ++ '-' :: padded 2 moment.date.month ++ '-' :: padded 2 moment.date.day

/-- The time of a moment, with its fields behind colons. -/
def timeText (moment : Moment) : Text :=
  padded 2 moment.time.hour ++ ':' :: padded 2 moment.time.minute ++ ':' ::
    padded 2 moment.time.second

/-- Fills the system values, the date and the time. -/
def fillSystem (now : Moment) (values : List (Text × Value)) (context : Context) : Context :=
  let context := values.foldl
    (fun context entry => fillAll (systemKeys entry.1) (Context.contextText entry.2) context)
    context
  fillAll (["CurrentTime", "CURRENTTIME"].map String.toList) (timeText now)
    (fillAll (["CurrentDate", "CURRENTDATE"].map String.toList) (dateText now) context)

/-! ## The person -/

/-- Words by which a label asks for a first name. -/
def firstNameHints : List String := ["first name", "firstname", "given name"]

/-- Words by which a label asks for a last name. -/
def lastNameHints : List String := ["last name", "lastname", "surname", "family name"]

/-- Whether a label of a field contains one of the hints. -/
def mentions (field : Field) (hints : List String) : Bool :=
  [lower field.label, lower field.adminLabel].any fun label =>
    hints.any fun hint => occursIn hint.toList label

/-- The first value that is not empty among the fields that satisfy a test; empty if there is none.
-/
def firstValue (fields : List Field) (test : Field → Bool) : Text :=
  ((fields.filter test).map Field.flat).find? (fun value => !value.isEmpty) |>.getD []

/-- The name and the address of the person who filled in the form. -/
structure Person where
  /-- The first name. -/
  first : Text
  /-- The last name. -/
  last : Text
  /-- The electronic address. -/
  email : Text
  deriving Repr, DecidableEq

/-- The person that the fields tell of. A full name is divided after its first word, where the
fields have neither a first nor a last name. -/
def personOf (fields : List Field) : Person :=
  let first := firstValue fields fun field => mentions field firstNameHints
  let last := firstValue fields fun field => mentions field lastNameHints
  let email := firstValue fields fun field =>
    mentions field ["email"] || field.type = "email".toList
  let full := firstValue fields fun field =>
    field.type = "name".toList && mentions field ["name"]
  if full = [] || first ≠ [] || last ≠ [] then { first, last, email }
  else
    match words full with
    | word :: next :: others => { first := word, last := joinWith [' '] (next :: others), email }
    | _ => { first := strip full, last := [], email }

/-- Fills two keys, if there is a value. -/
def fillPair (mixed capital : String) (value : Text) (context : Context) : Context :=
  if value = [] then context else fillAll [mixed.toList, capital.toList] value context

/-- Fills the name and the address of the person. -/
def fillPerson (fields : List Field) (context : Context) : Context :=
  let person := personOf fields
  let context := fillPair "UserFirstName" "USERFIRSTNAME" person.first context
  let context := fillPair "UserLastName" "USERLASTNAME" person.last context
  let context := fillPair "UserEmail" "USEREMAIL" person.email context
  if person.first = [] && person.last = [] then context
  else
    fillAll (["UserName", "USERNAME"].map String.toList)
      (strip (person.first ++ ' ' :: person.last)) context

/-! ## Rules -/

/-- A tag that a rule filled. -/
structure RuleMatch where
  /-- The rule. -/
  rule : Rule
  /-- The entry whose value it took. -/
  found : Rule.Match
  deriving Repr, DecidableEq

/-- Fills each tag that is still empty from the entry that suits its rule best under a weighing. -/
def fillRulesBy (weigh : Weighing) : List Rule → Context → Context × List RuleMatch
  | [], context => (context, [])
  | rule :: rules, context =>
    if isFilled context rule.tag then fillRulesBy weigh rules context
    else
      match rule.bestBy? weigh context.entries with
      | none => fillRulesBy weigh rules context
      | some found =>
        let (context, matched) := fillRulesBy weigh rules (context.insert rule.tag found.value)
        (context, ⟨rule, found⟩ :: matched)

/-- Fills each tag that is still empty by rounded scores. -/
def fillRules (rules : List Rule) (context : Context) : Context × List RuleMatch :=
  fillRulesBy .rounded rules context

/-! ## Abbreviations -/

/-- The tags that abbreviate a business name, with the tag of that name. -/
def abbreviationSources : List (String × String) :=
  [("USR_ABV", "USR_Business"), ("PT2_ABV", "PT2_Business")]

/-- Fills the abbreviations of business names. -/
def fillAbbreviations (length : Int) (context : Context) : Context :=
  abbreviationSources.foldl
    (fun context (tag, source) =>
      if isFilled context tag.toList then context
      else
        match abbreviate length ((context.get? source.toList).getD []) with
        | [] => context
        | abbreviation => context.insert tag.toList abbreviation)
    context

/-! ## All steps -/

/-- What a context is filled from. -/
structure Submission where
  /-- The fields of the form. -/
  fields : List Field
  /-- For each tag the identifier of a field. -/
  mapping : List (Text × Text) := []
  /-- The system values. -/
  system : List (Text × Value) := []
  deriving Repr

/-- A filled context, with the entries of the mapping that set nothing and the tags that rules
filled. -/
structure Filled where
  /-- The context. -/
  context : Context
  /-- The entries of the mapping that set nothing. -/
  notes : List MappingNote
  /-- The tags that rules filled. -/
  matched : List RuleMatch

/-- The context of a submission, with rules under a weighing. -/
def fillContextBy (weigh : Weighing) (rules : List Rule) (abbreviationLength : Int) (now : Moment)
    (submission : Submission) : Filled :=
  let (context, notes) := fillMapping submission.fields submission.mapping .empty
  let context := fillFields submission.fields context
  let context := fillSystem now submission.system context
  let context := fillPerson submission.fields context
  let (context, matched) := fillRulesBy weigh rules context
  { context := fillAbbreviations abbreviationLength context, notes, matched }

/-- The context of a submission by rounded scores. -/
def fillContext (rules : List Rule) (abbreviationLength : Int) (now : Moment)
    (submission : Submission) : Filled :=
  fillContextBy .rounded rules abbreviationLength now submission

end FormLetter
