import FormLetter.Proofs.Configuration.Checked
import FormLetter.Proofs.Text.Lowercase
import Mathlib.Algebra.Order.Ring.Unbundled.Rat

/-!
# Accepted configurations

What may be relied on once a configuration is accepted. Its settings are within their bounds, and no
tag has two rules. Three things that the checks are about slip through them: a line feed behind a
tag, keywords that are all blank, and a priority that is no number.

* `Settings.IsSound`, `Rule.IsSound`: what is relied on.
* `Rule.ComesFrom`: what holds of an accepted rule, and when the rule is sound.
* `Configuration.ofData_accepted`: an accepted configuration.
-/

namespace FormLetter

open Text

/-! ## Soundness -/

/-- Settings within their bounds. -/
structure Settings.IsSound (settings : Settings) : Prop where
  /-- Blocks may be nested at least once. -/
  depth : 1 ≤ settings.maxNestingDepth ∧ settings.maxNestingDepth ≤ 10000
  /-- An abbreviation has room for a character. -/
  abbreviation : 1 ≤ settings.abbreviationLength ∧ settings.abbreviationLength ≤ 64
  /-- There is an element that bounds a paragraph. -/
  boundaries : settings.boundaries ≠ []
  /-- The names of these elements are not empty, and without blanks at their ends. -/
  names : ∀ name ∈ settings.boundaries, name ≠ [] ∧ strip name = name

/-- A keyword in lower case that is not blank. -/
def IsKeyword (keyword : Text) : Prop := isAllBlank keyword = false ∧ lower keyword = keyword

/-- A priority above zero. -/
def Binary64.IsPositive (priority : Binary64) : Prop :=
  (Extended.ofBinary64 priority).exceeds (.finite 0) = true

/-- A rule that can fill its tag. -/
structure Rule.IsSound (rule : Rule) : Prop where
  /-- The tag is an identifier. -/
  tag : isIdentifier rule.tag = true
  /-- There is a keyword. -/
  keywords : rule.keywords ≠ []
  /-- Keywords and excluded keywords are in lower case and not blank. -/
  words : ∀ keyword ∈ rule.keywords ++ rule.excluded, IsKeyword keyword
  /-- The priority is above zero. -/
  priority : rule.priority.IsPositive

/-! ## Rules -/

section

variable {value : Value}

theorem newline_notMem {name : Text} (h : isIdentifier name = true) : '\n' ∉ name := by
  intro hmem
  have hword := List.all_eq_true.1 (Bool.and_eq_true_iff.1 h).2 _ hmem
  exact absurd hword (by decide)

/-- The check of a tag lets a line feed behind it pass. -/
theorem isIdentifierLine_iff {tag : Text} :
    isIdentifierLine tag = true ↔
      ∃ name, isIdentifier name = true ∧ (tag = name ∨ tag = name ++ ['\n']) := by
  constructor
  · intro h
    unfold isIdentifierLine at h
    split at h
    · rename_i hlast
      refine ⟨tag.dropLast, h, Or.inr ?_⟩
      exact (List.dropLast_append_getLast? _ hlast).symm
    · exact ⟨tag, h, Or.inl rfl⟩
  · rintro ⟨name, hname, rfl | rfl⟩
    · exact isIdentifierLine_of_isIdentifier hname
    · simpa [isIdentifierLine] using hname

/-- A tag that is accepted is an identifier unless a line feed is in it. -/
theorem isIdentifier_iff {tag : Text} (h : isIdentifierLine tag = true) :
    isIdentifier tag = true ↔ '\n' ∉ tag := by
  obtain ⟨name, hname, rfl | rfl⟩ := isIdentifierLine_iff.1 h
  · exact iff_of_true hname (newline_notMem hname)
  · have hmem : '\n' ∈ name ++ ['\n'] := List.mem_append_right _ (List.mem_singleton.2 rfl)
    exact iff_of_false (fun hline => newline_notMem hline hmem) (not_not_intro hmem)

theorem isKeyword_of_mem_foldKeywords {given : List Text} {keyword : Text}
    (h : keyword ∈ foldKeywords given) : IsKeyword keyword := by
  obtain ⟨text, hmem, rfl⟩ := List.mem_map.1 h
  have hblank := (List.mem_filter.1 hmem).2
  exact ⟨isAllBlank_lower (by simpa using hblank), lower_lower text⟩

theorem foldKeywords_ne_nil_iff {given : List Text} :
    foldKeywords given ≠ [] ↔ ∃ keyword ∈ given, isAllBlank keyword = false := by
  simp [foldKeywords, List.filter_eq_nil_iff]

theorem scaled_pos {num den : Nat} (hnum : 0 < num) (hden : 0 < den) (exponent : Int) :
    0 < (Binary64.scaled num den exponent).1 ∧ 0 < (Binary64.scaled num den exponent).2 := by
  have hpow : 0 < Nat.pow 2 exponent.natAbs := Nat.pow_pos Nat.two_pos
  unfold Binary64.scaled
  split
  · exact ⟨Nat.mul_pos hnum hpow, hden⟩
  · exact ⟨hnum, Nat.mul_pos hden hpow⟩

/-- A number that passes for one above zero is above zero, or no number. -/
theorem isPositive_iff {x : Binary64} (h : x.isAtMostZero = false) : x.IsPositive ↔ x ≠ .nan := by
  unfold Binary64.IsPositive
  cases x with
  | nan => simp [Extended.ofBinary64, Extended.exceeds]
  | infinite negative =>
    have hnegative : negative = false := h
    simp [Extended.ofBinary64, Extended.exceeds, hnegative]
  | finite negative mantissa exponent =>
    obtain ⟨rfl, hmantissa⟩ := Bool.or_eq_false_iff.1 h
    have hmantissa : 0 < mantissa := Nat.pos_of_ne_zero (by simpa using hmantissa)
    obtain ⟨hnum, hden⟩ := scaled_pos hmantissa Nat.one_pos (-exponent)
    have hpos : (0 : Rat) < mkRat (Binary64.scaled mantissa 1 (-exponent)).1
        (Binary64.scaled mantissa 1 (-exponent)).2 :=
      Rat.mkRat_pos (Int.natCast_pos.2 hnum) hden.ne'
    exact iff_of_true (decide_eq_true hpos) (by simp)

/-! ## Checks of rules -/

theorem checkTag_eq_ok_iff {tag : Text} :
    checkTag value = .ok tag ↔ Scalar.text value = .ok tag ∧ isIdentifierLine tag = true := by
  rw [checkTag, Checked.andThen_eq_ok_iff]
  simp only [Checked.ofCause_eq_ok_iff]
  constructor
  · rintro ⟨given, hgiven, hline⟩
    split at hline
    · rename_i hidentifier
      cases hline
      exact ⟨hgiven, hidentifier⟩
    · exact absurd hline Checked.refuse_ne_ok
  · rintro ⟨hgiven, hline⟩
    exact ⟨tag, hgiven, if_pos hline⟩

theorem checkKeywords_eq_ok_iff {keywords : List Text} :
    checkKeywords value = .ok keywords ↔
      ∃ given, checkTexts value = .ok given ∧ given ≠ [] ∧ foldKeywords given = keywords := by
  rw [checkKeywords, Checked.andThen_eq_ok_iff]
  constructor
  · rintro ⟨given, hgiven, hfold⟩
    split at hfold
    · exact absurd hfold Checked.refuse_ne_ok
    · rename_i hne
      cases hfold
      exact ⟨given, hgiven, hne, rfl⟩
  · rintro ⟨given, hgiven, hne, rfl⟩
    exact ⟨given, hgiven, if_neg hne⟩

theorem checkExcluded_eq_ok_iff {excluded : List Text} :
    checkExcluded value = .ok excluded ↔
      ∃ given, checkTexts value = .ok given ∧ foldKeywords given = excluded :=
  Checked.map_eq_ok_iff

theorem isAtMostZero_of_checkPriority {priority : Binary64}
    (h : checkPriority value = .ok priority) : priority.isAtMostZero = false := by
  obtain ⟨x, -, hx⟩ := Checked.andThen_eq_ok_iff.1 h
  split at hx
  · exact absurd hx Checked.refuse_ne_ok
  · rename_i hpositive
    cases hx
    exact Bool.eq_false_iff.2 hpositive

/-- Whether a rule is given a keyword that is not blank. -/
def Value.GivesKeyword (value : Value) : Prop :=
  ∃ listed given, value.field? "keywords" = some listed ∧ checkTexts listed = .ok given ∧
    ∃ keyword ∈ given, isAllBlank keyword = false

/-- What is accepted for the entries of a rule. -/
structure Rule.IsRead (value : Value) (rule : Rule) : Prop where
  /-- The tag is given. -/
  tag : ∃ given, value.field? "tag" = some given ∧ checkTag given = .ok rule.tag
  /-- The keywords are given. -/
  keywords : ∃ given, value.field? "keywords" = some given ∧ checkKeywords given = .ok rule.keywords
  /-- The excluded keywords are given, or there are none. -/
  excluded : rule.excluded = [] ∨ ∃ given, checkExcluded given = .ok rule.excluded
  /-- The priority is given, or it is one. -/
  priority : rule.priority = .ofInt 1 ∨ ∃ given, checkPriority given = .ok rule.priority

theorem Rule.isRead {rule : Rule} (h : checkRule value = .ok rule) : rule.IsRead value := by
  cases value with
  | map entries =>
    simp only [checkRule, Checked.seq_eq_ok_iff, Checked.map_eq_ok_iff, entryOr_eq_ok_iff] at h
    obtain ⟨_, ⟨_, ⟨_, ⟨_, ⟨_, -, rfl⟩, tag, htag, rfl⟩, keywords, hkeywords, rfl⟩, excluded,
      hexcluded, rfl⟩, priority, hpriority, rfl⟩ := h
    refine ⟨?_, ?_, ?_, ?_⟩
    · rcases htag with ⟨-, hmissing⟩ | hgiven
      · exact absurd hmissing Checked.refuse_ne_ok
      · exact hgiven
    · rcases hkeywords with ⟨-, hmissing⟩ | hgiven
      · exact absurd hmissing Checked.refuse_ne_ok
      · exact hgiven
    · rcases hexcluded with ⟨-, hnone⟩ | ⟨given, -, hgiven⟩
      · cases hnone
        exact Or.inl rfl
      · exact Or.inr ⟨given, hgiven⟩
    · rcases hpriority with ⟨-, hone⟩ | ⟨given, -, hgiven⟩
      · cases hone
        exact Or.inl rfl
      · exact Or.inr ⟨given, hgiven⟩
  | _ => exact absurd h Checked.refuse_ne_ok

/-- What holds of a rule that was accepted, and when it is sound. -/
structure Rule.ComesFrom (value : Value) (rule : Rule) : Prop where
  /-- The tag is an identifier, with at most one line feed behind it. -/
  tag : ∃ name, isIdentifier name = true ∧ (rule.tag = name ∨ rule.tag = name ++ ['\n'])
  /-- There is a keyword if one is given that is not blank. -/
  keywords : rule.keywords ≠ [] ↔ value.GivesKeyword
  /-- Keywords and excluded keywords are in lower case and not blank. -/
  words : ∀ keyword ∈ rule.keywords ++ rule.excluded, IsKeyword keyword
  /-- The priority is above zero if it is a number. -/
  priority : rule.priority.IsPositive ↔ rule.priority ≠ .nan
  /-- Nothing else can make the rule unsound. -/
  isSound_iff : rule.IsSound ↔ '\n' ∉ rule.tag ∧ value.GivesKeyword ∧ rule.priority ≠ .nan

variable {rule : Rule}

theorem Rule.IsRead.isIdentifierLine (h : rule.IsRead value) :
    isIdentifierLine rule.tag = true := by
  obtain ⟨given, -, hgiven⟩ := h.tag
  exact (checkTag_eq_ok_iff.1 hgiven).2

theorem Rule.IsRead.keywords_ne_nil_iff (h : rule.IsRead value) :
    rule.keywords ≠ [] ↔ value.GivesKeyword := by
  obtain ⟨listed, hlisted, hkeywords⟩ := h.keywords
  obtain ⟨given, hgiven, -, hfold⟩ := checkKeywords_eq_ok_iff.1 hkeywords
  rw [← hfold, foldKeywords_ne_nil_iff]
  constructor
  · exact fun hkeyword => ⟨listed, given, hlisted, hgiven, hkeyword⟩
  · rintro ⟨listed', given', hlisted', hgiven', hkeyword⟩
    cases hlisted.symm.trans hlisted'
    cases hgiven.symm.trans hgiven'
    exact hkeyword

theorem Rule.IsRead.isKeyword (h : rule.IsRead value) :
    ∀ keyword ∈ rule.keywords ++ rule.excluded, IsKeyword keyword := by
  intro keyword hmem
  rcases List.mem_append.1 hmem with hmem | hmem
  · obtain ⟨listed, -, hkeywords⟩ := h.keywords
    obtain ⟨given, -, -, hfold⟩ := checkKeywords_eq_ok_iff.1 hkeywords
    exact isKeyword_of_mem_foldKeywords (hfold ▸ hmem)
  · rcases h.excluded with hnone | ⟨listed, hexcluded⟩
    · rw [hnone] at hmem
      exact absurd hmem List.not_mem_nil
    · obtain ⟨given, -, hfold⟩ := checkExcluded_eq_ok_iff.1 hexcluded
      exact isKeyword_of_mem_foldKeywords (hfold ▸ hmem)

theorem Rule.IsRead.isPositive_iff (h : rule.IsRead value) :
    rule.priority.IsPositive ↔ rule.priority ≠ .nan := by
  refine FormLetter.isPositive_iff ?_
  rcases h.priority with hone | ⟨given, hgiven⟩
  · rw [hone]
    decide
  · exact isAtMostZero_of_checkPriority hgiven

/-- An accepted rule. -/
theorem Rule.comesFrom (h : checkRule value = .ok rule) : rule.ComesFrom value := by
  have hread := Rule.isRead h
  refine ⟨isIdentifierLine_iff.1 hread.isIdentifierLine, hread.keywords_ne_nil_iff,
    hread.isKeyword, hread.isPositive_iff, ?_⟩
  rw [← isIdentifier_iff hread.isIdentifierLine, ← hread.keywords_ne_nil_iff,
    ← hread.isPositive_iff]
  constructor
  · exact fun hsound => ⟨hsound.tag, hsound.keywords, hsound.priority⟩
  · exact fun ⟨htag, hkeywords, hpriority⟩ => ⟨htag, hkeywords, hread.isKeyword, hpriority⟩

end

/-! ## Settings -/

/-- A setting that is absent or null has its default. -/
theorem setting_eq_ok {α : Type} {entries : List (Value × Value)} {name : String} {default a : α}
    {check : Value → Checked α}
    (h : entryOr entries name (.ok default) (orNull default check) = .ok a) :
    a = default ∨ ∃ value, check value = .ok a := by
  rcases entryOr_eq_ok_iff.1 h with ⟨-, hdefault⟩ | ⟨value, -, hvalue⟩
  · cases hdefault
    exact Or.inl rfl
  · rcases orNull_eq_ok_iff.1 hvalue with ⟨-, rfl⟩ | ⟨-, hvalue⟩
    · exact Or.inl rfl
    · exact Or.inr ⟨value, hvalue⟩

theorem checkBetween_eq_ok {least greatest n : Int} {value : Value}
    (h : checkBetween least greatest value = .ok n) : least ≤ n ∧ n ≤ greatest := by
  obtain ⟨m, -, hm⟩ := Checked.andThen_eq_ok_iff.1 h
  split at hm
  · exact absurd hm Checked.refuse_ne_ok
  · split at hm
    · exact absurd hm Checked.refuse_ne_ok
    · cases hm
      omega

theorem checkBoundaries_eq_ok {value : Value} {names : List Text}
    (h : checkBoundaries value = .ok names) :
    names ≠ [] ∧ ∀ name ∈ names, name ≠ [] ∧ strip name = name := by
  obtain ⟨given, -, hgiven⟩ := Checked.andThen_eq_ok_iff.1 h
  split at hgiven
  · exact absurd hgiven Checked.refuse_ne_ok
  · rename_i hne
    cases hgiven
    refine ⟨hne, fun name hmem => ?_⟩
    obtain ⟨hmap, hname⟩ := List.mem_filter.1 hmem
    obtain ⟨text, -, rfl⟩ := List.mem_map.1 hmap
    exact ⟨of_decide_eq_true hname, strip_strip text⟩

theorem Settings.isSound_default : ({} : Settings).IsSound := by
  refine ⟨by decide, by decide, by decide, by decide⟩

theorem checkSettingEntries_isSound {entries : List (Value × Value)} {settings : Settings}
    (h : checkSettingEntries entries = .ok settings) : settings.IsSound := by
  simp only [checkSettingEntries, Checked.seq_eq_ok_iff, Checked.map_eq_ok_iff] at h
  obtain ⟨_, ⟨_, ⟨_, ⟨_, ⟨_, ⟨_, ⟨_, ⟨_, ⟨_, -, rfl⟩, boundaries, hboundaries, rfl⟩, depth, hdepth,
    rfl⟩, _, -, rfl⟩, _, -, rfl⟩, _, -, rfl⟩, _, -, rfl⟩, _, -, rfl⟩, length, hlength, rfl⟩ := h
  have hnames : boundaries ≠ [] ∧ ∀ name ∈ boundaries, name ≠ [] ∧ strip name = name := by
    rcases setting_eq_ok hboundaries with rfl | ⟨value, hvalue⟩
    · exact ⟨Settings.isSound_default.boundaries, Settings.isSound_default.names⟩
    · exact checkBoundaries_eq_ok hvalue
  refine ⟨?_, ?_, hnames.1, hnames.2⟩
  · rcases setting_eq_ok hdepth with rfl | ⟨value, hvalue⟩
    · exact Settings.isSound_default.depth
    · exact checkBetween_eq_ok hvalue
  · rcases setting_eq_ok hlength with rfl | ⟨value, hvalue⟩
    · exact Settings.isSound_default.abbreviation
    · exact checkBetween_eq_ok hvalue

theorem checkSettings_isSound {value : Value} {settings : Settings}
    (h : checkSettings value = .ok settings) : settings.IsSound := by
  cases value with
  | map entries => exact checkSettingEntries_isSound h
  | _ => exact absurd h Checked.refuse_ne_ok

/-! ## Configurations -/

theorem checkEntries_isSound {entries : List (Value × Value)} {checked : Entries}
    (h : checkEntries entries = .ok checked) : checked.settings.IsSound := by
  simp only [checkEntries, Checked.seq_eq_ok_iff, Checked.map_eq_ok_iff] at h
  obtain ⟨_, ⟨_, ⟨_, ⟨_, -, rfl⟩, _, -, rfl⟩, settings, hsettings, rfl⟩, _, -, rfl⟩ := h
  rcases entryOr_eq_ok_iff.1 hsettings with ⟨-, hdefault⟩ | ⟨value, -, hvalue⟩
  · cases hdefault
    exact Settings.isSound_default
  · exact checkSettings_isSound hvalue

/-- Entries with rules of their own. -/
theorem checkEntries_eq_ok {entries : List (Value × Value)} {given : Value} {checked : Entries}
    (h : checkEntries entries = .ok checked) (hrules : named? entries "rules" = some given)
    (hgiven : given ≠ .null) :
    ∃ rules, checked.rules = some rules ∧ checkRules given = .ok rules := by
  simp only [checkEntries, Checked.seq_eq_ok_iff, Checked.map_eq_ok_iff] at h
  obtain ⟨_, ⟨_, ⟨_, ⟨_, -, rfl⟩, _, -, rfl⟩, _, -, rfl⟩, rules, hchecked, rfl⟩ := h
  rcases entryOr_eq_ok_iff.1 hchecked with ⟨habsent, -⟩ | ⟨value, hvalue, hsome⟩
  · rw [hrules] at habsent
    cases habsent
  · cases hrules.symm.trans hvalue
    rcases orNull_eq_ok_iff.1 hsome with ⟨hnull, -⟩ | ⟨-, hsome⟩
    · exact absurd hnull hgiven
    · obtain ⟨accepted, haccepted, rfl⟩ := Checked.map_eq_ok_iff.1 hsome
      exact ⟨accepted, rfl, haccepted⟩

theorem checkConfiguration_eq_ok {defaults : List Rule} {entries : List (Value × Value)}
    {configuration : Configuration} (h : checkConfiguration defaults entries = .ok configuration) :
    ∃ checked, checkEntries entries = .ok checked ∧
      ((checked.rules.getD []).map Rule.tag).Nodup ∧
      configuration.settings = checked.settings ∧
      configuration.rules = checked.rules.getD defaults := by
  obtain ⟨checked, hchecked, hnext⟩ := Checked.andThen_eq_ok_iff.1 h
  split at hnext
  · exact absurd hnext Checked.refuse_ne_ok
  · rename_i hrepeated
    cases hnext
    exact ⟨checked, hchecked, (repeatedTag?_eq_none_iff.1 hrepeated).1, rfl, rfl⟩

namespace Configuration

theorem checkConfiguration_of_ofEntries {source : Text} {defaults : List Rule}
    {entries : List (Value × Value)} {configuration : Configuration}
    (h : ofEntries source defaults entries = .ok configuration) :
    checkConfiguration defaults entries = .ok configuration := by
  rw [ofEntries] at h
  split at h
  · cases h
  · rename_i hchecked
    split at h
    · cases h
      exact hchecked
    · cases h

/-- **Accepted configurations.** Let a configuration with rules of its own be accepted. No tag has
two rules, so that the rule of a tag is the one that has it, and the settings are within their
bounds. Every rule comes of the item in its place; it is sound exactly if no line feed stands behind
its tag, not all of the keywords given for it are blank, and its priority is a number. -/
theorem ofData_accepted {source : Text} {defaults : List Rule} {entries : List (Value × Value)}
    {given : Value} {configuration : Configuration}
    (h : ofData source defaults (.map entries) = .ok configuration)
    (hrules : named? entries "rules" = some given) (hgiven : given ≠ .null) :
    (configuration.rules.map Rule.tag).Nodup ∧
      (∀ rule ∈ configuration.rules, configuration.ruleFor? rule.tag = some rule) ∧
      configuration.settings.IsSound ∧
      ∃ items, given.items? = some items ∧
        List.Forall₂ Rule.ComesFrom items configuration.rules := by
  obtain ⟨checked, hchecked, hnodup, hsettings, hconfigured⟩ :=
    checkConfiguration_eq_ok (checkConfiguration_of_ofEntries h)
  have hsound := checkEntries_isSound hchecked
  obtain ⟨rules, hsome, haccepted⟩ := checkEntries_eq_ok hchecked hrules hgiven
  rw [hsome, Option.getD_some] at hnodup hconfigured
  rw [hconfigured, hsettings]
  refine ⟨hnodup, fun rule hmem => ?_, hsound, ?_⟩
  · rw [ruleFor?, hconfigured]
    exact find?_tag hnodup hmem
  · obtain ⟨items, hitems, hall⟩ := checkItems_eq_ok_iff.1 haccepted
    exact ⟨items, hitems, hall.imp fun _ _ => Rule.comesFrom⟩

/-- A rule with one keyword, as data. -/
def ruleValue (tag keyword : Text) : Value :=
  .ofEntries [("tag".toList, .text tag), ("keywords".toList, .list [.text keyword])]

/-- Of two accepted rules one is sound, and the other has a line feed behind its tag. -/
theorem ofData_accepted_pair :
    let given : Value := .list [ruleValue ['A'] ['X'], ruleValue ['B', '\n'] ['y']]
    let entries : List (Value × Value) := [(.text "rules".toList, given)]
    let first : Rule := { tag := ['A'], keywords := [['x']] }
    let second : Rule := { tag := ['B', '\n'], keywords := [['y']] }
    let configuration : Configuration := { rules := [first, second] }
    ofData "<dict>".toList [] (.map entries) = .ok configuration ∧
      named? entries "rules" = some given ∧ given ≠ .null ∧
      configuration.ruleFor? ['A'] = some first ∧ first.IsSound ∧ ¬ second.IsSound := by
  intro given entries first second configuration
  have hok : ofData "<dict>".toList [] (.map entries) = .ok configuration := rfl
  have hrules : named? entries "rules" = some given := rfl
  have hgiven : given ≠ .null := nofun
  obtain ⟨-, hfound, -, items, hitems, hall⟩ := ofData_accepted hok hrules hgiven
  cases hitems
  obtain ⟨hfirst, hrest⟩ := List.forall₂_cons.1 hall
  obtain ⟨hsecond, -⟩ := List.forall₂_cons.1 hrest
  refine ⟨hok, hrules, hgiven, hfound first List.mem_cons_self, hfirst.isSound_iff.2 ?_, ?_⟩
  · exact ⟨by decide, ⟨_, _, rfl, rfl, ['X'], List.mem_cons_self, by decide⟩, by decide⟩
  · exact fun hsound => absurd (hsecond.isSound_iff.1 hsound).1 (by decide)

/-- Two accepted rules, one with a line feed behind its tag and one without keywords. -/
theorem ofData_not_isSound :
    let given : Value := .list [ruleValue ['A', '\n'] ['x'], ruleValue ['B'] [' ']]
    let line : Rule := { tag := ['A', '\n'], keywords := [['x']] }
    let blank : Rule := { tag := ['B'] }
    ofData "<dict>".toList [] (.map [(.text "rules".toList, given)]) =
        .ok { rules := [line, blank] } ∧
      isIdentifier line.tag = false ∧ blank.keywords = [] ∧ ¬ line.IsSound ∧ ¬ blank.IsSound := by
  intro given line blank
  have hline : isIdentifier line.tag = false := by decide
  have hblank : blank.keywords = [] := rfl
  exact ⟨rfl, hline, hblank, fun hsound => Bool.eq_false_iff.1 hline hsound.tag,
    fun hsound => hsound.keywords hblank⟩

end Configuration

end FormLetter
