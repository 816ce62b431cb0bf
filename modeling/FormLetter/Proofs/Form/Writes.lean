import FormLetter.Form.Filling

/-!
# The writes that fill a context

A context is filled by one write after the other. Tags are set to the value of their field, values
are offered for keys, rules take values over, and business names are abbreviated.

* `Write`: a write; `Write.apply` carries it out, and `applyAll` carries out several.
* `Submission.offers`: the writes before the rules.
* `Submission.writes`: all writes.
* `applyAll_offers`, `applyAll_writes`: the writes of a submission fill its context.
-/

namespace FormLetter

open Text

/-- A write to a context. -/
inductive Write where
  /-- A tag is set to a value, whatever it holds; an empty value sets nothing. -/
  | assign (tag value : Text)
  /-- A key is set to a value, unless it holds one that is not empty. -/
  | offer (key value : Text)
  /-- A tag without a value takes over the one that suits a rule best. -/
  | suit (rule : Rule)
  /-- A tag without a value abbreviates the name that another tag holds. -/
  | abbreviate (tag source : Text)

namespace Write

/-- Carries out a write. -/
def apply (length : Int) (write : Write) (context : Context) : Context :=
  match write with
  | assign tag value => if value = [] then context else context.insert tag value
  | offer key value => fill key value context
  | suit rule =>
    if isFilled context rule.tag then context
    else
      match rule.best? context.entries with
      | none => context
      | some found => context.insert rule.tag found.value
  | abbreviate tag source =>
    if isFilled context tag then context
    else
      match FormLetter.abbreviate length ((context.get? source).getD []) with
      | [] => context
      | abbreviation => context.insert tag abbreviation

/-- The key that a write may set. -/
def key : Write → Text
  | assign tag _ => tag
  | offer key _ => key
  | suit rule => rule.tag
  | abbreviate tag _ => tag

/-- The value that a write offers for its key; rules and abbreviations offer none of their own. -/
def offered? : Write → Option Text
  | assign _ value => some value
  | offer _ value => some value
  | suit _ => none
  | abbreviate _ _ => none

/-- Whether a write sets its key without regard to what it holds. -/
def isAssignment : Write → Bool
  | assign _ _ => true
  | _ => false

end Write

/-- Carries out writes one after the other. -/
def applyAll (length : Int) (writes : List Write) (context : Context) : Context :=
  writes.foldl (fun context write => write.apply length context) context

/-! ## The writes of a submission -/

/-- Offers a value for several keys. -/
def offerAll (keys : List Text) (value : Text) : List Write := keys.map fun key => .offer key value

/-- Sets each tag to the value of its field. -/
def assignments (fields : List Field) (mapping : List (Text × Text)) : List Write :=
  mapping.filterMap fun (tag, id) =>
    (fieldOf? fields id).map fun field => .assign tag field.flat

/-- Offers the value of every field for the keys of the field. -/
def fieldOffers (fields : List Field) : List Write :=
  fields.flatMap fun field => offerAll field.keys field.flat

/-- Offers the system values, the date and the time. -/
def systemOffers (now : Moment) (values : List (Text × Value)) : List Write :=
  (values.flatMap fun entry => offerAll (systemKeys entry.1) (Context.contextText entry.2)) ++
    offerAll (["CurrentDate", "CURRENTDATE"].map String.toList) (dateText now) ++
    offerAll (["CurrentTime", "CURRENTTIME"].map String.toList) (timeText now)

/-- Offers a value for two keys, if there is one. -/
def pairOffers (mixed capital : String) (value : Text) : List Write :=
  if value = [] then [] else offerAll [mixed.toList, capital.toList] value

/-- Offers the name and the address of the person. -/
def personOffers (fields : List Field) : List Write :=
  let person := personOf fields
  pairOffers "UserFirstName" "USERFIRSTNAME" person.first ++
    pairOffers "UserLastName" "USERLASTNAME" person.last ++
    pairOffers "UserEmail" "USEREMAIL" person.email ++
    if person.first = [] && person.last = [] then []
    else
      offerAll (["UserName", "USERNAME"].map String.toList)
        (strip (person.first ++ ' ' :: person.last))

namespace Submission

/-- The writes before the rules: the mapping, the fields, the system values with the date and the
time, and the person. -/
def offers (now : Moment) (submission : Submission) : List Write :=
  assignments submission.fields submission.mapping ++ fieldOffers submission.fields ++
    systemOffers now submission.system ++ personOffers submission.fields

/-- All writes: the offers, the rules, and the abbreviations. -/
def writes (rules : List Rule) (now : Moment) (submission : Submission) : List Write :=
  submission.offers now ++ rules.map .suit ++
    abbreviationSources.map fun (tag, source) => .abbreviate tag.toList source.toList

end Submission

/-! ## Filling as writes -/

section

variable {length : Int} {context : Context}

theorem applyAll_append (front back : List Write) :
    applyAll length (front ++ back) context =
      applyAll length back (applyAll length front context) :=
  List.foldl_append

theorem applyAll_offerAll (keys : List Text) (value : Text) :
    applyAll length (offerAll keys value) context = fillAll keys value context :=
  List.foldl_map

theorem applyAll_assignments (fields : List Field) (mapping : List (Text × Text)) :
    applyAll length (assignments fields mapping) context =
      (fillMapping fields mapping context).1 := by
  induction mapping generalizing context with
  | nil => rfl
  | cons entry mapping ih =>
    obtain ⟨tag, id⟩ := entry
    unfold assignments at ih ⊢
    rw [fillMapping]
    cases hfield : fieldOf? fields id with
    | none => simpa [hfield] using ih
    | some field =>
      by_cases hvalue : field.flat = []
      · simpa [hfield, hvalue, applyAll, Write.apply] using ih
      · simpa [hfield, hvalue, applyAll, Write.apply] using ih

theorem applyAll_flatMap_offerAll {α : Type} (items : List α) (keys : α → List Text)
    (value : α → Text) :
    applyAll length (items.flatMap fun item => offerAll (keys item) (value item)) context =
      items.foldl (fun context item => fillAll (keys item) (value item) context) context := by
  unfold applyAll
  rw [List.foldl_flatMap]
  congr 1
  funext context item
  exact applyAll_offerAll (keys item) (value item)

theorem applyAll_systemOffers (now : Moment) (values : List (Text × Value)) :
    applyAll length (systemOffers now values) context = fillSystem now values context := by
  rw [systemOffers, applyAll_append, applyAll_append, applyAll_flatMap_offerAll,
    applyAll_offerAll, applyAll_offerAll]
  rfl

theorem applyAll_pairOffers (mixed capital : String) (value : Text) :
    applyAll length (pairOffers mixed capital value) context =
      fillPair mixed capital value context := by
  unfold pairOffers fillPair
  split
  · rfl
  · exact applyAll_offerAll _ value

theorem applyAll_personOffers (fields : List Field) :
    applyAll length (personOffers fields) context = fillPerson fields context := by
  unfold personOffers fillPerson
  simp only [applyAll_append, applyAll_pairOffers]
  split
  · rfl
  · exact applyAll_offerAll _ _

/-- The writes before the rules, taken together. -/
theorem applyAll_offers (now : Moment) (submission : Submission) :
    applyAll length (submission.offers now) context =
      fillPerson submission.fields (fillSystem now submission.system
        (fillFields submission.fields
          (fillMapping submission.fields submission.mapping context).1)) := by
  rw [Submission.offers, applyAll_append, applyAll_append, applyAll_append, applyAll_assignments,
    fieldOffers, applyAll_flatMap_offerAll, applyAll_systemOffers, applyAll_personOffers]
  rfl

theorem applyAll_suit (rules : List Rule) :
    applyAll length (rules.map .suit) context = (fillRules rules context).1 := by
  induction rules generalizing context with
  | nil => rfl
  | cons rule rules ih =>
    rw [List.map_cons, fillRules, fillRulesBy]
    show applyAll length _ (Write.apply length (.suit rule) context) = _
    rw [ih, Write.apply, Rule.best?]
    split
    · rfl
    · cases rule.bestBy? .rounded context.entries <;> rfl

theorem applyAll_abbreviate :
    applyAll length
        (abbreviationSources.map fun (tag, source) => .abbreviate tag.toList source.toList)
        context =
      fillAbbreviations length context := rfl

/-- The writes of a submission fill its context. -/
theorem applyAll_writes (rules : List Rule) (now : Moment) (submission : Submission) :
    applyAll length (submission.writes rules now) .empty =
      (fillContext rules length now submission).context := by
  rw [Submission.writes, applyAll_append, applyAll_append, applyAll_offers, applyAll_suit,
    applyAll_abbreviate]
  rfl

end

end FormLetter
