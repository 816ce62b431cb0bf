import FormLetter.Configuration.Check
import Mathlib.Data.List.Forall2

/-!
# What was accepted

Each way of putting checks together accepts exactly what its parts accept.

* `Checked.map_eq_ok_iff`, `Checked.seq_eq_ok_iff`, `Checked.andThen_eq_ok_iff`,
  `Checked.each_eq_ok_iff`: checks of several values.
* `entryOr_eq_ok_iff`, `orNull_eq_ok_iff`, `checkItems_eq_ok_iff`: checks of the parts of a value.
* `repeatedTag?_eq_none_iff`: no tag comes twice.
-/

namespace FormLetter

open Text

namespace Checked

variable {α β : Type}

theorem map_eq_ok_iff {f : α → β} {outcome : Checked α} {b : β} :
    (f <$> outcome) = ok b ↔ ∃ a, outcome = ok a ∧ f a = b := by
  show combine (ok f) outcome = ok b ↔ _
  rw [combine_eq_ok_iff]
  constructor
  · rintro ⟨g, a, hg, ha, hb⟩
    cases hg
    exact ⟨a, ha, hb⟩
  · rintro ⟨a, ha, hb⟩
    exact ⟨f, a, rfl, ha, hb⟩

theorem seq_eq_ok_iff {function : Checked (α → β)} {argument : Checked α} {b : β} :
    (function <*> argument) = ok b ↔ ∃ f, function = ok f ∧ ∃ a, argument = ok a ∧ f a = b := by
  show combine function argument = ok b ↔ _
  rw [combine_eq_ok_iff]
  simp only [exists_and_left]

theorem andThen_eq_ok_iff {outcome : Checked α} {next : α → Checked β} {b : β} :
    outcome.andThen next = ok b ↔ ∃ a, outcome = ok a ∧ next a = ok b := by
  cases outcome <;> simp [andThen]

theorem within_eq_ok_iff {place : Place} {outcome : Checked α} {a : α} :
    within place outcome = ok a ↔ outcome = ok a := by
  cases outcome <;> simp [within]

theorem ofCause_eq_ok_iff {outcome : Except Problem.Cause α} {a : α} :
    ofCause outcome = ok a ↔ outcome = .ok a := by
  cases outcome <;> simp [ofCause, refuse]

theorem refuse_ne_ok {cause : Problem.Cause} {a : α} : refuse cause ≠ ok a := by
  simp [refuse]

theorem eachFrom_eq_ok_iff {check : Value → Checked α} {first : Nat} {items : List Value}
    {results : List α} :
    eachFrom check first items = ok results ↔
      List.Forall₂ (fun item result => check item = ok result) items results := by
  induction items generalizing first results with
  | nil => cases results <;> simp [eachFrom]
  | cons item items ih =>
    rw [eachFrom]
    simp only [combine_eq_ok_iff, within_eq_ok_iff, ih]
    constructor
    · rintro ⟨f, rest, ⟨g, result, hg, hresult, rfl⟩, hrest, rfl⟩
      cases hg
      exact .cons hresult hrest
    · rintro (_ | ⟨hresult, hrest⟩)
      exact ⟨_, _, ⟨_, _, rfl, hresult, rfl⟩, hrest, rfl⟩

theorem each_eq_ok_iff {check : Value → Checked α} {items : List Value} {results : List α} :
    each check items = ok results ↔
      List.Forall₂ (fun item result => check item = ok result) items results :=
  eachFrom_eq_ok_iff

end Checked

/-! ## Parts of a value -/

section

variable {α : Type} {entries : List (Value × Value)} {name : String} {value : Value}

theorem entryOr_eq_ok_iff {default : Checked α} {check : Value → Checked α} {a : α} :
    entryOr entries name default check = .ok a ↔
      named? entries name = none ∧ default = .ok a ∨
        ∃ value, named? entries name = some value ∧ check value = .ok a := by
  rw [entryOr, Checked.within_eq_ok_iff]
  cases named? entries name <;> simp

theorem orNull_eq_ok_iff {default : α} {check : Value → Checked α} {a : α} :
    orNull default check value = .ok a ↔
      value = .null ∧ default = a ∨ value ≠ .null ∧ check value = .ok a := by
  cases value <;> simp [orNull]

/-- The items of a value that counts as a list. -/
def Value.items? : Value → Option (List Value)
  | .list items | .set items => some items
  | .pairs entries => some (entries.map fun (key, value) => .list [key, value])
  | _ => none

theorem checkItems_eq_ok_iff {check : Value → Checked α} {results : List α} :
    checkItems check value = .ok results ↔
      ∃ items, value.items? = some items ∧
        List.Forall₂ (fun item result => check item = .ok result) items results := by
  cases value <;> simp [checkItems, Value.items?, Checked.each_eq_ok_iff, Checked.refuse_ne_ok]

end

/-! ## Tags -/

theorem repeatedTag?_eq_none_iff {seen tags : List Text} :
    repeatedTag? seen tags = none ↔ tags.Nodup ∧ ∀ tag ∈ tags, tag ∉ seen := by
  induction tags generalizing seen with
  | nil => exact iff_of_true rfl ⟨List.nodup_nil, fun _ h => absurd h List.not_mem_nil⟩
  | cons tag tags ih =>
    show (if tag ∈ seen then some tag else repeatedTag? (tag :: seen) tags) = none ↔ _
    by_cases hseen : tag ∈ seen
    · simp [hseen]
    · rw [if_neg hseen, ih, List.nodup_cons]
      constructor
      · rintro ⟨hnodup, hrest⟩
        have htag : tag ∉ tags := fun hmem => hrest tag hmem List.mem_cons_self
        refine ⟨⟨htag, hnodup⟩, List.forall_mem_cons.2 ⟨hseen, fun other hmem hother => ?_⟩⟩
        exact hrest other hmem (List.mem_cons_of_mem tag hother)
      · rintro ⟨⟨htag, hnodup⟩, hall⟩
        refine ⟨hnodup, fun other hmem hother => ?_⟩
        rcases List.mem_cons.1 hother with rfl | hother
        · exact htag hmem
        · exact hall other (List.mem_cons_of_mem tag hmem) hother

/-- Where no tag comes twice, the rule found for the tag of a rule is that rule. -/
theorem find?_tag {rules : List Rule} (h : (rules.map Rule.tag).Nodup) {rule : Rule}
    (hmem : rule ∈ rules) : rules.find? (fun other => other.tag = rule.tag) = some rule := by
  induction rules with
  | nil => exact absurd hmem List.not_mem_nil
  | cons first rules ih =>
    obtain ⟨hfirst, hnodup⟩ := List.nodup_cons.1 h
    rcases List.mem_cons.1 hmem with rfl | hmem
    · exact List.find?_cons_of_pos (decide_eq_true rfl)
    · have hne : first.tag ≠ rule.tag := fun heq =>
        hfirst (heq ▸ List.mem_map_of_mem hmem)
      rw [List.find?_cons_of_neg (by simpa using hne)]
      exact ih hnodup hmem

end FormLetter
