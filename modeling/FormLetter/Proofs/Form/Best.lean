import FormLetter.Form.Rule
import Mathlib.Algebra.Order.Ring.Unbundled.Rat
import Mathlib.Data.List.Induction

/-!
# The entry that suits a rule best

A rule looks for the highest score among the entries that have a value. Only a positive score
counts, and of equal scores the first.

* `Extended.exceeds_trans`, `Extended.exceeds_of_not_exceeds`: the order of scores.
* `Rule.IsCandidate`: an entry that a rule may take.
* `Rule.IsFirstBest`: the first entry with the highest score, given what stands before and behind it.
* `Rule.HasFound`: what a search has found; `Rule.HasFound.better`: one more entry.
* `Rule.hasFound_bestBy?`: what the search for the best entry finds.
-/

namespace FormLetter

/-! ## The order of scores -/

namespace Extended

variable {x y z : Extended}

theorem exceeds_trans (h : x.exceeds y = true) (h' : y.exceeds z = true) :
    x.exceeds z = true := by
  cases x <;> cases y <;> cases z <;> simp_all [exceeds]
  exact h'.trans h

/-- What exceeds a score exceeds every score that is no higher. -/
theorem exceeds_of_not_exceeds (h : x.exceeds y = true) (h' : ¬ z.exceeds y = true)
    (hz : z ≠ undefined) : x.exceeds z = true := by
  cases x <;> cases y <;> cases z <;> simp_all [exceeds]
  exact h'.trans_lt h

end Extended

/-! ## Candidates -/

namespace Rule

/-- An entry that a rule may take: it has a value and a positive score. -/
def IsCandidate (weigh : Weighing) (rule : Rule) (entry : Text × Text) : Prop :=
  entry.2 ≠ [] ∧ (rule.score weigh entry.1).exceeds (.finite 0) = true

/-- What a rule takes from an entry. -/
def matchOf (weigh : Weighing) (rule : Rule) (entry : Text × Text) : Match where
  key := entry.1
  value := entry.2
  points := rule.points entry.1
  score := rule.score weigh entry.1

/-- The entry that a match was taken from. -/
def Match.entry (found : Match) : Text × Text := (found.key, found.value)

@[simp] theorem entry_matchOf (weigh : Weighing) (rule : Rule) (entry : Text × Text) :
    (rule.matchOf weigh entry).entry = entry := rfl

/-- Of the entries with a value, the first with the highest score, if that is positive. A score that
is undefined compares with none. -/
structure IsFirstBest (weigh : Weighing) (rule : Rule) (front : List (Text × Text))
    (entry : Text × Text) (back : List (Text × Text)) : Prop where
  /-- The entry has a value and a positive score. -/
  candidate : rule.IsCandidate weigh entry
  /-- The scores before it are lower. -/
  front : ∀ other ∈ front, other.2 ≠ [] → rule.score weigh other.1 ≠ .undefined →
    (rule.score weigh entry.1).exceeds (rule.score weigh other.1) = true
  /-- The scores behind it are no higher. -/
  back : ∀ other ∈ back, other.2 ≠ [] →
    ¬ (rule.score weigh other.1).exceeds (rule.score weigh entry.1) = true

section

variable {weigh : Weighing} {rule : Rule} {entry other : Text × Text} {best : Option Match}
  {found : Match} {front back entries : List (Text × Text)}

theorem better_of_not_isCandidate (h : ¬ rule.IsCandidate weigh entry) :
    rule.better weigh best entry = best := by
  have hskip : (decide (entry.2 = []) ||
      !(rule.score weigh entry.1).exceeds (.finite 0)) = true := by
    by_contra hkeep
    exact h (by simpa [IsCandidate] using hkeep)
  exact if_pos hskip

theorem better_none (h : rule.IsCandidate weigh entry) :
    rule.better weigh none entry = some (rule.matchOf weigh entry) :=
  if_neg (by simpa [IsCandidate] using h)

theorem better_matchOf (h : rule.IsCandidate weigh other) :
    rule.better weigh (some (rule.matchOf weigh entry)) other =
      some (rule.matchOf weigh
        (if (rule.score weigh other.1).exceeds (rule.score weigh entry.1) then other else entry)) := by
  rw [apply_ite (rule.matchOf weigh), apply_ite some]
  exact if_neg (by simpa [IsCandidate] using h)

theorem bestBy?_concat (entries : List (Text × Text)) (entry : Text × Text) :
    rule.bestBy? weigh (entries ++ [entry]) =
      rule.better weigh (rule.bestBy? weigh entries) entry := by
  rw [bestBy?, List.foldl_append]
  rfl

/-- A candidate exceeds every other entry with a value that is none. -/
theorem IsCandidate.exceeds (h : rule.IsCandidate weigh entry)
    (hother : ¬ rule.IsCandidate weigh other) (hvalue : other.2 ≠ [])
    (hdefined : rule.score weigh other.1 ≠ .undefined) :
    (rule.score weigh entry.1).exceeds (rule.score weigh other.1) = true :=
  Extended.exceeds_of_not_exceeds h.2 (fun hpositive => hother ⟨hvalue, hpositive⟩) hdefined

/-! ## One more entry -/

theorem IsFirstBest.keep (h : rule.IsFirstBest weigh front entry back)
    (hnext : other.2 ≠ [] →
      ¬ (rule.score weigh other.1).exceeds (rule.score weigh entry.1) = true) :
    rule.IsFirstBest weigh front entry (back ++ [other]) :=
  ⟨h.candidate, h.front, List.forall_mem_append.2 ⟨h.back, List.forall_mem_singleton.2 hnext⟩⟩

theorem IsFirstBest.replace (h : rule.IsFirstBest weigh front entry back)
    (hnext : rule.IsCandidate weigh other)
    (hexceeds : (rule.score weigh other.1).exceeds (rule.score weigh entry.1) = true) :
    rule.IsFirstBest weigh (front ++ entry :: back) other [] := by
  refine ⟨hnext, List.forall_mem_append.2 ⟨fun before hmem hvalue hdefined => ?_,
    List.forall_mem_cons.2 ⟨fun _ _ => hexceeds, fun behind hmem hvalue hdefined => ?_⟩⟩, nofun⟩
  · exact Extended.exceeds_trans hexceeds (h.front before hmem hvalue hdefined)
  · exact Extended.exceeds_of_not_exceeds hexceeds (h.back behind hmem hvalue) hdefined

/-- What the search has found after some entries. -/
inductive HasFound (weigh : Weighing) (rule : Rule) :
    List (Text × Text) → Option Match → Prop where
  /-- There was no candidate. -/
  | nothing {entries : List (Text × Text)} :
    (∀ entry ∈ entries, ¬ rule.IsCandidate weigh entry) → HasFound weigh rule entries none
  /-- The first best entry. -/
  | entry {front : List (Text × Text)} {entry : Text × Text} {back : List (Text × Text)} :
    rule.IsFirstBest weigh front entry back →
      HasFound weigh rule (front ++ entry :: back) (some (rule.matchOf weigh entry))

theorem HasFound.better (h : rule.HasFound weigh entries best) (next : Text × Text) :
    rule.HasFound weigh (entries ++ [next]) (rule.better weigh best next) := by
  by_cases hnext : rule.IsCandidate weigh next
  · cases h with
    | nothing hnone =>
      rw [better_none hnext]
      exact .entry ⟨hnext, fun other hmem => hnext.exceeds (hnone other hmem), nofun⟩
    | @entry front entry back hbest =>
      rw [better_matchOf hnext]
      split
      · rename_i hexceeds
        exact .entry (hbest.replace hnext hexceeds)
      · rename_i hexceeds
        rw [List.append_assoc, List.cons_append]
        exact .entry (hbest.keep fun _ => hexceeds)
  · rw [better_of_not_isCandidate hnext]
    cases h with
    | nothing hnone =>
      exact .nothing (List.forall_mem_append.2 ⟨hnone, List.forall_mem_singleton.2 hnext⟩)
    | @entry front entry back hbest =>
      rw [List.append_assoc, List.cons_append]
      refine .entry (hbest.keep fun hvalue hexceeds => hnext ⟨hvalue, ?_⟩)
      exact Extended.exceeds_trans hexceeds hbest.candidate.2

theorem hasFound_bestBy? (weigh : Weighing) (rule : Rule) (entries : List (Text × Text)) :
    rule.HasFound weigh entries (rule.bestBy? weigh entries) := by
  induction entries using List.reverseRecOn with
  | nil => exact .nothing nofun
  | append_singleton entries next ih =>
    rw [bestBy?_concat]
    exact ih.better next

end

end Rule

end FormLetter
