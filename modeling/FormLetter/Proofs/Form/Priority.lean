import FormLetter.Form.Filling
import FormLetter.Proofs.Form.Best
import Mathlib.Algebra.Order.Field.Rat
import Mathlib.Algebra.Order.Ring.Cast

/-!
# Priorities

The scores that a rule gives are compared with one another only, and all of them are multiples of
its priority. By exact scores a priority therefore decides nothing, as long as it is a number above
zero. Rounded scores of a high priority may be too large and become equal.

* `Rule.Reweighed`: rules that differ in their priorities.
* `Weighing.exceeds_exact`: exact scores are ordered as the points are.
* `Rule.bestBy?_reweighed`: both rules take the same entry.
* `fillContextBy_reweighed`: both lists of rules give the same context.
-/

namespace FormLetter

/-! ## Exact scores -/

/-- A rational number above zero. -/
def Binary64.IsWeight (priority : Binary64) : Prop :=
  ∃ q : Rat, 0 < q ∧ Extended.ofBinary64 priority = .finite q

namespace Weighing

variable {priority : Binary64}

theorem exact_eq {q : Rat} (h : Extended.ofBinary64 priority = .finite q) (points : Int) :
    exact priority points = .finite (points * q) := by
  rw [exact, h, Extended.scale]

theorem exceeds_exact_zero (h : priority.IsWeight) (points : Int) :
    (exact priority points).exceeds (.finite 0) = decide (0 < points) := by
  obtain ⟨q, hq, heq⟩ := h
  rw [exact_eq heq, Extended.exceeds_finite, decide_eq_decide, mul_pos_iff_of_pos_right hq]
  exact Int.cast_pos

/-- Exact scores are ordered as the points are. -/
theorem exceeds_exact (h : priority.IsWeight) (points others : Int) :
    (exact priority points).exceeds (exact priority others) = decide (others < points) := by
  obtain ⟨q, hq, heq⟩ := h
  rw [exact_eq heq, exact_eq heq, Extended.exceeds_finite, decide_eq_decide,
    mul_lt_mul_iff_left₀ hq]
  exact Int.cast_lt

end Weighing

/-! ## Rules that differ in their priorities -/

namespace Rule

/-- Two rules that differ in their priorities, which are above zero. -/
structure Reweighed (rule other : Rule) : Prop where
  /-- The tag is the same. -/
  tag : other.tag = rule.tag
  /-- The keywords are the same. -/
  keywords : other.keywords = rule.keywords
  /-- The excluded keywords are the same. -/
  excluded : other.excluded = rule.excluded
  /-- The priority of the first is above zero. -/
  isWeight : rule.priority.IsWeight
  /-- The priority of the second is above zero. -/
  isWeight_other : other.priority.IsWeight

variable {rule other : Rule} {entry : Text × Text}

theorem Reweighed.points_eq (h : Reweighed rule other) (key : Text) :
    other.points key = rule.points key := by
  unfold points
  rw [h.keywords, h.excluded]

theorem Reweighed.exceeds_eq (h : Reweighed rule other) (key key' : Text) :
    (other.score .exact key).exceeds (other.score .exact key') =
      (rule.score .exact key).exceeds (rule.score .exact key') := by
  unfold score
  rw [Weighing.exceeds_exact h.isWeight_other, Weighing.exceeds_exact h.isWeight, h.points_eq,
    h.points_eq]

theorem Reweighed.isCandidate_iff (h : Reweighed rule other) :
    other.IsCandidate .exact entry ↔ rule.IsCandidate .exact entry := by
  unfold IsCandidate score
  rw [Weighing.exceeds_exact_zero h.isWeight_other, Weighing.exceeds_exact_zero h.isWeight,
    h.points_eq]

/-- Both rules take the same entry. -/
theorem bestBy?_reweighed (h : Reweighed rule other) (entries : List (Text × Text)) :
    other.bestBy? .exact entries =
      (rule.bestBy? .exact entries).map fun found => other.matchOf .exact found.entry := by
  induction entries using List.reverseRecOn with
  | nil => rfl
  | append_singleton entries next ih =>
    rw [bestBy?_concat, bestBy?_concat, ih]
    by_cases hnext : rule.IsCandidate .exact next
    · have hnext' : other.IsCandidate .exact next := h.isCandidate_iff.2 hnext
      have hfound := rule.hasFound_bestBy? .exact entries
      generalize rule.bestBy? .exact entries = best at hfound ⊢
      cases hfound with
      | nothing _ =>
        rw [Option.map_none, better_none hnext, better_none hnext', Option.map_some, entry_matchOf]
      | entry _ =>
        rw [Option.map_some, entry_matchOf, better_matchOf hnext, better_matchOf hnext',
          Option.map_some, entry_matchOf, h.exceeds_eq]
    · rw [better_of_not_isCandidate hnext,
        better_of_not_isCandidate (mt h.isCandidate_iff.1 hnext)]

end Rule

/-! ## Filling under other priorities -/

theorem fillRulesBy_reweighed {rules others : List Rule}
    (h : List.Forall₂ Rule.Reweighed rules others) (context : Context) :
    (fillRulesBy .exact others context).1 = (fillRulesBy .exact rules context).1 := by
  induction h generalizing context with
  | nil => rfl
  | cons hrule _ ih =>
    rw [fillRulesBy, fillRulesBy, hrule.tag, Rule.bestBy?_reweighed hrule]
    split
    · exact ih context
    · cases Rule.bestBy? .exact _ context.entries with
      | none => exact ih context
      | some found => exact ih _

/-- **Priorities decide nothing.** By exact scores, two lists of rules that differ in their
priorities, all of them numbers above zero, give the same context, whatever the submission, the
moment and the length of abbreviations. -/
theorem fillContextBy_reweighed {rules others : List Rule}
    (h : List.Forall₂ Rule.Reweighed rules others) (length : Int) (now : Moment)
    (submission : Submission) :
    (fillContextBy .exact others length now submission).context =
      (fillContextBy .exact rules length now submission).context := by
  unfold fillContextBy
  exact congrArg (fillAbbreviations length) (fillRulesBy_reweighed h _)

/-- The second rule takes over what the first has filled. -/
theorem fillContextBy_reweighed_parties :
    let party (priority : Binary64) : Rule :=
      ⟨"Party".toList, ["name".toList], ["first".toList], priority⟩
    let signed (priority : Binary64) : Rule :=
      ⟨"Signed".toList, ["party".toList, "name".toList], [], priority⟩
    let three := Binary64.finite false 3 0
    let half := Binary64.finite false 1 (-1)
    let fields : List Field :=
      [{ id := ['1'], label := "First Name".toList, value := .text "Ann".toList },
        { id := ['2'], label := "Trading Name".toList, value := .text "Acme".toList }]
    let now : Moment := { date := ⟨2024, 3, 15, by decide⟩ }
    let filled (rules : List Rule) : Context :=
      (fillContextBy .exact rules 6 now ⟨fields, [], []⟩).context
    List.Forall₂ Rule.Reweighed [party three, signed half] [party half, signed three] ∧
      filled [party half, signed three] = filled [party three, signed half] ∧
      (filled [party half, signed three]).get? "Signed".toList = some "Acme".toList := by
  intro party signed three half fields now filled
  have hthree : three.IsWeight := ⟨3, by decide +kernel, by decide +kernel⟩
  have hhalf : half.IsWeight := ⟨mkRat 1 2, by decide +kernel, by decide +kernel⟩
  have h : List.Forall₂ Rule.Reweighed [party three, signed half] [party half, signed three] :=
    .cons ⟨rfl, rfl, rfl, hthree, hhalf⟩ (.cons ⟨rfl, rfl, rfl, hhalf, hthree⟩ .nil)
  exact ⟨h, fillContextBy_reweighed h 6 now ⟨fields, [], []⟩, by decide +kernel⟩

/-- Scores beyond the largest number are equal once they are rounded. -/
example :
    let rule : Rule :=
      { tag := ['T'], keywords := [['a'], ['b']], priority := .finite false (2 ^ 52) 970 }
    let entries := [("no a".toList, ['1']), ("a b".toList, ['2'])]
    (rule.bestBy? .exact entries).map Rule.Match.key = some "a b".toList ∧
      (rule.bestBy? .rounded entries).map Rule.Match.key = some "no a".toList := by
  decide +kernel

end FormLetter
