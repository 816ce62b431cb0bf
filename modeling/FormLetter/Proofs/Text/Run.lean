import FormLetter.Text.Basic
import Mathlib.Data.List.TakeWhile

/-!
# Runs of characters

A test of characters cuts a text into the runs of those that pass it and the gaps between them.

* `IsRun`, `runs`: the maximal runs of a text.
* `runs_induction`: a text taken apart from the left, gap by gap and run by run.
* `isRun_of_mem_runs`, `runs_joinWith`: runs are what is found, and joined runs are found again.
-/

namespace FormLetter

namespace Text

/-- A text that is not empty and in which every character passes a test. -/
def IsRun (p : Char → Bool) (run : Text) : Prop := run ≠ [] ∧ ∀ c ∈ run, p c = true

/-- The maximal runs of characters of a text that pass a test. -/
def runs (p : Char → Bool) (text : Text) : List Text :=
  (text.splitOnP fun c => !p c).filter fun run => !run.isEmpty

section

variable {p : Char → Bool} {rest run : Text} {c : Char}

@[simp] theorem runs_nil : runs p [] = [] := rfl

theorem runs_cons (h : p c = false) (rest : Text) : runs p (c :: rest) = runs p rest := by
  have hnone : ∀ d ∈ ([] : Text), (!p d) = false := fun _ hd => absurd hd List.not_mem_nil
  have hsplit := List.splitOnP_append_cons_of_forall_mem hnone c (by simp [h]) rest
  rw [runs, ← List.nil_append (c :: rest), hsplit]
  rfl

theorem runs_append_of_forall {front : Text} (h : ∀ c ∈ front, p c = false) (rest : Text) :
    runs p (front ++ rest) = runs p rest := by
  induction front with
  | nil => rfl
  | cons c front ih =>
    obtain ⟨hc, hfront⟩ := List.forall_mem_cons.1 h
    rw [List.cons_append, runs_cons hc, ih hfront]

/-- A run ends where the text ends or a gap begins. -/
theorem runs_append (h : IsRun p run) (hr : ∀ c ∈ rest.head?, p c = false) :
    runs p (run ++ rest) = run :: runs p rest := by
  have hmem : ∀ c ∈ run, (!p c) = false := fun c hc => by rw [h.2 c hc]; rfl
  cases rest with
  | nil =>
    rw [List.append_nil, runs, List.splitOnP_eq_singleton hmem]
    simp [h.1]
  | cons c rest =>
    have hc : p c = false := hr c rfl
    rw [runs_cons hc, runs, List.splitOnP_append_cons_of_forall_mem hmem c (by simp [hc])]
    simp [runs, h.1]

/-- A text that starts with a character of a run starts with the whole run. -/
theorem exists_run (h : p c = true) (rest : Text) :
    ∃ run back, c :: rest = run ++ back ∧ IsRun p run ∧ ∀ d ∈ back.head?, p d = false := by
  refine ⟨(c :: rest).takeWhile p, (c :: rest).dropWhile p, List.takeWhile_append_dropWhile.symm,
    ⟨?_, fun d => List.mem_takeWhile_imp⟩, fun d hd => ?_⟩
  · rw [List.takeWhile_cons_of_pos h]
    exact List.cons_ne_nil _ _
  · have hnot := List.head?_dropWhile_not p (c :: rest)
    rwa [Option.mem_def.1 hd] at hnot

/-- A text is taken apart from the left: a character of a gap, or a whole run. -/
theorem runs_induction (p : Char → Bool) {motive : Text → Prop} (nil : motive [])
    (gap : ∀ c rest, p c = false → motive rest → motive (c :: rest))
    (run : ∀ run rest, IsRun p run → (∀ c ∈ rest.head?, p c = false) → motive rest →
      motive (run ++ rest)) (text : Text) : motive text := by
  induction hn : text.length using Nat.strongRecOn generalizing text with
  | ind n ih =>
    cases text with
    | nil => exact nil
    | cons c rest =>
      subst hn
      cases hc : p c with
      | false => exact gap c rest hc (ih _ (Nat.lt_succ_self _) rest rfl)
      | true =>
        obtain ⟨front, back, heq, hfront, hback⟩ := exists_run hc rest
        have hshorter : back.length < (c :: rest).length := by
          rw [heq, List.length_append]
          have hpos := List.length_pos_iff.2 hfront.1
          omega
        rw [heq]
        exact run front back hfront hback (ih _ hshorter back rfl)

/-- What is found is a run. -/
theorem isRun_of_mem_runs (p : Char → Bool) (text : Text) : ∀ run ∈ runs p text, IsRun p run := by
  induction text using runs_induction p with
  | nil => exact fun _ h => absurd h List.not_mem_nil
  | gap c rest hc ih => rwa [runs_cons hc]
  | run run rest hrun hrest ih =>
    rw [runs_append hrun hrest]
    exact List.forall_mem_cons.2 ⟨hrun, ih⟩

/-- Runs with gaps between them are found again. -/
theorem runs_joinWith {separator : Text} (hne : separator ≠ []) (hs : ∀ c ∈ separator, p c = false)
    {pieces : List Text} (h : ∀ piece ∈ pieces, IsRun p piece) :
    runs p (joinWith separator pieces) = pieces := by
  induction pieces with
  | nil => rfl
  | cons piece pieces ih =>
    obtain ⟨hpiece, hrest⟩ := List.forall_mem_cons.1 h
    by_cases hp : pieces = []
    · subst hp
      have hend : ∀ c ∈ ([] : Text).head?, p c = false :=
        fun _ hc => absurd hc (Option.not_mem_none _)
      have hlast := runs_append hpiece hend
      rwa [List.append_nil] at hlast
    · obtain ⟨d, back, rfl⟩ := List.exists_cons_of_ne_nil hne
      rw [joinWith_cons _ _ hp, List.append_assoc, runs_append hpiece, runs_append_of_forall hs,
        ih hrest]
      exact fun c hc => Option.some.inj hc ▸ hs d List.mem_cons_self

end

end Text

end FormLetter
