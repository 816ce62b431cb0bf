import FormLetter.Proofs.Template.Ledger

/-!
# Pairing by reduction

Where all markers are of one kind, the pairs can be found in any order: take out an opening marker
that has a closing marker right behind it, note the pair, and go on with what is left.

* `Reduces`: reductions that go on as long as they can, with the pairs they note.
* `exists_reduces`: every list of marks can be reduced.
* `Reduces.perm_pairs_run`: however marks of one kind are reduced, the pairs are those of their
  ledger.
-/

namespace FormLetter

/-! ## Reduction -/

/-- The kind of block that a marker opens or closes. -/
def Marker.kind? (marker : Marker) : Option BlockKind := marker.opens?.or marker.closes?

/-- Whether a mark opens or closes a block. -/
def Mark.isBracket (mark : Mark) : Bool := mark.marker.kind?.isSome

theorem Mark.isBracket_iff {mark : Mark} :
    mark.isBracket = true ↔ mark.marker.opens?.isSome ∨ mark.marker.closes?.isSome := by
  rw [Mark.isBracket, Marker.kind?, Option.isSome_or, Bool.or_eq_true]

/-- No mark that opens a block has one right behind it that closes a block of its kind. -/
def Irreducible (marks : List Mark) : Prop :=
  ∀ front first last back, marks = front ++ first :: last :: back →
    ∀ kind, first.marker.opens? = some kind → last.marker.closes? ≠ some kind

/-- Marks are reduced: a mark that opens a block is taken out together with the one right behind it
that closes the block, until there are no such two left. -/
inductive Reduces : List Mark → List BlockPair → Prop where
  /-- There is nothing to take out. -/
  | done {marks : List Mark} : Irreducible marks → Reduces marks []
  /-- Two marks are taken out. -/
  | pair {front back : List Mark} {first last : Mark} {kind : BlockKind} {pairs : List BlockPair} :
    first.marker.opens? = some kind → last.marker.closes? = some kind →
      Reduces (front ++ back) pairs →
        Reduces (front ++ first :: last :: back) (⟨kind, first.position, last.position⟩ :: pairs)

/-- Every list of marks can be reduced. -/
theorem exists_reduces (marks : List Mark) : ∃ pairs, Reduces marks pairs := by
  induction hn : marks.length using Nat.strong_induction_on generalizing marks with
  | _ n ih =>
    by_cases hdone : Irreducible marks
    · exact ⟨[], .done hdone⟩
    · simp only [Irreducible, not_forall, not_not] at hdone
      obtain ⟨front, first, last, back, rfl, kind, hfirst, hlast⟩ := hdone
      have hlt : (front ++ back).length < n := by
        rw [← hn]
        simp only [List.length_append, List.length_cons]
        omega
      obtain ⟨pairs, hpairs⟩ := ih _ hlt (front ++ back) rfl
      exact ⟨_, .pair hfirst hlast hpairs⟩

/-! ## Reduction and ledgers -/

namespace Ledger

theorem step_pairs (ledger : Ledger) (mark : Mark) :
    (ledger.step mark).pending = (step ⟨ledger.pending, [], []⟩ mark).pending ∧
      (ledger.step mark).pairs = ledger.pairs ++ (step ⟨ledger.pending, [], []⟩ mark).pairs := by
  obtain ⟨position, source, marker⟩ := mark
  cases marker with
  | closer kind =>
    simp only [step]
    split <;> simp
  | _ => simp [step]

/-- The pairs that marks add depend on nothing but what is pending. -/
theorem pairs_foldl (marks : List Mark) (ledger : Ledger) :
    (marks.foldl step ledger).pairs =
      ledger.pairs ++ (marks.foldl step ⟨ledger.pending, [], []⟩).pairs := by
  induction marks generalizing ledger with
  | nil => simp
  | cons mark marks ih =>
    obtain ⟨hpending, hpairs⟩ := ledger.step_pairs mark
    rw [List.foldl_cons, List.foldl_cons, ih (ledger.step mark),
      ih (step ⟨ledger.pending, [], []⟩ mark), hpending, hpairs, List.append_assoc]

/-- Marks that open blocks add no pair. -/
theorem pairs_foldl_of_opens {marks : List Mark} (h : ∀ mark ∈ marks, mark.marker.opens?.isSome)
    (ledger : Ledger) : (marks.foldl step ledger).pairs = ledger.pairs := by
  induction marks generalizing ledger with
  | nil => rfl
  | cons mark marks ih =>
    obtain ⟨hfirst, hrest⟩ := List.forall_mem_cons.1 h
    rw [List.foldl_cons, ih hrest, step_opener ledger hfirst]

/-- A pair of neighbours can be taken out. -/
theorem pairs_run_pair {front back : List Mark} {first last : Mark} {kind : BlockKind}
    (hfirst : first.marker.opens? = some kind) (hlast : last.marker.closes? = some kind) :
    (run (front ++ first :: last :: back)).pairs.Perm
      (⟨kind, first.position, last.position⟩ :: (run (front ++ back)).pairs) := by
  have hopen := step_opener (run front) (Option.isSome_of_eq_some hfirst)
  have hclose := step_matched hlast
    (show ((run front).step first).pending = [] ++ first :: (run front).pending by rw [hopen]; rfl)
    (fun _ hm => absurd hm List.not_mem_nil) hfirst
  have hpairs : (run (front ++ first :: last :: back)).pairs =
      ((run front).pairs ++ [⟨kind, first.position, last.position⟩]) ++
        (back.foldl step ⟨(run front).pending, [], []⟩).pairs := by
    rw [run, List.foldl_append, ← run, List.foldl_cons, List.foldl_cons, hclose, pairs_foldl, hopen]
  have hrest : (run (front ++ back)).pairs =
      (run front).pairs ++ (back.foldl step ⟨(run front).pending, [], []⟩).pairs := by
    rw [run, List.foldl_append, ← run, pairs_foldl]
  rw [hpairs, hrest, List.append_assoc]
  exact List.perm_middle

/-- Marks that do not open or close a block can be left out. -/
theorem run_filter_isBracket (marks : List Mark) :
    run (marks.filter Mark.isBracket) = run marks := by
  rw [run, run, List.foldl_filter]
  congr 1
  funext ledger mark
  split
  · rfl
  · rename_i h
    simp only [Mark.isBracket_iff, not_or, Option.not_isSome_iff_eq_none] at h
    exact (step_branch ledger h.1 h.2).symm

end Ledger

/-! ## One kind -/

section

variable {kind : BlockKind} {marks : List Mark} {mark : Mark}

theorem Irreducible.tail (h : Irreducible (mark :: marks)) : Irreducible marks :=
  fun front first last back he => h (mark :: front) first last back (by rw [he]; rfl)

theorem opens?_or_closes? (h : mark.marker.kind? = some kind) :
    mark.marker.opens? = some kind ∨ mark.marker.closes? = some kind :=
  (Option.or_eq_some_iff.1 h).imp id And.right

/-- Behind a mark that opens a block there is nothing but more of them. -/
theorem Irreducible.opens (h : Irreducible (mark :: marks)) (hm : mark.marker.opens? = some kind)
    (hk : ∀ other ∈ marks, other.marker.kind? = some kind) :
    ∀ other ∈ marks, other.marker.opens? = some kind := by
  induction marks generalizing mark with
  | nil => exact fun _ ho => absurd ho List.not_mem_nil
  | cons next marks ih =>
    obtain ⟨hnext, hrest⟩ := List.forall_mem_cons.1 hk
    have hopens : next.marker.opens? = some kind :=
      (opens?_or_closes? hnext).resolve_right (h [] mark next marks rfl kind hm)
    exact List.forall_mem_cons.2 ⟨hopens, ih h.tail hopens hrest⟩

/-- Marks that cannot be reduced make no pair. -/
theorem Irreducible.pairs_eq_nil (h : Irreducible marks)
    (hk : ∀ mark ∈ marks, mark.marker.kind? = some kind) :
    (marks.foldl Ledger.step .start).pairs = [] := by
  induction marks with
  | nil => rfl
  | cons mark marks ih =>
    obtain ⟨hmark, hrest⟩ := List.forall_mem_cons.1 hk
    rw [List.foldl_cons]
    rcases opens?_or_closes? hmark with hopens | hcloses
    · have hall := h.opens hopens hrest
      rw [Ledger.pairs_foldl_of_opens fun other ho => Option.isSome_of_eq_some (hall other ho),
        Ledger.step_opener _ (Option.isSome_of_eq_some hopens)]
      rfl
    · rw [Ledger.step_unmatched hcloses fun _ hm => absurd hm List.not_mem_nil, Ledger.pairs_foldl]
      exact ih h.tail hrest

/-- However marks of one kind are reduced, the pairs are those of their ledger. -/
theorem Reduces.perm_pairs_run {pairs : List BlockPair} (h : Reduces marks pairs)
    (hk : ∀ mark ∈ marks, mark.marker.kind? = some kind) :
    pairs.Perm (Ledger.run marks).pairs := by
  induction h with
  | done hdone => rw [Ledger.run, hdone.pairs_eq_nil hk]
  | @pair front back first last _ _ hfirst hlast _ ih =>
    have hrest := ih fun mark hm => hk mark (by
      rw [List.mem_append, List.mem_cons, List.mem_cons]
      exact (List.mem_append.1 hm).imp_right fun hb => Or.inr (Or.inr hb))
    exact (hrest.cons _).trans (Ledger.pairs_run_pair hfirst hlast).symm

end

end FormLetter
