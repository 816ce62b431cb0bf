import FormLetter.Proofs.Template.Mark
import Mathlib.Data.List.Induction
import Mathlib.Data.List.TakeWhile

/-!
# Pairing by position

A ledger of the markers, read from left to right, keeps the positions of those that are open and
nothing of the text between them. It finds exactly the pairs that the markers have by their
meaning, and it accounts for every marker that is left without one.

* `Ledger`, `Ledger.step`, `Ledger.run`: the ledger of a list of marks.
* `Ledger.Effect`: what one mark does to a ledger.
* `Ledger.Sound`, `Ledger.sound_run`: what a ledger says is true of its marks.
-/

namespace FormLetter

/-! ## Ledger -/

/-- What is known of the markers read so far. -/
structure Ledger where
  /-- The marks that are open, the last of them first. -/
  pending : List Mark
  /-- The pairs that are complete. -/
  pairs : List BlockPair
  /-- The opening marks that were given up, and the closing marks that found none. -/
  unpaired : List Mark

namespace Ledger

/-- Nothing is read yet. -/
def start : Ledger := ⟨[], [], []⟩

/-- Whether a mark opens no block of a kind. -/
def isOther (kind : BlockKind) (mark : Mark) : Bool := mark.marker.opens? ≠ some kind

/-- The effect of a mark. -/
def step (ledger : Ledger) (mark : Mark) : Ledger :=
  match mark.marker with
  | .opener _ _ => { ledger with pending := mark :: ledger.pending }
  | .closer kind =>
    match ledger.pending.dropWhile (isOther kind) with
    | [] => { ledger with unpaired := ledger.unpaired ++ [mark] }
    | first :: outer =>
      { pending := outer
        pairs := ledger.pairs ++ [⟨kind, first.position, mark.position⟩]
        unpaired := ledger.unpaired ++ (ledger.pending.takeWhile (isOther kind)).reverse }
  | _ => ledger

/-- The ledger of marks. -/
def run (marks : List Mark) : Ledger := marks.foldl step start

theorem run_append_singleton (marks : List Mark) (mark : Mark) :
    run (marks ++ [mark]) = (run marks).step mark := by
  rw [run, List.foldl_append]
  rfl

/-- What a ledger says about the marks it was made of. -/
structure Sound (marks : List Mark) (ledger : Ledger) : Prop where
  /-- The last open mark comes first. -/
  sorted : ledger.pending.Pairwise fun inner outer => outer.position < inner.position
  /-- The marks that are open are those that no pair has or stands around. -/
  mem_pending : ∀ mark, mark ∈ ledger.pending ↔
    mark ∈ marks ∧ mark.marker.opens?.isSome ∧ ∀ pair ∈ ledger.pairs,
      pair.opener ≠ mark.position ∧ ¬ (pair.opener < mark.position ∧ mark.position < pair.closer)
  /-- The pairs are the pairs of the marks. -/
  isPairing : IsPairing marks ledger.pairs
  /-- No pair is listed twice. -/
  nodup_pairs : ledger.pairs.Nodup
  /-- The marks that are not paired are open, or were left unpaired. -/
  mem_or : ∀ mark, mark ∈ ledger.unpaired ∨ mark ∈ ledger.pending ↔
    mark ∈ marks ∧ mark.Unpaired ledger.pairs
  /-- A mark that was left unpaired is no longer open. -/
  notMem_pending : ∀ mark ∈ ledger.unpaired, mark ∉ ledger.pending
  /-- None of them is listed twice. -/
  nodup_unpaired : ledger.unpaired.Nodup

/-! ### One mark -/

section

variable {marks : List Mark} {ledger : Ledger} {mark : Mark} {position : Nat}

theorem Sound.closer_lt (h : Sound marks ledger) (hlt : ∀ mark ∈ marks, mark.position < position) :
    ∀ pair ∈ ledger.pairs, pair.closer < position := by
  intro pair hp
  obtain ⟨-, -, last, hlast, -, -, -, hposition, -⟩ := h.isPairing.marks_of_mem pair hp
  exact hposition ▸ hlt last hlast

/-- Behind all marks the ledger knows which are open. -/
theorem Sound.openAt_iff (h : Sound marks ledger) (hlt : ∀ mark ∈ marks, mark.position < position)
    (hm : mark ∈ marks) : mark.OpenAt ledger.pairs position ↔ mark ∈ ledger.pending := by
  rw [h.mem_pending]
  constructor
  · rintro ⟨hk, -, hall⟩
    exact ⟨hm, hk, fun pair hp => hall pair hp (h.closer_lt hlt pair hp)⟩
  · rintro ⟨-, hk, hall⟩
    exact ⟨hk, hlt mark hm, fun pair hp _ => hall pair hp⟩

theorem Sound.mem_marks (h : Sound marks ledger) (hm : mark ∈ ledger.pending) : mark ∈ marks :=
  ((h.mem_pending mark).1 hm).1

/-- Behind all marks the last one of a kind that is open is the first that the ledger finds. -/
theorem Sound.lastOpen_iff (h : Sound marks ledger)
    (hlt : ∀ mark ∈ marks, mark.position < position) {kind : BlockKind} {inner outer : List Mark}
    {first : Mark} (hsplit : ledger.pending = inner ++ first :: outer)
    (hinner : ∀ mark ∈ inner, mark.marker.opens? ≠ some kind)
    (hfirst : first.marker.opens? = some kind) (other : Mark) :
    LastOpen marks ledger.pairs position kind other ↔ other = first := by
  have hmem : first ∈ ledger.pending := hsplit ▸ List.mem_append_right _ List.mem_cons_self
  have hopen := (h.openAt_iff hlt (h.mem_marks hmem)).2 hmem
  have hsorted := (List.pairwise_append.1 (hsplit ▸ h.sorted)).2.1
  -- Another pending mark of the kind stands before the first.
  have hbefore {mark : Mark} (hm : mark ∈ ledger.pending) (hk : mark.marker.opens? = some kind) :
      mark = first ∨ mark.position < first.position := by
    rw [hsplit] at hm
    rcases List.mem_append.1 hm with hm | hm
    · exact absurd hk (hinner mark hm)
    · rcases List.mem_cons.1 hm with rfl | hm
      · exact Or.inl rfl
      · exact Or.inr ((List.pairwise_cons.1 hsorted).1 mark hm)
  constructor
  · rintro ⟨hm, hk, ho, hall⟩
    rcases hbefore ((h.openAt_iff hlt hm).1 ho) hk with he | hlt'
    · exact he
    · have := hall first (h.mem_marks hmem) hfirst hopen
      omega
  · rintro rfl
    refine ⟨h.mem_marks hmem, hfirst, hopen, fun mark hm hk ho => ?_⟩
    rcases hbefore ((h.openAt_iff hlt hm).1 ho) hk with rfl | hlt'
    · exact Nat.le_refl _
    · exact Nat.le_of_lt hlt'

theorem Sound.not_lastOpen (h : Sound marks ledger)
    (hlt : ∀ mark ∈ marks, mark.position < position) {kind : BlockKind}
    (hnone : ∀ mark ∈ ledger.pending, mark.marker.opens? ≠ some kind) (other : Mark) :
    ¬ LastOpen marks ledger.pairs position kind other :=
  fun ⟨hm, hk, ho, _⟩ => hnone other ((h.openAt_iff hlt hm).1 ho) hk

/-- Behind all marks the innermost is the first that the ledger has. -/
theorem Sound.innermost_iff (h : Sound marks ledger)
    (hlt : ∀ mark ∈ marks, mark.position < position) (first : Mark) :
    Innermost marks ledger.pairs position first ↔ ledger.pending.head? = some first := by
  constructor
  · rintro ⟨hm, ho, hall⟩
    have hmem := (h.openAt_iff hlt hm).1 ho
    have hsorted := h.sorted
    cases hp : ledger.pending with
    | nil => simp [hp] at hmem
    | cons last outer =>
      have hlast : last ∈ ledger.pending := hp ▸ List.mem_cons_self
      have hle := hall last (h.mem_marks hlast) ((h.openAt_iff hlt (h.mem_marks hlast)).2 hlast)
      rw [hp] at hmem hsorted
      rcases List.mem_cons.1 hmem with rfl | hmem
      · rfl
      · have := (List.pairwise_cons.1 hsorted).1 first hmem
        omega
  · intro he
    have hmem : first ∈ ledger.pending := List.mem_of_head? he
    refine ⟨h.mem_marks hmem, (h.openAt_iff hlt (h.mem_marks hmem)).2 hmem, fun mark hm ho => ?_⟩
    have hmark := (h.openAt_iff hlt hm).1 ho
    have hsorted := h.sorted
    obtain ⟨outer, hp⟩ := List.head?_eq_some_iff.1 he
    rw [hp] at hmark hsorted
    rcases List.mem_cons.1 hmark with rfl | hmark
    · exact Nat.le_refl _
    · exact Nat.le_of_lt ((List.pairwise_cons.1 hsorted).1 mark hmark)

/-- Behind all marks an alternative is out of place if the first mark that the ledger has, if any,
takes alternatives and had its `else`. -/
theorem Sound.misplaced_iff (h : Sound marks ledger)
    (hlt : ∀ other ∈ marks, other.position < mark.position) (hk : mark.marker.isBranch = true) :
    mark.Misplaced marks ledger.pairs ↔ ∀ first, ledger.pending.head? = some first →
      first.marker.opens? = some .ifBlock ∧ HasElse marks ledger.pairs mark.position first := by
  simp only [Mark.Misplaced, hk, true_and, h.innermost_iff hlt]
  constructor
  · rintro (hall | ⟨other, -, ho, hrest⟩) first hf
    · have hmem : first ∈ ledger.pending := List.mem_of_head? hf
      exact absurd ((h.openAt_iff hlt (h.mem_marks hmem)).2 hmem) (hall first (h.mem_marks hmem))
    · obtain rfl := Option.some.inj (ho.symm.trans hf)
      exact hrest
  · intro hall
    cases hp : ledger.pending with
    | nil =>
      refine Or.inl fun other ho hopen => ?_
      have hmem := (h.openAt_iff hlt ho).1 hopen
      rw [hp] at hmem
      exact List.not_mem_nil hmem
    | cons first rest =>
      have hmem : first ∈ ledger.pending := hp ▸ List.mem_cons_self
      exact Or.inr ⟨first, h.mem_marks hmem, rfl, hall first (by rw [hp]; rfl)⟩

end

/-! ### The effect of a mark -/

section

variable {ledger : Ledger} {mark : Mark}

/-- Either no pending mark opens a block of a kind, or there is a last one. -/
theorem pending_cases (kind : BlockKind) (pending : List Mark) :
    (∀ mark ∈ pending, mark.marker.opens? ≠ some kind) ∨
      ∃ inner first outer, pending = inner ++ first :: outer ∧
        (∀ mark ∈ inner, mark.marker.opens? ≠ some kind) ∧ first.marker.opens? = some kind := by
  induction pending with
  | nil => exact Or.inl fun _ hm => absurd hm List.not_mem_nil
  | cons mark pending ih =>
    by_cases hk : mark.marker.opens? = some kind
    · exact Or.inr ⟨[], mark, pending, rfl, fun _ hm => absurd hm List.not_mem_nil, hk⟩
    · rcases ih with hnone | ⟨inner, first, outer, rfl, hinner, hfirst⟩
      · exact Or.inl (List.forall_mem_cons.2 ⟨hk, hnone⟩)
      · exact Or.inr ⟨mark :: inner, first, outer, rfl, List.forall_mem_cons.2 ⟨hk, hinner⟩, hfirst⟩

theorem step_opener (ledger : Ledger) {mark : Mark} (hk : mark.marker.opens?.isSome) :
    ledger.step mark = { ledger with pending := mark :: ledger.pending } := by
  obtain ⟨position, source, marker⟩ := mark
  cases marker with
  | opener => rfl
  | _ => cases hk

theorem step_branch (ledger : Ledger) {mark : Mark} (ho : mark.marker.opens? = none)
    (hc : mark.marker.closes? = none) : ledger.step mark = ledger := by
  obtain ⟨position, source, marker⟩ := mark
  cases marker with
  | opener => cases ho
  | closer => cases hc
  | _ => rfl

theorem step_closer {kind : BlockKind} (hk : mark.marker.closes? = some kind) :
    ledger.step mark =
      match ledger.pending.dropWhile (isOther kind) with
      | [] => { ledger with unpaired := ledger.unpaired ++ [mark] }
      | first :: outer =>
        { pending := outer
          pairs := ledger.pairs ++ [⟨kind, first.position, mark.position⟩]
          unpaired := ledger.unpaired ++ (ledger.pending.takeWhile (isOther kind)).reverse } := by
  obtain ⟨position, source, marker⟩ := mark
  cases marker <;> cases hk
  rfl

/-- A closing mark without a pending mark of its kind stays unpaired. -/
theorem step_unmatched {kind : BlockKind} (hk : mark.marker.closes? = some kind)
    (hnone : ∀ mark ∈ ledger.pending, mark.marker.opens? ≠ some kind) :
    ledger.step mark = { ledger with unpaired := ledger.unpaired ++ [mark] } := by
  have hdrop : ledger.pending.dropWhile (isOther kind) = [] :=
    List.dropWhile_eq_nil_iff.2 fun mark hm => decide_eq_true (hnone mark hm)
  rw [step_closer hk, hdrop]

/-- A closing mark takes the last pending mark of its kind and gives up those behind it. -/
theorem step_matched {kind : BlockKind} (hk : mark.marker.closes? = some kind)
    {inner outer : List Mark} {first : Mark} (hsplit : ledger.pending = inner ++ first :: outer)
    (hinner : ∀ mark ∈ inner, mark.marker.opens? ≠ some kind)
    (hfirst : first.marker.opens? = some kind) :
    ledger.step mark =
      { pending := outer
        pairs := ledger.pairs ++ [⟨kind, first.position, mark.position⟩]
        unpaired := ledger.unpaired ++ inner.reverse } := by
  have hall : ∀ mark ∈ inner, isOther kind mark = true :=
    fun mark hm => decide_eq_true (hinner mark hm)
  have hstop : ¬ isOther kind first = true := by simp [isOther, hfirst]
  rw [step_closer hk, hsplit, List.dropWhile_append_of_pos hall, List.takeWhile_append_of_pos hall,
    List.dropWhile_cons_of_neg hstop, List.takeWhile_cons_of_neg hstop, List.append_nil]

end

/-- What a mark does to the ledger of the marks before it: the pair that it completes, if any, and
the marks that it leaves unpaired. -/
structure Effect (marks : List Mark) (ledger : Ledger) (mark : Mark) (next : Ledger)
    (new : Option BlockPair) (dropped : List Mark) : Prop where
  /-- The new pair stands behind the others. -/
  pairs : next.pairs = ledger.pairs ++ new.toList
  /-- It is that of a closing mark and the last open mark of its kind. -/
  new_iff : ∀ pair : BlockPair, new = some pair ↔
    mark.marker.closes? = some pair.kind ∧ pair.closer = mark.position ∧
      ∃ first, LastOpen marks ledger.pairs mark.position pair.kind first ∧
        first.position = pair.opener
  /-- The marks in front of the pair stay open, and an opening mark is open. -/
  mem_pending : ∀ other, other ∈ next.pending ↔
    other ∈ ledger.pending ∧ (∀ pair, new = some pair → other.position < pair.opener) ∨
      other = mark ∧ mark.marker.opens?.isSome
  /-- The last open mark still comes first. -/
  sorted : next.pending.Pairwise fun inner outer => outer.position < inner.position
  /-- Marks are left unpaired behind the others. -/
  unpaired : next.unpaired = ledger.unpaired ++ dropped
  /-- They are the open marks inside the pair, or the closing mark that found none. -/
  mem_dropped : ∀ other, other ∈ dropped ↔
    other ∈ ledger.pending ∧ (∃ pair, new = some pair ∧ pair.opener < other.position) ∨
      other = mark ∧ mark.marker.closes?.isSome ∧ new = none
  /-- None of them twice. -/
  nodup_dropped : dropped.Nodup

section

variable {marks : List Mark} {ledger : Ledger} {mark : Mark}

/-- A mark that closes no block completes no pair and leaves nothing unpaired. -/
theorem Sound.effect_of_closes?_eq_none (h : Sound marks ledger)
    (hlt : ∀ other ∈ marks, other.position < mark.position) (hc : mark.marker.closes? = none) :
    Effect marks ledger mark (ledger.step mark) none [] := by
  cases ho : mark.marker.opens? with
  | none =>
    rw [step_branch ledger ho hc]
    constructor
    case sorted => exact h.sorted
    all_goals simp [hc, ho]
  | some kind =>
    rw [step_opener ledger (by simp [ho])]
    constructor
    case sorted =>
      exact List.pairwise_cons.2 ⟨fun other hm => hlt other (h.mem_marks hm), h.sorted⟩
    all_goals simp [hc, ho, or_comm]

theorem Sound.effect_unmatched (h : Sound marks ledger)
    (hlt : ∀ other ∈ marks, other.position < mark.position) {kind : BlockKind}
    (hk : mark.marker.closes? = some kind)
    (hnone : ∀ mark ∈ ledger.pending, mark.marker.opens? ≠ some kind) :
    Effect marks ledger mark (ledger.step mark) none [mark] := by
  rw [step_unmatched hk hnone]
  constructor
  case sorted => exact h.sorted
  case new_iff =>
    intro pair
    refine iff_of_false (Option.some_ne_none pair).symm fun ⟨hc, _, first, hlast, _⟩ => ?_
    rw [hk, Option.some.injEq] at hc
    exact h.not_lastOpen hlt hnone first (hc ▸ hlast)
  all_goals simp [hk, opens?_eq_none_of_closes? hk]

theorem Sound.effect_matched (h : Sound marks ledger)
    (hlt : ∀ other ∈ marks, other.position < mark.position) {kind : BlockKind}
    (hk : mark.marker.closes? = some kind) {inner outer : List Mark} {first : Mark}
    (hsplit : ledger.pending = inner ++ first :: outer)
    (hinner : ∀ mark ∈ inner, mark.marker.opens? ≠ some kind)
    (hfirst : first.marker.opens? = some kind) :
    Effect marks ledger mark (ledger.step mark) (some ⟨kind, first.position, mark.position⟩)
      inner.reverse := by
  have hsorted := hsplit ▸ h.sorted
  obtain ⟨hs, hrest, hcross⟩ := List.pairwise_append.1 hsorted
  obtain ⟨houter, hs'⟩ := List.pairwise_cons.1 hrest
  have hmem (other : Mark) :
      other ∈ ledger.pending ↔ other ∈ inner ∨ other = first ∨ other ∈ outer := by
    rw [hsplit, List.mem_append, List.mem_cons]
  have hin (other : Mark) (hm : other ∈ inner) : first.position < other.position :=
    hcross other hm first List.mem_cons_self
  have hnone := opens?_eq_none_of_closes? hk
  rw [step_matched hk hsplit hinner hfirst]
  constructor
  case pairs => rfl
  case unpaired => rfl
  case sorted => exact hs'
  case nodup_dropped =>
    exact List.nodup_reverse.2 (hs.imp fun hab he => by rw [he] at hab; exact Nat.lt_irrefl _ hab)
  case new_iff =>
    intro pair
    rw [Option.some.injEq, hk, Option.some.injEq]
    constructor
    · rintro rfl
      exact ⟨rfl, rfl, first, (h.lastOpen_iff hlt hsplit hinner hfirst first).2 rfl, rfl⟩
    · rintro ⟨rfl, hcloser, other, hlast, hopener⟩
      rw [h.lastOpen_iff hlt hsplit hinner hfirst other] at hlast
      subst hlast
      cases pair
      simp_all
  case mem_pending =>
    intro other
    simp only [hmem, hnone, Option.some.injEq, forall_eq', Option.isSome_none, Bool.false_eq_true,
      and_false, or_false]
    constructor
    · exact fun hm => ⟨Or.inr (Or.inr hm), houter other hm⟩
    · rintro ⟨hm | rfl | hm, hpos⟩
      · exact absurd (hin other hm) (Nat.lt_asymm hpos)
      · exact absurd hpos (Nat.lt_irrefl _)
      · exact hm
  case mem_dropped =>
    intro other
    simp only [List.mem_reverse, hmem, Option.some.injEq, exists_eq_left', reduceCtorEq, and_false,
      or_false]
    constructor
    · exact fun hm => ⟨Or.inl hm, hin other hm⟩
    · rintro ⟨hm | rfl | hm, hpos⟩
      · exact hm
      · exact absurd hpos (Nat.lt_irrefl _)
      · exact absurd (houter other hm) (Nat.lt_asymm hpos)

/-- Every mark has its effect. -/
theorem Sound.exists_effect (h : Sound marks ledger)
    (hlt : ∀ other ∈ marks, other.position < mark.position) :
    ∃ new dropped, Effect marks ledger mark (ledger.step mark) new dropped := by
  cases hc : mark.marker.closes? with
  | none => exact ⟨_, _, h.effect_of_closes?_eq_none hlt hc⟩
  | some kind =>
    rcases pending_cases kind ledger.pending with hnone | ⟨inner, first, outer, hsplit, hi, hf⟩
    · exact ⟨_, _, h.effect_unmatched hlt hc hnone⟩
    · exact ⟨_, _, h.effect_matched hlt hc hsplit hi hf⟩

end

/-! ### All marks -/

section

variable {marks : List Mark} {ledger next : Ledger} {mark : Mark} {new : Option BlockPair}
  {dropped : List Mark}

theorem Effect.closer_eq (he : Effect marks ledger mark next new dropped) :
    ∀ pair ∈ new.toList, pair.closer = mark.position := by
  intro pair hp
  exact ((he.new_iff pair).1 (Option.mem_toList.1 hp)).2.1

theorem Effect.mem_pairs (he : Effect marks ledger mark next new dropped) {pair : BlockPair} :
    pair ∈ next.pairs ↔ pair ∈ ledger.pairs ∨ new = some pair := by
  rw [he.pairs, List.mem_append, Option.mem_toList]

/-- The pair of a closing mark starts with a pending mark. -/
theorem Effect.exists_pending (he : Effect marks ledger mark next new dropped)
    (h : Sound marks ledger) (hlt : ∀ other ∈ marks, other.position < mark.position)
    {pair : BlockPair} (hn : new = some pair) :
    ∃ first ∈ ledger.pending, first.marker.opens? = some pair.kind ∧
      first.position = pair.opener := by
  obtain ⟨-, -, first, ⟨hm, hk, ho, -⟩, hposition⟩ := (he.new_iff pair).1 hn
  exact ⟨first, (h.openAt_iff hlt hm).1 ho, hk, hposition⟩

theorem Effect.isPairing (he : Effect marks ledger mark next new dropped) (h : Sound marks ledger)
    (hlt : ∀ other ∈ marks, other.position < mark.position) :
    IsPairing (marks ++ [mark]) next.pairs := by
  refine ⟨fun pair hp => ?_, fun last hlast kind hk pair hpair => ?_⟩
  · rcases he.mem_pairs.1 hp with hp | hn
    · obtain ⟨first, hf, last, hl, hrest⟩ := h.isPairing.marks_of_mem pair hp
      exact ⟨first, List.mem_append_left _ hf, last, List.mem_append_left _ hl, hrest⟩
    · obtain ⟨hc, hcloser, -⟩ := (he.new_iff pair).1 hn
      obtain ⟨first, hm, hk, hposition⟩ := he.exists_pending h hlt hn
      have hfirst := h.mem_marks hm
      refine ⟨first, List.mem_append_left _ hfirst, mark, List.mem_append_right _
        List.mem_cons_self, hk, hc, hposition, hcloser.symm, ?_⟩
      rw [← hposition, hcloser]
      exact hlt first hfirst
  · have hle : last.position ≤ mark.position := by
      rcases List.mem_append.1 hlast with hm | hm
      · exact Nat.le_of_lt (hlt last hm)
      · exact Nat.le_of_eq (congrArg Mark.position (List.mem_singleton.1 hm))
    have hlater : ∀ pair ∈ new.toList, last.position ≤ pair.closer := fun pair hp =>
      (he.closer_eq pair hp).symm ▸ hle
    have hbehind : ∀ other ∈ [mark], last.position ≤ other.position := by simpa using hle
    have hopen (first : Mark) : LastOpen (marks ++ [mark]) next.pairs last.position kind first ↔
        LastOpen marks ledger.pairs last.position kind first :=
      he.pairs ▸ lastOpen_append hbehind hlater kind first
    rw [he.mem_pairs]
    simp only [hopen]
    rcases List.mem_append.1 hlast with hm | hm
    · -- A mark before the last one: the new pair is not its pair.
      have hnot : new ≠ some pair := fun hn => by
        have h1 := ((he.new_iff pair).1 hn).2.1
        have h2 := hlt last hm
        omega
      rw [or_iff_left hnot]
      exact h.isPairing.mem_iff last hm kind hk pair hpair
    · obtain rfl := List.mem_singleton.1 hm
      have hnot : pair ∉ ledger.pairs := fun hp => by
        have := h.closer_lt hlt pair hp
        omega
      rw [or_iff_right hnot, he.new_iff, hk, Option.some.injEq]
      constructor
      · rintro ⟨rfl, -, hfirst⟩
        exact ⟨rfl, hfirst⟩
      · rintro ⟨rfl, hfirst⟩
        exact ⟨rfl, hpair, hfirst⟩

theorem Effect.mem_pending_iff (he : Effect marks ledger mark next new dropped)
    (h : Sound marks ledger) (hlt : ∀ other ∈ marks, other.position < mark.position)
    (other : Mark) :
    other ∈ next.pending ↔
      other ∈ marks ++ [mark] ∧ other.marker.opens?.isSome ∧ ∀ pair ∈ next.pairs,
        pair.opener ≠ other.position ∧
          ¬ (pair.opener < other.position ∧ other.position < pair.closer) := by
  rw [he.mem_pending]
  constructor
  · rintro (⟨hm, hbefore⟩ | ⟨rfl, ho⟩)
    · obtain ⟨hmark, ho, hall⟩ := (h.mem_pending other).1 hm
      refine ⟨List.mem_append_left _ hmark, ho, fun pair hp => ?_⟩
      rcases he.mem_pairs.1 hp with hp | hn
      · exact hall pair hp
      · have := hbefore pair hn
        omega
    · refine ⟨List.mem_append_right _ List.mem_cons_self, ho, fun pair hp => ?_⟩
      rcases he.mem_pairs.1 hp with hp | hn
      · obtain ⟨-, -, -, -, -, -, -, -, horder⟩ := h.isPairing.marks_of_mem pair hp
        have := h.closer_lt hlt pair hp
        omega
      · have hc := ((he.new_iff pair).1 hn).1
        rw [opens?_eq_none_of_closes? hc] at ho
        cases ho
  · rintro ⟨hm, ho, hall⟩
    rcases List.mem_append.1 hm with hm | hm
    · refine Or.inl ⟨(h.mem_pending other).2 ⟨hm, ho, fun pair hp =>
        hall pair (he.mem_pairs.2 (Or.inl hp))⟩, fun pair hn => ?_⟩
      have h1 := hall pair (he.mem_pairs.2 (Or.inr hn))
      have h2 := ((he.new_iff pair).1 hn).2.1
      have h3 := hlt other hm
      omega
    · obtain rfl := List.mem_singleton.1 hm
      exact Or.inr ⟨rfl, ho⟩

/-- The new pair takes no mark that was not open. -/
theorem Effect.opener_ne (he : Effect marks ledger mark next new dropped) (h : Sound marks ledger)
    (hs : marks.Pairwise fun a b => a.position < b.position)
    (hlt : ∀ other ∈ marks, other.position < mark.position) {other : Mark} (hm : other ∈ marks)
    (hp : other ∉ ledger.pending) : ∀ pair, new = some pair → pair.opener ≠ other.position := by
  intro pair hn heq
  obtain ⟨first, hf, -, hposition⟩ := he.exists_pending h hlt hn
  exact hp (eq_of_position_eq hs (h.mem_marks hf) hm (hposition.trans heq) ▸ hf)

theorem Effect.forall_mem_pairs (he : Effect marks ledger mark next new dropped)
    {P : BlockPair → Prop} : (∀ pair ∈ next.pairs, P pair) ↔
      (∀ pair ∈ ledger.pairs, P pair) ∧ ∀ pair, new = some pair → P pair := by
  simp only [he.mem_pairs, or_imp, forall_and]

/-- An earlier mark is unpaired if it was and the new pair does not take it. -/
theorem Effect.unpaired_iff (he : Effect marks ledger mark next new dropped)
    (h : Sound marks ledger) (hs : marks.Pairwise fun a b => a.position < b.position)
    (hlt : ∀ other ∈ marks, other.position < mark.position) {other : Mark} (hm : other ∈ marks) :
    other.Unpaired next.pairs ↔
      other.Unpaired ledger.pairs ∧ ∀ pair, new = some pair → pair.opener ≠ other.position := by
  have hcloser (pair : BlockPair) (hn : new = some pair) : pair.closer ≠ other.position := by
    rw [((he.new_iff pair).1 hn).2.1]
    exact (Nat.ne_of_lt (hlt other hm)).symm
  have hopener (hc : other.marker.closes?.isSome) (pair : BlockPair) (hn : new = some pair) :
      pair.opener ≠ other.position := by
    obtain ⟨kind, hc⟩ := Option.isSome_iff_exists.1 hc
    refine he.opener_ne h hs hlt hm (fun hp => ?_) pair hn
    have ho := ((h.mem_pending other).1 hp).2.1
    rw [opens?_eq_none_of_closes? hc] at ho
    cases ho
  simp only [Mark.Unpaired, Mark.Unclosed, Mark.Unopened]
  rw [he.forall_mem_pairs, he.forall_mem_pairs, or_and_right, and_iff_left hcloser, and_assoc,
    and_assoc]
  exact or_congr_right ⟨fun ⟨hc, hall⟩ => ⟨hc, hall, hopener hc⟩, fun ⟨hc, hall, _⟩ => ⟨hc, hall⟩⟩

theorem Effect.unpaired_self (he : Effect marks ledger mark next new dropped)
    (h : Sound marks ledger) (hlt : ∀ other ∈ marks, other.position < mark.position) :
    mark.Unpaired next.pairs ↔
      mark.marker.opens?.isSome ∨ mark.marker.closes?.isSome ∧ new = none := by
  have hold (pair : BlockPair) (hp : pair ∈ ledger.pairs) :
      pair.opener ≠ mark.position ∧ pair.closer ≠ mark.position := by
    obtain ⟨-, -, -, -, -, -, -, -, horder⟩ := h.isPairing.marks_of_mem pair hp
    have := h.closer_lt hlt pair hp
    omega
  rw [Mark.Unpaired, Mark.Unclosed, Mark.Unopened, he.forall_mem_pairs, he.forall_mem_pairs]
  refine or_congr ⟨fun ho => ho.1, fun ho => ⟨ho, fun pair hp => (hold pair hp).1, ?_⟩⟩
    (and_congr_right fun _ => ⟨fun ⟨_, hall⟩ => ?_,
      fun hn => ⟨fun pair hp => (hold pair hp).2, ?_⟩⟩)
  · intro pair hn
    rw [opens?_eq_none_of_closes? ((he.new_iff pair).1 hn).1] at ho
    cases ho
  · exact Option.eq_none_iff_forall_ne_some.2 fun pair hn =>
      hall pair hn ((he.new_iff pair).1 hn).2.1
  · intro pair hpair
    rw [hn] at hpair
    cases hpair

/-- The marks that are not paired are open or were left unpaired, after one more mark too. -/
theorem Effect.mem_or_iff (he : Effect marks ledger mark next new dropped) (h : Sound marks ledger)
    (hs : marks.Pairwise fun a b => a.position < b.position)
    (hlt : ∀ other ∈ marks, other.position < mark.position) (other : Mark) :
    other ∈ next.unpaired ∨ other ∈ next.pending ↔
      other ∈ marks ++ [mark] ∧ other.Unpaired next.pairs := by
  have hself : mark ∉ marks := fun hm => Nat.lt_irrefl _ (hlt mark hm)
  rw [he.unpaired, List.mem_append, he.mem_dropped, he.mem_pending, List.mem_append,
    List.mem_singleton]
  by_cases heq : other = mark
  · subst heq
    have hpending : other ∉ ledger.pending := fun hp => hself (h.mem_marks hp)
    have hunpaired : other ∉ ledger.unpaired := fun hu =>
      hself ((h.mem_or other).1 (Or.inl hu)).1
    rw [he.unpaired_self h hlt]
    simp [hpending, hunpaired, or_comm]
  · -- What is open stays open or is dropped, unless the new pair takes it.
    have hopen : (other ∈ ledger.pending ∧ ∃ pair, new = some pair ∧ pair.opener < other.position) ∨
        (other ∈ ledger.pending ∧ ∀ pair, new = some pair → other.position < pair.opener) ↔
          other ∈ ledger.pending ∧ ∀ pair, new = some pair → pair.opener ≠ other.position := by
      rw [← and_or_left]
      refine and_congr_right fun _ => ?_
      cases new with
      | none => simp
      | some pair =>
        simp only [Option.some.injEq, exists_eq_left', forall_eq']
        omega
    have hearlier : other ∈ marks ∧ other.Unpaired next.pairs ↔
        other ∈ ledger.unpaired ∨
          other ∈ ledger.pending ∧ ∀ pair, new = some pair → pair.opener ≠ other.position := by
      constructor
      · rintro ⟨hm, hu⟩
        obtain ⟨hu, hne⟩ := (he.unpaired_iff h hs hlt hm).1 hu
        exact ((h.mem_or other).2 ⟨hm, hu⟩).imp_right fun hp => ⟨hp, hne⟩
      · intro hor
        have hold : other ∈ ledger.unpaired ∨ other ∈ ledger.pending := hor.imp_right And.left
        obtain ⟨hm, hu⟩ := (h.mem_or other).1 hold
        refine ⟨hm, (he.unpaired_iff h hs hlt hm).2 ⟨hu, ?_⟩⟩
        exact hor.elim (fun hun => he.opener_ne h hs hlt hm (h.notMem_pending other hun)) And.right
    simp only [heq, false_and, or_false, or_assoc, hopen, hearlier]

/-- A ledger of marks stays what it is after one more mark. -/
theorem Sound.step (h : Sound marks ledger) (hs : marks.Pairwise fun a b => a.position < b.position)
    (hlt : ∀ other ∈ marks, other.position < mark.position) :
    Sound (marks ++ [mark]) (ledger.step mark) := by
  obtain ⟨new, dropped, he⟩ := h.exists_effect hlt
  have hself : mark ∉ marks := fun hm => Nat.lt_irrefl _ (hlt mark hm)
  have hunpaired {other : Mark} (hu : other ∈ ledger.unpaired) : other ∈ marks :=
    ((h.mem_or other).1 (Or.inl hu)).1
  refine ⟨he.sorted, he.mem_pending_iff h hlt, he.isPairing h hlt, ?_, he.mem_or_iff h hs hlt, ?_,
    ?_⟩
  · have hnew : new.toList.Nodup := by cases new <;> simp
    rw [he.pairs]
    refine h.nodup_pairs.append hnew fun pair hp hn => ?_
    have h1 := h.closer_lt hlt pair hp
    have h2 := he.closer_eq pair hn
    omega
  · intro other hu hp
    rw [he.unpaired, List.mem_append, he.mem_dropped] at hu
    rw [he.mem_pending] at hp
    rcases hp with ⟨hp, hall⟩ | ⟨rfl, ho⟩
    · rcases hu with hu | ⟨-, pair, hn, hinside⟩ | ⟨rfl, -⟩
      · exact h.notMem_pending other hu hp
      · exact Nat.lt_asymm hinside (hall pair hn)
      · exact hself (h.mem_marks hp)
    · rcases hu with hu | ⟨hu, -⟩ | ⟨-, hc, -⟩
      · exact hself (hunpaired hu)
      · exact hself (h.mem_marks hu)
      · obtain ⟨kind, hc⟩ := Option.isSome_iff_exists.1 hc
        simp [opens?_eq_none_of_closes? hc] at ho
  · rw [he.unpaired]
    refine h.nodup_unpaired.append he.nodup_dropped fun other hu hd => ?_
    rcases (he.mem_dropped other).1 hd with ⟨hp, -⟩ | ⟨rfl, -⟩
    · exact h.notMem_pending other hu hp
    · exact hself (hunpaired hu)

theorem sound_start : Sound [] start := by
  refine ⟨.nil, ?_, ⟨?_, ?_⟩, .nil, ?_, ?_, .nil⟩ <;> simp [start]

/-- The marks left unpaired and those that are open are the marks without a pair, each once. -/
theorem Sound.perm_unpaired (h : Sound marks ledger)
    (hs : marks.Pairwise fun a b => a.position < b.position) :
    (ledger.unpaired ++ ledger.pending).Perm
      (marks.filter fun mark => mark.Unpaired ledger.pairs) := by
  have hpending : ledger.pending.Nodup :=
    h.sorted.imp fun hlt he => Nat.ne_of_gt hlt (congrArg Mark.position he)
  have hnodup : (ledger.unpaired ++ ledger.pending).Nodup :=
    h.nodup_unpaired.append hpending h.notMem_pending
  refine (List.perm_ext_iff_of_nodup hnodup ((nodup_of_sorted hs).filter _)).2 fun mark => ?_
  rw [List.mem_append, h.mem_or, List.mem_filter, decide_eq_true_iff]

/-- What a ledger says is true of the marks it was made of. -/
theorem sound_run (hs : marks.Pairwise fun a b => a.position < b.position) :
    Sound marks (run marks) := by
  induction marks using List.reverseRecOn with
  | nil => exact sound_start
  | append_singleton marks mark ih =>
    obtain ⟨hmarks, -, hlt⟩ := List.pairwise_append.1 hs
    rw [run_append_singleton]
    exact (ih hmarks).step hmarks fun other ho => hlt other ho mark List.mem_cons_self

end

end Ledger

end FormLetter
