import FormLetter.Proofs.Template.Piece
import FormLetter.Proofs.Template.Role
import Mathlib.Data.List.Nodup

/-!
# The meaning of pairing

Which opening marker a closing marker pairs with can be said without a stack: it is the last one of
its kind that is still open. The same words say which markers are out of place.

* `Mark`, `Piece.marks`: the block markers of a text with their positions.
* `Mark.OpenAt`, `LastOpen`, `Innermost`: when an opening marker is still open.
* `IsPairing`: the pairs that a text has by this meaning.
* `IsPairing.not_cross`, `IsPairing.countP_eq_one`: such pairs never cross and share no mark.
* `Mark.Unclosed`, `Mark.Unopened`, `Mark.Misplaced`: the markers that stay text although they
  should not.
* `openAt_append` and what follows it: what is said of a position does not depend on what is behind.
-/

namespace FormLetter

/-! ## Marks -/

/-- The kind of block that a marker opens. -/
def Marker.opens? : Marker → Option BlockKind
  | .opener kind _ => some kind
  | _ => none

/-- The kind of block that a marker closes. -/
def Marker.closes? : Marker → Option BlockKind
  | .closer kind => some kind
  | _ => none

theorem opens?_eq_none_of_closes? {marker : Marker} {kind : BlockKind}
    (h : marker.closes? = some kind) : marker.opens? = none := by
  cases marker with
  | closer => rfl
  | _ => cases h

/-- A block marker where it stands in a text. -/
structure Mark where
  /-- Its position. -/
  position : Nat
  /-- The marker as it is written. -/
  source : Text
  /-- What it stands for. -/
  marker : Marker
  deriving Repr, DecidableEq

/-- Pieces with their positions, the first of which starts at an offset. -/
def Piece.located (offset : Nat) : List Piece → List (Nat × Piece)
  | [] => []
  | piece :: pieces => (offset, piece) :: Piece.located (offset + piece.source.length) pieces

theorem Piece.filterMap_located {β : Type} (f : Nat × Piece → Option β) (offset : Nat)
    (piece : Piece) (pieces : List Piece) :
    (Piece.located offset (piece :: pieces)).filterMap f =
      (Piece.located offset [piece]).filterMap f ++
        (Piece.located (offset + piece.source.length) pieces).filterMap f := by
  rw [← List.filterMap_append]
  rfl

/-- The mark that a piece is at its position. -/
def Mark.ofPiece? : Nat × Piece → Option Mark
  | (position, .marker read source) => some ⟨position, source, read⟩
  | _ => none

/-- The block markers among pieces, the first of which starts at an offset. -/
def Piece.marks (offset : Nat) (pieces : List Piece) : List Mark :=
  (Piece.located offset pieces).filterMap Mark.ofPiece?

@[simp] theorem Piece.marks_nil (offset : Nat) : Piece.marks offset [] = [] := rfl

theorem Piece.marks_cons (offset : Nat) (piece : Piece) (pieces : List Piece) :
    Piece.marks offset (piece :: pieces) =
      Piece.marks offset [piece] ++ Piece.marks (offset + piece.source.length) pieces :=
  Piece.filterMap_located Mark.ofPiece? offset piece pieces

theorem Piece.position_of_mem_marks {offset : Nat} {piece : Piece} {mark : Mark}
    (h : mark ∈ Piece.marks offset [piece]) :
    mark.position = offset ∧ ∃ marker, piece = .marker marker mark.source := by
  cases piece with
  | marker marker source =>
    obtain rfl := List.mem_singleton.1 h
    exact ⟨rfl, marker, rfl⟩
  | _ => exact absurd h List.not_mem_nil

theorem Piece.le_position {offset : Nat} {pieces : List Piece} :
    ∀ mark ∈ Piece.marks offset pieces, offset ≤ mark.position := by
  induction pieces generalizing offset with
  | nil => exact fun _ hm => absurd hm List.not_mem_nil
  | cons piece pieces ih =>
    rw [Piece.marks_cons]
    refine List.forall_mem_append.2 ⟨fun mark hm => ?_, fun mark hm => ?_⟩
    · exact Nat.le_of_eq (Piece.position_of_mem_marks hm).1.symm
    · have := ih mark hm
      omega

/-- Marks stand one behind the other. -/
theorem Piece.marks_sorted {offset : Nat} {pieces : List Piece}
    (h : ∀ piece ∈ pieces, piece.IsBraced) :
    (Piece.marks offset pieces).Pairwise fun a b => a.position < b.position := by
  induction pieces generalizing offset with
  | nil => exact .nil
  | cons piece pieces ih =>
    obtain ⟨hfirst, hrest⟩ := List.forall_mem_cons.1 h
    rw [Piece.marks_cons]
    refine List.pairwise_append.2 ⟨?_, ih hrest, fun mark hm other ho => ?_⟩
    · cases piece with
      | marker => exact List.pairwise_singleton _ _
      | _ => exact .nil
    · obtain ⟨hposition, marker, rfl⟩ := Piece.position_of_mem_marks hm
      have hlength : 0 < mark.source.length := List.length_pos_of_mem hfirst
      have hle : offset + mark.source.length ≤ other.position := Piece.le_position other ho
      omega

/-- The block markers of a text. -/
def Template.marks (text : Text) : List Mark := Piece.marks 0 (lex text).pieces

section

variable {marks : List Mark}

theorem eq_of_position_eq (hs : marks.Pairwise fun a b => a.position < b.position) {a b : Mark}
    (ha : a ∈ marks) (hb : b ∈ marks) (h : a.position = b.position) : a = b :=
  List.inj_on_of_nodup_map (List.pairwise_map.2 (hs.imp Nat.ne_of_lt)) ha hb h

theorem nodup_of_sorted (hs : marks.Pairwise fun a b => a.position < b.position) : marks.Nodup :=
  hs.imp fun hlt he => Nat.ne_of_lt hlt (congrArg Mark.position he)

end

/-! ## The meaning of pairing -/

/-- A mark is open at a position: it opens a block before it, and no pair that is complete before
the position has the mark as its first or stands around it. -/
def Mark.OpenAt (pairs : List BlockPair) (position : Nat) (mark : Mark) : Prop :=
  mark.marker.opens?.isSome ∧ mark.position < position ∧
    ∀ pair ∈ pairs, pair.closer < position →
      pair.opener ≠ mark.position ∧ ¬ (pair.opener < mark.position ∧ mark.position < pair.closer)

instance (pairs : List BlockPair) (position : Nat) (mark : Mark) :
    Decidable (mark.OpenAt pairs position) :=
  inferInstanceAs (Decidable (_ ∧ _ ∧ _))

/-- A mark is the last of its kind that is open at a position. -/
def LastOpen (marks : List Mark) (pairs : List BlockPair) (position : Nat) (kind : BlockKind)
    (first : Mark) : Prop :=
  first ∈ marks ∧ first.marker.opens? = some kind ∧ first.OpenAt pairs position ∧
    ∀ mark ∈ marks, mark.marker.opens? = some kind → mark.OpenAt pairs position →
      mark.position ≤ first.position

instance (marks : List Mark) (pairs : List BlockPair) (position : Nat) (kind : BlockKind)
    (first : Mark) : Decidable (LastOpen marks pairs position kind first) :=
  inferInstanceAs (Decidable (_ ∧ _ ∧ _ ∧ _))

/-- A mark that opens a block and is the first of no pair. -/
def Mark.Unclosed (pairs : List BlockPair) (mark : Mark) : Prop :=
  mark.marker.opens?.isSome ∧ ∀ pair ∈ pairs, pair.opener ≠ mark.position

instance (pairs : List BlockPair) (mark : Mark) : Decidable (mark.Unclosed pairs) :=
  inferInstanceAs (Decidable (_ ∧ _))

/-- A mark that closes a block and is the last of no pair. -/
def Mark.Unopened (pairs : List BlockPair) (mark : Mark) : Prop :=
  mark.marker.closes?.isSome ∧ ∀ pair ∈ pairs, pair.closer ≠ mark.position

instance (pairs : List BlockPair) (mark : Mark) : Decidable (mark.Unopened pairs) :=
  inferInstanceAs (Decidable (_ ∧ _))

/-- A mark that opens or closes a block and belongs to no pair. -/
def Mark.Unpaired (pairs : List BlockPair) (mark : Mark) : Prop :=
  mark.Unclosed pairs ∨ mark.Unopened pairs

instance (pairs : List BlockPair) (mark : Mark) : Decidable (mark.Unpaired pairs) :=
  inferInstanceAs (Decidable (_ ∨ _))

/-- The pairs of a text: each closing mark pairs with the last mark of its kind that is open there,
and there are no other pairs. -/
structure IsPairing (marks : List Mark) (pairs : List BlockPair) : Prop where
  /-- Pairs are made of an opening and a closing mark of their kind. -/
  marks_of_mem : ∀ pair ∈ pairs, ∃ first ∈ marks, ∃ last ∈ marks,
    first.marker.opens? = some pair.kind ∧ last.marker.closes? = some pair.kind ∧
      first.position = pair.opener ∧ last.position = pair.closer ∧ pair.opener < pair.closer
  /-- A closing mark pairs with the last mark that is open. -/
  mem_iff : ∀ last ∈ marks, ∀ kind, last.marker.closes? = some kind → ∀ pair : BlockPair,
    pair.closer = last.position →
      (pair ∈ pairs ↔
        pair.kind = kind ∧ ∃ first, LastOpen marks pairs last.position kind first ∧
          first.position = pair.opener)

namespace IsPairing

variable {marks : List Mark} {pairs : List BlockPair} {pair other : BlockPair}

/-- When a pair is complete, the pairs before it have another first mark and are not around that
mark. -/
theorem opener_outside (h : IsPairing marks pairs) (hp : pair ∈ pairs) (ho : other ∈ pairs)
    (hlt : pair.closer < other.closer) :
    pair.opener ≠ other.opener ∧ ¬ (pair.opener < other.opener ∧ other.opener < pair.closer) := by
  obtain ⟨-, -, last, hlast, -, hcloses, -, hposition, -⟩ := h.marks_of_mem other ho
  obtain ⟨-, first, ⟨-, -, ⟨-, -, hopen⟩, -⟩, hfirst⟩ :=
    (h.mem_iff last hlast _ hcloses other hposition.symm).1 ho
  rw [hposition, hfirst] at hopen
  exact hopen pair hp hlt

/-- Pairs never cross. -/
theorem not_cross (h : IsPairing marks pairs) (hp : pair ∈ pairs) (ho : other ∈ pairs) :
    ¬ (pair.opener < other.opener ∧ other.opener < pair.closer ∧ pair.closer < other.closer) :=
  fun ⟨h1, h2, h3⟩ => (h.opener_outside hp ho h3).2 ⟨h1, h2⟩

/-- A closing mark that finds no open mark of its kind is the last of no pair. -/
theorem unopened (h : IsPairing marks pairs) {last : Mark} (hm : last ∈ marks) {kind : BlockKind}
    (hk : last.marker.closes? = some kind)
    (hnone : ∀ first, ¬ LastOpen marks pairs last.position kind first) : last.Unopened pairs := by
  refine ⟨Option.isSome_of_eq_some hk, fun pair hp he => ?_⟩
  obtain ⟨-, first, hfirst, -⟩ := (h.mem_iff last hm kind hk pair he).1 hp
  exact hnone first hfirst

/-- No mark is the last of two pairs. -/
theorem eq_of_closer_eq (h : IsPairing marks pairs) (hp : pair ∈ pairs) (ho : other ∈ pairs)
    (he : pair.closer = other.closer) : pair = other := by
  obtain ⟨-, -, last, hlast, -, hcloses, -, hposition, -⟩ := h.marks_of_mem other ho
  have hiff := h.mem_iff last hlast _ hcloses
  obtain ⟨hkind, first, ⟨hm, hk, hopen, hall⟩, hfirst⟩ := (hiff pair (by omega)).1 hp
  obtain ⟨-, second, ⟨hm', hk', hopen', hall'⟩, hsecond⟩ := (hiff other hposition.symm).1 ho
  have hopener : pair.opener = other.opener := by
    have h1 := hall second hm' hk' hopen'
    have h2 := hall' first hm hk hopen
    omega
  cases pair
  cases other
  simp_all

/-- No mark is the first of two pairs. -/
theorem eq_of_opener_eq (h : IsPairing marks pairs) (hp : pair ∈ pairs) (ho : other ∈ pairs)
    (he : pair.opener = other.opener) : pair = other := by
  refine h.eq_of_closer_eq hp ho (Nat.le_antisymm (Nat.le_of_not_lt fun hlt => ?_)
    (Nat.le_of_not_lt fun hlt => ?_))
  · exact (h.opener_outside ho hp hlt).1 he.symm
  · exact (h.opener_outside hp ho hlt).1 he

/-- No mark is the first of one pair and the last of another. -/
theorem opener_ne_closer (h : IsPairing marks pairs)
    (hs : marks.Pairwise fun a b => a.position < b.position) (hp : pair ∈ pairs)
    (ho : other ∈ pairs) : pair.opener ≠ other.closer := by
  intro he
  obtain ⟨first, hfirst, -, -, hopens, -, hopener, -⟩ := h.marks_of_mem pair hp
  obtain ⟨-, -, last, hlast, -, hcloses, -, hcloser, -⟩ := h.marks_of_mem other ho
  have hsame := eq_of_position_eq hs hfirst hlast (by omega)
  rw [hsame, opens?_eq_none_of_closes? hcloses] at hopens
  cases hopens

/-- No mark belongs to two pairs. -/
theorem eq_of_mem (h : IsPairing marks pairs)
    (hs : marks.Pairwise fun a b => a.position < b.position) (hp : pair ∈ pairs)
    (ho : other ∈ pairs) {position : Nat} (hpair : pair.opener = position ∨ pair.closer = position)
    (hother : other.opener = position ∨ other.closer = position) : pair = other := by
  rcases hpair with hpair | hpair <;> rcases hother with hother | hother
  · exact h.eq_of_opener_eq hp ho (hpair.trans hother.symm)
  · exact absurd (hpair.trans hother.symm) (h.opener_ne_closer hs hp ho)
  · exact absurd (hother.trans hpair.symm) (h.opener_ne_closer hs ho hp)
  · exact h.eq_of_closer_eq hp ho (hpair.trans hother.symm)

/-- A mark that is not unpaired belongs to exactly one pair. -/
theorem countP_eq_one (h : IsPairing marks pairs) (hn : pairs.Nodup)
    (hs : marks.Pairwise fun a b => a.position < b.position) {mark : Mark}
    (hm : mark.marker.opens?.isSome ∨ mark.marker.closes?.isSome) (hu : ¬ mark.Unpaired pairs) :
    pairs.countP (fun pair => pair.opener = mark.position ∨ pair.closer = mark.position) = 1 := by
  have hexists : ∃ pair ∈ pairs, pair.opener = mark.position ∨ pair.closer = mark.position := by
    by_contra hnone
    simp only [not_exists, not_and, not_or] at hnone
    exact hu (hm.imp (fun ho => ⟨ho, fun pair hp => (hnone pair hp).1⟩)
      fun hc => ⟨hc, fun pair hp => (hnone pair hp).2⟩)
  obtain ⟨pair, hp, hpair⟩ := hexists
  have hperm : (pairs.filter fun pair =>
      decide (pair.opener = mark.position ∨ pair.closer = mark.position)).Perm [pair] := by
    refine (List.perm_ext_iff_of_nodup (hn.filter _) (List.nodup_singleton pair)).2 fun other => ?_
    rw [List.mem_filter, decide_eq_true_iff, List.mem_singleton]
    constructor
    · exact fun ⟨ho, hother⟩ => h.eq_of_mem hs ho hp hother hpair
    · rintro rfl
      exact ⟨hp, hpair⟩
  rw [List.countP_eq_length_filter, hperm.length_eq, List.length_singleton]

end IsPairing

/-! ## Alternatives -/

/-- Whether a marker starts an alternative of a block. -/
def Marker.isBranch : Marker → Bool
  | .elseIf _ | .otherwise => true
  | _ => false

/-- A mark is the last of all that are open at a position. -/
def Innermost (marks : List Mark) (pairs : List BlockPair) (position : Nat) (first : Mark) : Prop :=
  first ∈ marks ∧ first.OpenAt pairs position ∧
    ∀ mark ∈ marks, mark.OpenAt pairs position → mark.position ≤ first.position

instance (marks : List Mark) (pairs : List BlockPair) (position : Nat) (first : Mark) :
    Decidable (Innermost marks pairs position first) :=
  inferInstanceAs (Decidable (_ ∧ _ ∧ _))

/-- An `else` before a position stands directly inside the block that a mark opens. -/
def HasElse (marks : List Mark) (pairs : List BlockPair) (position : Nat) (first : Mark) : Prop :=
  ∃ mark ∈ marks, mark.marker = .otherwise ∧ mark.position < position ∧
    Innermost marks pairs mark.position first

instance (marks : List Mark) (pairs : List BlockPair) (position : Nat) (first : Mark) :
    Decidable (HasElse marks pairs position first) :=
  inferInstanceAs (Decidable (∃ mark ∈ marks, _))

/-- An `else` or `elseif` that no block can take: none is open, or the innermost one takes
alternatives and had its `else`. Directly inside a block that takes none, it is plain text. -/
def Mark.Misplaced (marks : List Mark) (pairs : List BlockPair) (mark : Mark) : Prop :=
  mark.marker.isBranch ∧
    ((∀ other ∈ marks, ¬ other.OpenAt pairs mark.position) ∨
      ∃ first ∈ marks, Innermost marks pairs mark.position first ∧
        first.marker.opens? = some .ifBlock ∧ HasElse marks pairs mark.position first)

instance (marks : List Mark) (pairs : List BlockPair) (mark : Mark) :
    Decidable (mark.Misplaced marks pairs) :=
  inferInstanceAs (Decidable (_ ∧ (_ ∨ ∃ first ∈ marks, _)))

/-! ## What is behind a position -/

section

variable {marks later : List Mark} {pairs new : List BlockPair} {position : Nat}

/-- Pairs that are complete later do not matter. -/
theorem openAt_append (hn : ∀ pair ∈ new, position ≤ pair.closer) (first : Mark) :
    first.OpenAt (pairs ++ new) position ↔ first.OpenAt pairs position := by
  refine and_congr_right fun _ => and_congr_right fun _ => ?_
  rw [List.forall_mem_append]
  refine and_iff_left fun pair hp hlt => absurd hlt ?_
  have := hn pair hp
  omega

theorem not_openAt_of_le {mark : Mark} (h : position ≤ mark.position) :
    ¬ mark.OpenAt pairs position := fun ho => Nat.not_lt.2 h ho.2.1

/-- Marks that stand later do not matter. -/
theorem lastOpen_append (hl : ∀ mark ∈ later, position ≤ mark.position)
    (hn : ∀ pair ∈ new, position ≤ pair.closer) (kind : BlockKind) (first : Mark) :
    LastOpen (marks ++ later) (pairs ++ new) position kind first ↔
      LastOpen marks pairs position kind first := by
  simp only [LastOpen, openAt_append hn, List.forall_mem_append]
  constructor
  · rintro ⟨hm, hk, ho, hall, -⟩
    rcases List.mem_append.1 hm with hm | hm
    · exact ⟨hm, hk, ho, hall⟩
    · exact absurd ho (not_openAt_of_le (hl first hm))
  · rintro ⟨hm, hk, ho, hall⟩
    exact ⟨List.mem_append_left _ hm, hk, ho, hall,
      fun mark hm _ h => absurd h (not_openAt_of_le (hl mark hm))⟩

theorem innermost_append (hl : ∀ mark ∈ later, position ≤ mark.position)
    (hn : ∀ pair ∈ new, position ≤ pair.closer) (first : Mark) :
    Innermost (marks ++ later) (pairs ++ new) position first ↔
      Innermost marks pairs position first := by
  simp only [Innermost, openAt_append hn, List.forall_mem_append]
  constructor
  · rintro ⟨hm, ho, hall, -⟩
    rcases List.mem_append.1 hm with hm | hm
    · exact ⟨hm, ho, hall⟩
    · exact absurd ho (not_openAt_of_le (hl first hm))
  · rintro ⟨hm, ho, hall⟩
    exact ⟨List.mem_append_left _ hm, ho, hall,
      fun mark hm h => absurd h (not_openAt_of_le (hl mark hm))⟩

theorem hasElse_append (hl : ∀ mark ∈ later, position ≤ mark.position)
    (hn : ∀ pair ∈ new, position ≤ pair.closer) (first : Mark) :
    HasElse (marks ++ later) (pairs ++ new) position first ↔
      HasElse marks pairs position first := by
  have hinner {mark : Mark} (hlt : mark.position < position) :
      Innermost (marks ++ later) (pairs ++ new) mark.position first ↔
        Innermost marks pairs mark.position first :=
    innermost_append (fun other ho => Nat.le_trans (Nat.le_of_lt hlt) (hl other ho))
      (fun pair hp => Nat.le_trans (Nat.le_of_lt hlt) (hn pair hp)) first
  constructor
  · rintro ⟨mark, hm, he, hlt, hi⟩
    rcases List.mem_append.1 hm with hm | hm
    · exact ⟨mark, hm, he, hlt, (hinner hlt).1 hi⟩
    · exact absurd hlt (Nat.not_lt.2 (hl mark hm))
  · rintro ⟨mark, hm, he, hlt, hi⟩
    exact ⟨mark, List.mem_append_left _ hm, he, hlt, (hinner hlt).2 hi⟩

/-- One more mark may be the `else` of the innermost block. -/
theorem hasElse_append_singleton {mark : Mark} (hlt : mark.position < position)
    (hm : ∀ other ∈ marks, other.position < mark.position)
    (hn : ∀ pair ∈ new, mark.position ≤ pair.closer) (first : Mark) :
    HasElse (marks ++ [mark]) (pairs ++ new) position first ↔
      HasElse marks pairs mark.position first ∨
        mark.marker = .otherwise ∧ Innermost marks pairs mark.position first := by
  have hlast : ∀ other ∈ [mark], mark.position ≤ other.position := by simp
  rw [← hasElse_append hlast hn first, ← innermost_append hlast hn first]
  constructor
  · rintro ⟨other, ho, he, -, hi⟩
    rcases List.mem_append.1 ho with hmem | hmem
    · exact Or.inl ⟨other, ho, he, hm other hmem, hi⟩
    · obtain rfl := List.mem_singleton.1 hmem
      exact Or.inr ⟨he, hi⟩
  · rintro (⟨other, ho, he, hbefore, hi⟩ | ⟨he, hi⟩)
    · exact ⟨other, ho, he, Nat.lt_trans hbefore hlt, hi⟩
    · exact ⟨mark, List.mem_append_right _ List.mem_cons_self, he, hlt, hi⟩

theorem misplaced_append {mark : Mark} (hl : ∀ other ∈ later, mark.position ≤ other.position)
    (hn : ∀ pair ∈ new, mark.position ≤ pair.closer) :
    mark.Misplaced (marks ++ later) (pairs ++ new) ↔ mark.Misplaced marks pairs := by
  simp only [Mark.Misplaced, openAt_append hn, innermost_append hl hn, hasElse_append hl hn,
    List.forall_mem_append]
  refine and_congr_right fun _ => or_congr (and_iff_left fun other ho =>
    not_openAt_of_le (hl other ho)) ⟨?_, ?_⟩
  · rintro ⟨first, -, hi, hrest⟩
    exact ⟨first, hi.1, hi, hrest⟩
  · rintro ⟨first, hm, hrest⟩
    exact ⟨first, List.mem_append_left _ hm, hrest⟩

end

end FormLetter
