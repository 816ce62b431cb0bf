import FormLetter.Proofs.Template.Ledger

/-!
# Assemblies and ledgers

As long as no limit is reached, the blocks that an assembly has open are the pending marks of the
ledger of the same pieces, and the blocks that it has built are the pairs of that ledger.

* `Finding.marker?`, `Assembly.isSome_marker?_run`: the block marker that a finding is about.
* `reported`: the marks that are reported before the end, those that the ledger leaves unpaired and
  those that are out of place.
* `Assembly.Reflects`: open blocks and pending marks.
* `Assembly.Follows`: an assembly and the marks it has read.
-/

namespace FormLetter

/-! ## Findings about markers -/

namespace Finding

/-- Whether a finding says that a limit was reached. -/
def isLimit : Finding → Bool
  | stepLimit .. | tooDeep .. => true
  | _ => false

/-- The block marker that a finding is about. -/
def marker? : Finding → Option Text
  | stepLimit _ marker | tooDeep _ marker | strayBranch marker | branchAfterElse marker
  | unmatchedClose marker | unclosedInside marker _ | unclosed marker => some marker
  | _ => none

theorem kind_of_marker? {finding : Finding} (h : finding.marker?.isSome) :
    finding.kind = .structuralError := by
  cases finding <;> first | rfl | cases h

theorem kind_of_isLimit {finding : Finding} (h : finding.isLimit = true) :
    finding.kind = .structuralError := by
  cases finding <;> first | rfl | cases h

end Finding

namespace Assembly

/-- What is noticed while markers are paired is about markers. -/
theorem isSome_marker?_step (depth : Int) (assembly : Assembly) (piece : Piece) :
    ∀ finding ∈ (assembly.step depth piece).2, finding.marker?.isSome :=
  forall_mem_step (fun _ _ _ => rfl) (fun _ => rfl) (fun _ => rfl) (fun _ => rfl) fun _ _ => rfl

theorem isSome_marker?_run (depth limit : Int) (budget : Nat) (assembly : Assembly)
    (pieces : List Piece) :
    ∀ finding ∈ (run depth limit budget assembly pieces).2, finding.marker?.isSome := by
  have hfinish (assembly : Assembly) : ∀ finding ∈ assembly.finish.2, finding.marker?.isSome :=
    forall_mem_unclosedFindings .unclosed (fun _ => rfl) assembly.stack
  induction pieces generalizing budget assembly with
  | nil => exact hfinish assembly
  | cons piece pieces ih =>
    simp only [run]
    split
    · exact List.forall_mem_cons.2 ⟨rfl, hfinish _⟩
    · exact List.forall_mem_append.2 ⟨isSome_marker?_step depth assembly piece, ih _ _⟩

end Assembly

/-! ## Reported marks -/

/-- The marks that are reported while the blocks of others are open: those left unpaired and those
out of place. -/
def reported (marks : List Mark) : List Mark :=
  (Ledger.run marks).unpaired ++
    marks.filter fun mark => mark.Misplaced marks (Ledger.run marks).pairs

/-- What one more mark adds to the reported ones. -/
theorem reported_append_singleton {marks : List Mark} {mark : Mark} {new : Option BlockPair}
    {dropped : List Mark}
    (he : Ledger.Effect marks (Ledger.run marks) mark (Ledger.run (marks ++ [mark])) new dropped)
    (hlt : ∀ other ∈ marks, other.position < mark.position) :
    (reported (marks ++ [mark])).Perm (reported marks ++
      (dropped ++ if mark.Misplaced marks (Ledger.run marks).pairs then [mark] else [])) := by
  have hbehind (other : Mark) (ho : other.position ≤ mark.position) :
      other.Misplaced (marks ++ [mark]) (Ledger.run (marks ++ [mark])).pairs ↔
        other.Misplaced marks (Ledger.run marks).pairs := by
    rw [he.pairs]
    refine misplaced_append (by simpa using ho) fun pair hp => ?_
    rw [he.closer_eq pair hp]
    exact ho
  have hfilter : (marks.filter fun other =>
      decide (other.Misplaced (marks ++ [mark]) (Ledger.run (marks ++ [mark])).pairs)) =
        marks.filter fun other => decide (other.Misplaced marks (Ledger.run marks).pairs) :=
    List.filter_congr fun other ho =>
      decide_eq_decide.2 (hbehind other (Nat.le_of_lt (hlt other ho)))
  have hlast := hbehind mark (Nat.le_refl _)
  rw [reported, reported, List.filter_append, hfilter, he.unpaired, List.append_assoc,
    List.append_assoc]
  refine List.Perm.append_left _ ?_
  rw [← List.append_assoc, ← List.append_assoc]
  refine List.perm_append_comm.append (List.Perm.of_eq ?_)
  by_cases hm : mark.Misplaced marks (Ledger.run marks).pairs
  · simp [if_pos hm, hlast.2 hm]
  · simp [if_neg hm, mt hlast.1 hm]

/-! ## Open blocks and pending marks -/

/-- An open block and the mark that opened it. -/
structure OpenBlock.Stands (hasElse : Mark → Prop) (position : Nat) (block : OpenBlock)
    (mark : Mark) : Prop where
  /-- The block lies within the nesting limit. -/
  plain : block.plain = false
  /-- The mark opens a block of its kind. -/
  kind : mark.marker.opens? = some block.kind
  /-- It is written like the first marker of the block. -/
  source : mark.source = block.opener
  /-- It stands where the block starts. -/
  position : mark.position = position
  /-- The block is in its last branch if it had its `else`. -/
  condition : block.kind = .ifBlock → (block.condition = none ↔ hasElse mark)

namespace Assembly

/-- Open blocks and pending marks, innermost first. -/
inductive Reflects (hasElse : Mark → Prop) (base : List Token) :
    List OpenBlock → List Mark → Prop where
  /-- Nothing is open. -/
  | nil : Reflects hasElse base [] []
  /-- The innermost block and the last mark. -/
  | cons {block : OpenBlock} {outer : List OpenBlock} {mark : Mark} {pending : List Mark} :
    block.Stands hasElse (position ⟨base, outer⟩) mark → Reflects hasElse base outer pending →
      Reflects hasElse base (block :: outer) (mark :: pending)

section

variable {hasElse other : Mark → Prop} {base : List Token} {stack inner outer : List OpenBlock}
  {block : OpenBlock} {pending : List Mark} {mark : Mark}

/-- It matters only which of the marks that take alternatives had their `else`. -/
theorem Reflects.congr (h : Reflects hasElse base stack pending)
    (hall : ∀ mark ∈ pending, mark.marker.opens? = some .ifBlock → (hasElse mark ↔ other mark)) :
    Reflects other base stack pending := by
  induction h with
  | nil => exact .nil
  | cons hs _ ih =>
    obtain ⟨hfirst, hrest⟩ := List.forall_mem_cons.1 hall
    exact .cons ⟨hs.plain, hs.kind, hs.source, hs.position,
      fun hk => (hs.condition hk).trans (hfirst (hk ▸ hs.kind))⟩ (ih hrest)

theorem Reflects.plain (h : Reflects hasElse base stack pending) :
    ∀ block ∈ stack, block.plain = false := by
  induction h with
  | nil => exact fun _ hb => absurd hb List.not_mem_nil
  | cons hs _ ih => exact List.forall_mem_cons.2 ⟨hs.plain, ih⟩

theorem Reflects.kinds (h : Reflects hasElse base stack pending) :
    pending.map (·.marker.opens?) = stack.map fun block => some block.kind := by
  induction h with
  | nil => rfl
  | cons hs _ ih => rw [List.map_cons, List.map_cons, hs.kind, ih]

theorem Reflects.sources (h : Reflects hasElse base stack pending) :
    pending.map Mark.source = stack.map OpenBlock.opener := by
  induction h with
  | nil => rfl
  | cons hs _ ih => rw [List.map_cons, List.map_cons, hs.source, ih]

theorem Reflects.eq_nil (h : Reflects hasElse base [] pending) : pending = [] := by
  cases h
  rfl

theorem Reflects.eq_cons (h : Reflects hasElse base (block :: outer) pending) :
    ∃ first rest, pending = first :: rest ∧ block.Stands hasElse (position ⟨base, outer⟩) first ∧
      Reflects hasElse base outer rest := by
  cases h with
  | cons hs hrest => exact ⟨_, _, rfl, hs, hrest⟩

/-- The open blocks around a block are reflected too. -/
theorem Reflects.split (h : Reflects hasElse base (inner ++ block :: outer) pending) :
    ∃ marks first rest, pending = marks ++ first :: rest ∧
      marks.map (·.marker.opens?) = inner.map (fun block => some block.kind) ∧
      marks.map Mark.source = inner.map OpenBlock.opener ∧
      block.Stands hasElse (position ⟨base, outer⟩) first ∧ Reflects hasElse base outer rest := by
  induction inner generalizing pending with
  | nil =>
    obtain ⟨first, rest, rfl, hs, hrest⟩ := h.eq_cons
    exact ⟨[], first, rest, rfl, rfl, rfl, hs, hrest⟩
  | cons last inner ih =>
    obtain ⟨mark, pending, rfl, hs, hpending⟩ := h.eq_cons
    obtain ⟨marks, first, rest, rfl, hk, hsource, hstands, hrest⟩ := ih hpending
    refine ⟨mark :: marks, first, rest, rfl, ?_, ?_, hstands, hrest⟩
    · rw [List.map_cons, List.map_cons, hs.kind, hk]
    · rw [List.map_cons, List.map_cons, hs.source, hsource]

/-- Tokens put behind everything leave the open blocks what they are. -/
theorem Reflects.append (h : Reflects hasElse base stack pending) (tokens : List Token) :
    Reflects hasElse (Assembly.append tokens ⟨base, stack⟩).base
      (Assembly.append tokens ⟨base, stack⟩).stack pending := by
  cases h with
  | nil => exact .nil
  | cons hs hrest => exact .cons ⟨hs.plain, hs.kind, hs.source, hs.position, hs.condition⟩ hrest

end

theorem opener_nextBranch (condition : Option Condition) (marker : Text) (block : OpenBlock) :
    (block.nextBranch condition marker).opener = block.opener := by
  unfold OpenBlock.opener OpenBlock.nextBranch
  cases hd : block.done with
  | nil => rfl
  | cons branch branches =>
    rw [List.getLast?_cons_cons, List.getLast?_eq_some_getLast (List.cons_ne_nil _ _)]

theorem splitAtKind?_eq_none {kind : BlockKind} {stack : List OpenBlock}
    (h : splitAtKind? kind stack = none) : ∀ block ∈ stack, block.kind ≠ kind := by
  induction stack with
  | nil => exact fun _ hb => absurd hb List.not_mem_nil
  | cons block outer ih =>
    simp only [splitAtKind?] at h
    split at h
    · cases h
    · rename_i hk
      exact List.forall_mem_cons.2 ⟨hk, ih (Option.map_eq_none_iff.1 h)⟩

theorem ne_of_splitAtKind? {kind : BlockKind} {stack inner outer : List OpenBlock}
    {block : OpenBlock} (h : splitAtKind? kind stack = some (inner, block, outer)) :
    ∀ other ∈ inner, other.kind ≠ kind := by
  induction stack generalizing inner with
  | nil => cases h
  | cons first rest ih =>
    simp only [splitAtKind?] at h
    split at h
    · cases h
      exact fun _ ho => absurd ho List.not_mem_nil
    · rename_i hk
      obtain ⟨⟨i, b, o⟩, hs, he⟩ := Option.map_eq_some_iff.1 h
      cases he
      exact List.forall_mem_cons.2 ⟨hk, ih hs⟩

/-! ## Following -/

/-- An assembly has read pieces with the given marks: it has their pending marks open and has built
their pairs, and the closing marks without a pair are copied. -/
structure Follows (assembly : Assembly) (seen : List Mark) : Prop where
  /-- The marks stand one behind the other. -/
  sorted : seen.Pairwise fun a b => a.position < b.position
  /-- They have been read. -/
  lt_position : ∀ mark ∈ seen, mark.position < assembly.position
  /-- The open blocks are the pending marks. -/
  stack : Reflects (HasElse seen (Ledger.run seen).pairs assembly.position) assembly.base
    assembly.stack (Ledger.run seen).pending
  /-- The blocks that are built are the pairs. -/
  pairs : assembly.roles.filterMap Role.pair? = (Ledger.run seen).pairs
  /-- Closing marks without a pair are copied. -/
  copied : ∀ mark ∈ seen, mark.marker.closes?.isSome →
    (∀ pair ∈ (Ledger.run seen).pairs, pair.closer ≠ mark.position) →
      ∀ index < mark.source.length, (mark.position + index, Role.copied) ∈ assembly.roles

theorem follows_start : start.Follows [] := by
  refine ⟨.nil, fun _ hm => absurd hm List.not_mem_nil, .nil, ?_,
    fun _ hm => absurd hm List.not_mem_nil⟩
  simp [start, roles, rolesFrom, Ledger.run, Ledger.start]

section

variable {assembly : Assembly} {seen : List Mark}

theorem Follows.sound (h : assembly.Follows seen) : Ledger.Sound seen (Ledger.run seen) :=
  Ledger.sound_run h.sorted

/-- A piece that is no marker is followed. -/
theorem Follows.append (h : assembly.Follows seen) (token : Token)
    (ht : (Token.roles assembly.position [token]).filterMap Role.pair? = []) :
    (assembly.append [token]).Follows seen := by
  have hposition : (assembly.append [token]).position =
      assembly.position + (Token.sources [token]).length := by
    rw [position, source_append, List.length_append, position]
  refine ⟨h.sorted, fun mark hm => ?_, ?_, ?_, fun mark hm hc hnone index hi => ?_⟩
  · have := h.lt_position mark hm
    omega
  · refine (h.stack.append [token]).congr fun first _ _ => exists_congr fun mark => ?_
    refine and_congr_right fun hm => and_congr_right fun _ => and_congr_left fun _ => ?_
    have := h.lt_position mark hm
    exact iff_of_true this (by omega)
  · rw [roles_append, List.filterMap_append, ht, List.append_nil, h.pairs]
  · rw [roles_append]
    exact List.mem_append_left _ (h.copied mark hm hc hnone index hi)

/-- The `else` markers that the open blocks had, after one more mark. -/
theorem Follows.hasElse_iff (h : assembly.Follows seen) {mark : Mark}
    (hm : mark.position = assembly.position) {position : Nat} (hp : mark.position < position)
    (first : Mark) :
    HasElse (seen ++ [mark]) (Ledger.run (seen ++ [mark])).pairs position first ↔
      HasElse seen (Ledger.run seen).pairs assembly.position first ∨
        mark.marker = .otherwise ∧ (Ledger.run seen).pending.head? = some first := by
  have hlt : ∀ other ∈ seen, other.position < mark.position := hm ▸ h.lt_position
  obtain ⟨new, dropped, he⟩ := h.sound.exists_effect hlt
  have hlater : ∀ pair ∈ new.toList, mark.position ≤ pair.closer := fun pair hn =>
    Nat.le_of_eq (he.closer_eq pair hn).symm
  rw [Ledger.run_append_singleton, he.pairs, hasElse_append_singleton hp hlt hlater,
    h.sound.innermost_iff hlt, hm]

end

end Assembly

end FormLetter
