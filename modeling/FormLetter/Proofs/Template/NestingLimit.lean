import FormLetter.Proofs.Template.Shape
import FormLetter.Proofs.Template.Truncation

/-!
# The nesting limit

The nesting limit truncates a template and does nothing else. As long as every block is closed, the
template with a limit is the template without one, truncated. Two assemblies of the same pieces, one
with the limit and one without, have the same blocks open; a block that has room below the limit is
truncated, and one that has none is text.

* `OpenBlock.Truncates`, `Assembly.Truncates`: what is read with a limit and without one.
* `Assembly.Truncates.step`, `Assembly.Truncates.run`: a piece keeps the relation, and so do all.
* `Template.unreached_of_length_le`: a limit as large as the text is not reached.
* `Template.parse_nestingLimit`: the template with a limit is truncated.
-/

namespace FormLetter

/-! ## Open blocks -/

namespace OpenBlock

open Token (coalesce truncateEach)

theorem branches_nextBranch (condition : Option Condition) (marker : Text) (block : OpenBlock) :
    (block.nextBranch condition marker).branches =
      block.branches ++ [.mk condition marker []] := by
  simp [branches, nextBranch, coalesce]

/-- What is put behind an open block comes last in its text. -/
theorem coalesce_flatten_append (tokens : List Token) (block : OpenBlock) :
    coalesce (block.append tokens).flatten = coalesce (block.flatten ++ tokens) := by
  have hlast : coalesce (coalesce (tokens.reverse ++ block.content).reverse) =
      coalesce (coalesce block.content.reverse ++ tokens) := by
    rw [Token.coalesce_coalesce, List.reverse_append, List.reverse_reverse,
      Token.coalesce_coalesce_append]
  simp only [flatten, branches, append, List.flatMap_append, List.flatMap_singleton, flattenBranch,
    List.append_assoc, List.cons_append]
  exact Token.coalesce_append rfl (Token.coalesce_cons _ hlast)

theorem coalesce_asText_append (tokens : List Token) (block : OpenBlock) :
    coalesce (Branch.asText (block.append tokens).branches) =
      coalesce (Branch.asText block.branches ++ truncateEach 0 tokens) := by
  have hlast : coalesce (truncateEach 0 (coalesce (tokens.reverse ++ block.content).reverse)) =
      coalesce (truncateEach 0 (coalesce block.content.reverse) ++ truncateEach 0 tokens) := by
    rw [Token.coalesce_truncateEach_coalesce, List.reverse_append, List.reverse_reverse,
      Token.truncateEach_append]
    exact Token.coalesce_append (Token.coalesce_truncateEach_coalesce 0 _).symm rfl
  simp only [branches, append, Branch.asText_append, Branch.asText_singleton, List.append_assoc,
    List.cons_append]
  exact Token.coalesce_append rfl (Token.coalesce_cons _ hlast)

/-- An open block within the limit, with what is read in it kept down to a depth. -/
structure KeptAs (depth : Nat) (whole kept : OpenBlock) : Prop where
  /-- It will be a block. -/
  plain : kept.plain = false
  /-- The branch that is being read has the same condition. -/
  condition : kept.condition = whole.condition
  /-- It has the same marker. -/
  marker : kept.marker = whole.marker
  /-- The complete branches are truncated. -/
  done : kept.done = Branch.truncate depth whole.done
  /-- What is read of the last branch is truncated. -/
  content : coalesce kept.content.reverse = coalesce (truncateEach depth whole.content.reverse)

/-- An open block with room for a number of blocks, itself included, and the same block without a
limit. -/
structure Truncates (room : Nat) (whole capped : OpenBlock) : Prop where
  /-- Without a limit it will be a block. -/
  plain : whole.plain = false
  /-- Both are of one kind. -/
  kind : capped.kind = whole.kind
  /-- With room it will be a block. -/
  kept : ∀ inner, room = inner + 1 → whole.KeptAs inner capped
  /-- Without room it will be text. -/
  text : room = 0 → capped.plain = true ∧
    coalesce capped.flatten = coalesce (Branch.asText whole.branches)

variable {room : Nat} {whole capped : OpenBlock}

theorem KeptAs.branches {depth : Nat} (h : whole.KeptAs depth capped) :
    capped.branches = Branch.truncate depth whole.branches := by
  rw [OpenBlock.branches, OpenBlock.branches, Branch.truncate_append, Branch.truncate_reverse,
    h.done, h.condition, h.marker, h.content, Branch.truncate, Branch.truncate,
    Token.coalesce_truncateEach_coalesce]

theorem Truncates.append (h : whole.Truncates room capped) {tokens others : List Token}
    (ht : coalesce others = coalesce (truncateEach (room - 1) tokens)) :
    (whole.append tokens).Truncates room (capped.append others) := by
  refine ⟨h.plain, h.kind, fun inner hroom => ?_, fun hroom => ⟨(h.text hroom).1, ?_⟩⟩
  · have hkept := h.kept inner hroom
    refine ⟨hkept.plain, hkept.condition, hkept.marker, hkept.done, ?_⟩
    rw [hroom, Nat.add_sub_cancel] at ht
    simp only [OpenBlock.append, List.reverse_append, List.reverse_reverse,
      Token.truncateEach_append]
    exact Token.coalesce_append hkept.content ht
  · rw [hroom] at ht
    rw [coalesce_flatten_append, coalesce_asText_append]
    exact Token.coalesce_append (h.text hroom).2 ht

/-- Another branch starts, or its marker is text where there is no room. -/
theorem Truncates.nextBranch (h : whole.Truncates room capped) (condition : Option Condition)
    (marker : Text) :
    (whole.nextBranch condition marker).Truncates room
      (if room = 0 then capped.append [.literal marker]
        else capped.nextBranch condition marker) := by
  cases room with
  | zero =>
    rw [if_pos rfl]
    refine ⟨h.plain, h.kind, fun inner hroom => absurd hroom (by omega), fun _ => ?_⟩
    refine ⟨(h.text rfl).1, ?_⟩
    rw [coalesce_flatten_append, branches_nextBranch, Branch.asText_append,
      Branch.asText_singleton, Token.truncateEach_nil]
    exact Token.coalesce_append (h.text rfl).2 rfl
  | succ inner =>
    have hkept := h.kept inner rfl
    rw [if_neg (Nat.succ_ne_zero inner)]
    refine ⟨h.plain, h.kind, fun depth hroom => ?_, fun hroom => absurd hroom (by omega)⟩
    obtain rfl : inner = depth := by omega
    refine ⟨hkept.plain, rfl, rfl, ?_, ?_⟩
    · rw [OpenBlock.nextBranch, OpenBlock.nextBranch, Branch.truncate, hkept.done, hkept.condition,
        hkept.marker, hkept.content, Token.coalesce_truncateEach_coalesce]
    · rw [OpenBlock.nextBranch, OpenBlock.nextBranch, List.reverse_nil, Token.truncateEach_nil]

/-- A block that is closed is truncated, too. -/
theorem Truncates.close (h : whole.Truncates room capped) (marker : Text) :
    coalesce (capped.close marker) = coalesce (truncateEach room (whole.close marker)) := by
  rw [OpenBlock.close, OpenBlock.close, h.plain, if_neg Bool.false_ne_true, Token.truncateEach_cons,
    Token.truncateEach_nil, List.append_nil]
  cases room with
  | zero =>
    rw [(h.text rfl).1, if_pos rfl, Token.truncateOne_block_zero]
    exact Token.coalesce_append (h.text rfl).2 rfl
  | succ inner =>
    have hkept := h.kept inner rfl
    rw [hkept.plain, if_neg Bool.false_ne_true, h.kind, hkept.branches,
      Token.truncateOne_block_succ]

end OpenBlock

/-! ## Findings -/

namespace Finding

/-- Whether a finding says that a block lies beyond the nesting limit. -/
def isTooDeep : Finding → Bool
  | tooDeep .. => true
  | _ => false

/-- Whether a finding says that a block is not closed. -/
def isUnclosed : Finding → Bool
  | unclosedInside .. | unclosed _ => true
  | _ => false

end Finding

/-! ## Assembly -/

namespace Assembly

open Token (coalesce truncateEach)

/-- Open blocks with a limit and without one, innermost first. -/
inductive StackTruncates (depth : Nat) : List OpenBlock → List OpenBlock → Prop where
  /-- Nothing is open. -/
  | nil : StackTruncates depth [] []
  /-- The innermost block, with the room that the others leave. -/
  | cons {whole capped : OpenBlock} {outer others : List OpenBlock} :
    whole.Truncates (depth - outer.length) capped → StackTruncates depth outer others →
      StackTruncates depth (whole :: outer) (capped :: others)

/-- What is read with a limit and without one. -/
structure Truncates (depth : Nat) (whole capped : Assembly) : Prop where
  /-- The tokens outside all open blocks are truncated. -/
  base : coalesce capped.base.reverse = coalesce (truncateEach depth whole.base.reverse)
  /-- The open blocks are the same. -/
  stack : StackTruncates depth whole.stack capped.stack

section

variable {depth : Nat} {stack capped : List OpenBlock}

theorem StackTruncates.length_eq (h : StackTruncates depth stack capped) :
    capped.length = stack.length := by
  induction h with
  | nil => rfl
  | cons _ _ ih => rw [List.length_cons, List.length_cons, ih]

theorem StackTruncates.plain (h : StackTruncates depth stack capped) :
    ∀ block ∈ stack, block.plain = false := by
  induction h with
  | nil => exact fun _ hb => absurd hb List.not_mem_nil
  | cons hb _ ih => exact List.forall_mem_cons.2 ⟨hb.plain, ih⟩

theorem StackTruncates.splitAtKind?_eq_none (h : StackTruncates depth stack capped)
    {kind : BlockKind} (hs : splitAtKind? kind stack = none) :
    splitAtKind? kind capped = none := by
  induction h with
  | nil => rfl
  | @cons whole capped outer others hb _ ih =>
    simp only [splitAtKind?] at hs ⊢
    split at hs
    · cases hs
    · rename_i hkind
      rw [if_neg (hb.kind ▸ hkind), ih (Option.map_eq_none_iff.1 hs)]
      rfl

end

/-- Open blocks of which none is reported as not closed are none. -/
theorem eq_nil_of_unclosedFindings {report : Text → Finding} {inner : List OpenBlock}
    (hreport : ∀ source, (report source).isUnclosed = true)
    (hplain : ∀ block ∈ inner, block.plain = false)
    (hnone : ∀ finding ∈ unclosedFindings report inner, finding.isUnclosed = false) :
    inner = [] := by
  refine List.eq_nil_iff_forall_not_mem.2 fun block hb => ?_
  have hmem : report block.opener ∈ unclosedFindings report inner := by
    refine List.mem_map.2 ⟨block, List.mem_filter.2 ⟨List.mem_reverse.2 hb, ?_⟩, rfl⟩
    rw [hplain block hb]
    rfl
  exact Bool.false_ne_true ((hnone _ hmem).symm.trans (hreport block.opener))

variable {depth : Nat} {whole capped : Assembly}

theorem truncates_start (depth : Nat) : Truncates depth start start := ⟨by rw [start]; rfl, .nil⟩

theorem Truncates.append (h : Truncates depth whole capped) {tokens others : List Token}
    (ht : coalesce others = coalesce (truncateEach (depth - whole.stack.length) tokens)) :
    Truncates depth (whole.append tokens) (capped.append others) := by
  obtain ⟨base, stack⟩ := whole
  obtain ⟨base', stack'⟩ := capped
  obtain ⟨hbase, hstack⟩ := h
  cases hstack with
  | nil =>
    refine ⟨?_, .nil⟩
    simp only [Assembly.append, List.reverse_append, List.reverse_reverse,
      Token.truncateEach_append]
    exact Token.coalesce_append hbase ht
  | cons hb ho =>
    rw [List.length_cons, ← Nat.sub_sub] at ht
    exact ⟨hbase, .cons (hb.append ht) ho⟩

theorem Truncates.appendLiteral (h : Truncates depth whole capped) (source : Text) :
    Truncates depth (whole.append [.literal source]) (capped.append [.literal source]) :=
  h.append (by rw [Token.truncateEach_singleton_literal])

section

variable {limit cap : Int}

/-- A block that is not reported as too deep is opened in both, as text where there is no room. -/
theorem Truncates.openBlock (h : Truncates cap.toNat whole capped) {kind : BlockKind}
    {condition source : Text}
    (hnone : ∀ finding ∈ (whole.openBlock limit kind condition source).2,
      finding.isTooDeep = false) :
    Truncates cap.toNat (whole.openBlock limit kind condition source).1
      (capped.openBlock cap kind condition source).1 := by
  have hinPlain : whole.stack.head?.any (·.plain) = false := by
    cases hs : whole.stack with
    | nil => rfl
    | cons block outer => exact h.stack.plain block (hs ▸ List.mem_cons_self)
  have hplain : decide (limit ≤ whole.stack.length) = false := by
    rw [← Bool.not_eq_true]
    intro hdeep
    simp only [Assembly.openBlock, hinPlain, hdeep, Bool.not_false, Bool.and_self, if_true] at hnone
    exact Bool.noConfusion (hnone _ List.mem_cons_self)
  refine ⟨h.base, .cons ⟨hplain, rfl, fun inner hroom => ?_, fun hroom => ?_⟩ h.stack⟩
  · have hcap : decide (cap ≤ capped.stack.length) = false := by
      rw [h.stack.length_eq]
      exact decide_eq_false (by omega)
    exact ⟨hcap, rfl, rfl, by rw [Branch.truncate], by rw [List.reverse_nil, truncateEach]⟩
  · have hcap : decide (cap ≤ capped.stack.length) = true := by
      rw [h.stack.length_eq]
      exact decide_eq_true (by omega)
    refine ⟨hcap, ?_⟩
    simp only [OpenBlock.flatten, OpenBlock.branches, List.reverse_nil, List.nil_append,
      List.flatMap_singleton, OpenBlock.flattenBranch, Branch.asText_singleton, coalesce,
      Token.truncateEach_nil]

/-- A branch is started in both; in a block that is text its marker is text. -/
theorem Truncates.startBranch {depth : Nat} (h : Truncates depth whole capped)
    (condition : Option Condition) (source : Text) :
    Truncates depth (whole.startBranch condition source).1
      (capped.startBranch condition source).1 := by
  have htext := h.appendLiteral source
  obtain ⟨base, stack⟩ := whole
  obtain ⟨base', stack'⟩ := capped
  obtain ⟨hbase, hstack⟩ := h
  cases hstack with
  | nil => exact htext
  | @cons whole capped outer others hb ho =>
    have hnext := hb.nextBranch condition source
    by_cases hlist : whole.kind = .listIf
    · simp only [Assembly.startBranch, hb.kind, hlist, decide_true, Bool.true_or, if_true]
      exact htext
    simp only [Assembly.startBranch, hb.kind, hb.plain, hlist, decide_false, Bool.false_or,
      Bool.false_eq_true, if_false]
    cases hroom : depth - outer.length with
    | zero =>
      rw [hroom, if_pos rfl] at hnext
      simp only [(hb.text hroom).1, if_true]
      split
      · exact htext
      · exact ⟨hbase, .cons (hroom ▸ hnext) ho⟩
    | succ inner =>
      have hkept := hb.kept inner hroom
      rw [hroom, if_neg (Nat.succ_ne_zero inner)] at hnext
      simp only [hkept.plain, hkept.condition, Bool.false_eq_true, if_false]
      split
      · exact htext
      · exact ⟨hbase, .cons (hroom ▸ hnext) ho⟩

/-- A block that is not reported as left open is closed in both. -/
theorem Truncates.closeBlock {depth : Nat} (h : Truncates depth whole capped) {kind : BlockKind}
    {source : Text}
    (hnone : ∀ finding ∈ (whole.closeBlock kind source).2, finding.isUnclosed = false) :
    Truncates depth (whole.closeBlock kind source).1 (capped.closeBlock kind source).1 := by
  cases hs : splitAtKind? kind whole.stack with
  | none =>
    simp only [Assembly.closeBlock, hs, h.stack.splitAtKind?_eq_none hs]
    exact h.appendLiteral source
  | some found =>
    obtain ⟨inner, block, outer⟩ := found
    have hstack := splitAtKind?_eq_some hs
    have hkind := kind_of_splitAtKind? hs
    simp only [Assembly.closeBlock, hs] at hnone ⊢
    have hinner : inner = [] := eq_nil_of_unclosedFindings (fun _ => rfl)
      (fun other ho => h.stack.plain other (hstack ▸ List.mem_append_left _ ho)) hnone
    subst hinner
    obtain ⟨base, stack⟩ := whole
    obtain ⟨base', stack'⟩ := capped
    obtain ⟨hbase, hopen⟩ := h
    subst hstack
    cases hopen with
    | @cons _ capped _ others hb ho =>
      have hsplit : splitAtKind? kind (capped :: others) = some ([], capped, others) := by
        simp only [splitAtKind?, hb.kind, hkind, if_true]
      simp only [hsplit]
      have hleft : Truncates depth ⟨base, outer⟩ ⟨base', others⟩ := ⟨hbase, ho⟩
      exact hleft.append (hb.close source)

/-- With a limit a piece does what it does without one, and nothing else. -/
theorem Truncates.step (h : Truncates cap.toNat whole capped) {piece : Piece}
    (hnone : ∀ finding ∈ (whole.step limit piece).2,
      finding.isTooDeep = false ∧ finding.isUnclosed = false) :
    Truncates cap.toNat (whole.step limit piece).1 (capped.step cap piece).1 := by
  match piece with
  | .text source => exact h.appendLiteral source
  | .tag mergeTag =>
    refine h.append ?_
    rw [Token.truncateEach_of_not_block]
    exact fun token ht => List.mem_singleton.1 ht ▸ fun _ _ _ => Token.noConfusion
  | .marker (.opener kind condition) source =>
    exact h.openBlock fun finding hf => (hnone finding hf).1
  | .marker (.elseIf condition) source => exact h.startBranch _ source
  | .marker .otherwise source => exact h.startBranch none source
  | .marker (.closer kind) source => exact h.closeBlock fun finding hf => (hnone finding hf).2

theorem Truncates.finish {depth : Nat} (h : Truncates depth whole capped)
    (hnone : ∀ finding ∈ whole.finish.2, finding.isUnclosed = false) :
    capped.finish.1 = Token.truncate depth whole.finish.1 := by
  have hstack : whole.stack = [] :=
    eq_nil_of_unclosedFindings (fun _ => rfl) h.stack.plain hnone
  have hcapped : capped.stack = [] :=
    List.eq_nil_of_length_eq_zero (by rw [h.stack.length_eq, hstack]; rfl)
  rw [Assembly.finish, Assembly.finish, hstack, hcapped, Token.truncate,
    Token.coalesce_truncateEach_coalesce]
  simpa [flattenAll] using h.base

theorem truncateEach_plainTokens (depth : Nat) (pieces : List Piece) :
    truncateEach depth (pieces.map plainToken) = pieces.map plainToken := by
  refine Token.truncateEach_of_not_block depth fun token ht => ?_
  obtain ⟨piece, -, rfl⟩ := List.mem_map.1 ht
  cases piece <;> exact fun _ _ _ => Token.noConfusion

/-- With a limit all pieces do what they do without one, and nothing else. -/
theorem Truncates.run (h : Truncates cap.toNat whole capped) {steps : Int} {budget : Nat}
    {pieces : List Piece}
    (hnone : ∀ finding ∈ (Assembly.run limit steps budget whole pieces).2,
      finding.isTooDeep = false ∧ finding.isUnclosed = false) :
    (Assembly.run cap steps budget capped pieces).1 =
      Token.truncate cap.toNat (Assembly.run limit steps budget whole pieces).1 := by
  induction pieces generalizing budget whole capped with
  | nil => exact h.finish fun finding hf => (hnone finding hf).2
  | cons piece pieces ih =>
    simp only [Assembly.run] at hnone ⊢
    split
    · rename_i hbudget
      rw [if_pos hbudget] at hnone
      have hrest : Truncates cap.toNat (whole.append ((piece :: pieces).map plainToken))
          (capped.append ((piece :: pieces).map plainToken)) :=
        h.append (by rw [truncateEach_plainTokens])
      exact hrest.finish fun finding hf => (hnone finding (List.mem_cons_of_mem _ hf)).2
    · rename_i hbudget
      rw [if_neg hbudget] at hnone
      obtain ⟨hstep, hrest⟩ := List.forall_mem_append.1 hnone
      exact ih (h.step hstep) hrest

end

end Assembly

/-! ## Limits that are not reached -/

namespace Assembly

section

variable {depth : Int} {assembly : Assembly}

theorem length_stack_startBranch (condition : Option Condition) (source : Text)
    (assembly : Assembly) :
    (assembly.startBranch condition source).1.stack.length = assembly.stack.length := by
  unfold startBranch
  split
  · exact length_stack_append assembly _
  · rename_i block outer hs
    split
    · exact length_stack_append assembly _
    · split
      · exact length_stack_append assembly _
      · rw [hs]
        rfl

theorem length_stack_closeBlock_le (kind : BlockKind) (source : Text) (assembly : Assembly) :
    (assembly.closeBlock kind source).1.stack.length ≤ assembly.stack.length := by
  unfold closeBlock
  split
  · exact Nat.le_of_eq (length_stack_append assembly _)
  · rename_i inner block outer hs
    have hlength := congrArg List.length (splitAtKind?_eq_some hs)
    rw [List.length_append, List.length_cons] at hlength
    simp only [length_stack_append]
    omega

/-- A marker opens at most one block, and any other piece opens none. -/
theorem length_stack_step_le (depth : Int) (assembly : Assembly) (piece : Piece) :
    (assembly.step depth piece).1.stack.length ≤
      assembly.stack.length + if piece.isMarker then 1 else 0 := by
  match piece with
  | .text _ => exact Nat.le_of_eq (length_stack_append assembly _)
  | .tag _ => exact Nat.le_of_eq (length_stack_append assembly _)
  | .marker (.opener _ _) _ => exact Nat.le_refl _
  | .marker (.elseIf _) source =>
    exact Nat.le_succ_of_le (Nat.le_of_eq (length_stack_startBranch _ source assembly))
  | .marker .otherwise source =>
    exact Nat.le_succ_of_le (Nat.le_of_eq (length_stack_startBranch _ source assembly))
  | .marker (.closer kind) source =>
    exact Nat.le_succ_of_le (length_stack_closeBlock_le kind source assembly)

/-- With room for one more block no piece is reported as too deep. -/
theorem isTooDeep_of_mem_step {piece : Piece}
    (hroom : piece.isMarker = true → assembly.stack.length < depth) :
    ∀ finding ∈ (assembly.step depth piece).2, finding.isTooDeep = false := by
  refine forall_mem_step (fun hm hfull => ?_) (fun _ => rfl) (fun _ => rfl) (fun _ => rfl)
    fun _ _ => rfl
  have hlt := hroom hm
  omega

/-- With room for as many blocks as there are markers no piece is reported as too deep. -/
theorem isTooDeep_of_mem_run {pieces : List Piece}
    (hroom : assembly.stack.length + pieces.countP Piece.isMarker ≤ depth) {steps : Int}
    {budget : Nat} :
    ∀ finding ∈ (Assembly.run depth steps budget assembly pieces).2,
      finding.isTooDeep = false := by
  have hfinish (assembly : Assembly) : ∀ finding ∈ assembly.finish.2, finding.isTooDeep = false :=
    forall_mem_unclosedFindings .unclosed (fun _ => rfl) assembly.stack
  induction pieces generalizing budget assembly with
  | nil => exact hfinish assembly
  | cons piece pieces ih =>
    rw [List.countP_cons] at hroom
    simp only [Assembly.run]
    split
    · exact List.forall_mem_cons.2 ⟨rfl, hfinish _⟩
    · refine List.forall_mem_append.2 ⟨isTooDeep_of_mem_step fun hm => ?_, ih ?_⟩
      · rw [if_pos hm] at hroom
        omega
      · have hstep := length_stack_step_le depth assembly piece
        omega

end

end Assembly

/-! ## Templates -/

namespace Template

/-- No block of a text lies beyond the nesting limit. -/
def Unreached (limits : Limits) (text : Text) : Prop :=
  ∀ finding ∈ (parse limits text).findings, finding.isTooDeep = false

instance (limits : Limits) (text : Text) : Decidable (Unreached limits text) :=
  inferInstanceAs (Decidable (∀ finding ∈ _, _))

/-- Every block of a text that is opened is closed. -/
def ClosesAll (limits : Limits) (text : Text) : Prop :=
  ∀ finding ∈ (parse limits text).findings, finding.isUnclosed = false

instance (limits : Limits) (text : Text) : Decidable (ClosesAll limits text) :=
  inferInstanceAs (Decidable (∀ finding ∈ _, _))

/-- A limit as large as the text is not reached. -/
theorem unreached_of_length_le {limits : Limits} {text : Text} (h : text.length ≤ limits.depth) :
    Unreached limits text := by
  intro finding hf
  rcases List.mem_append.1 hf with hf | hf
  · have hlex := Finding.isAboutTag_of_mem_lex hf
    cases finding <;> first | rfl | exact Bool.noConfusion hlex
  · have hle := countP_isMarker_lex_le text
    exact Assembly.isTooDeep_of_mem_run (by rw [Assembly.start, List.length_nil]; omega) finding hf

theorem tokens_parse_truncate {limits : Limits} {unreached : Int} {text : Text}
    (h : Unreached { limits with depth := unreached } text)
    (hc : ClosesAll { limits with depth := unreached } text) :
    (parse limits text).tokens =
      Token.truncate limits.depth.toNat (parse { limits with depth := unreached } text).tokens :=
  (Assembly.truncates_start _).run fun finding hf =>
    ⟨h finding (List.mem_append_right _ hf), hc finding (List.mem_append_right _ hf)⟩

/-- **The nesting limit.** With a limit of at least one every text is read, and blocks are nested no
deeper than the limit. The limit does nothing but truncate: there are limits that a text does not
reach, and if the template with any of them has all its blocks closed, the template with the limit
is that one with each block beyond the limit made text, its markers as literals and between them
its contents, treated the same way, and literals next to each other made one. -/
theorem parse_nestingLimit {limits : Limits} (h : 1 ≤ limits.depth) (text : Text) :
    isRefused limits text = false ∧ Token.depth (parse limits text).tokens ≤ limits.depth ∧
      (∀ deep : Int, text.length ≤ deep → Unreached { limits with depth := deep } text) ∧
      ∀ unreached : Int, Unreached { limits with depth := unreached } text →
        ClosesAll { limits with depth := unreached } text →
        (parse limits text).tokens = Token.truncate limits.depth.toNat
          (parse { limits with depth := unreached } text).tokens := by
  refine ⟨isRefused_of_one_le h text, ?_, fun deep hd => unreached_of_length_le hd,
    fun unreached => tokens_parse_truncate⟩
  have hdepth := depth_parse_le limits text
  omega

/-- A block inside a block, each with an alternative, in which stray markers stand. -/
theorem parse_nestingLimit_nested :
    let limits : Limits := { depth := 1 }
    let text := "{if $A}{if $B}b{else}{elseif $C}{/listif}{/if}c{else}{if $D}{/if}{/if}".toList
    1 ≤ limits.depth ∧ Unreached { limits with depth := 64 } text ∧
      ClosesAll { limits with depth := 64 } text ∧ ¬ Unreached limits text ∧
      Token.depth (parse limits text).tokens ≤ limits.depth ∧
      (parse limits text).tokens =
        Token.truncate limits.depth.toNat (parse { limits with depth := 64 } text).tokens := by
  intro limits text
  have hun : Unreached { limits with depth := 64 } text := by decide +kernel
  have hcl : ClosesAll { limits with depth := 64 } text := by decide +kernel
  have hone : 1 ≤ limits.depth := by decide
  obtain ⟨-, hdepth, -, htokens⟩ := parse_nestingLimit hone text
  exact ⟨hone, hun, hcl, by decide +kernel, hdepth, htokens 64 hun hcl⟩

end Template

end FormLetter
