import FormLetter.Proofs.Template.Written
import FormLetter.Template.Parser

/-!
# Pairing the markers of written templates

The pieces of a written tree are paired without a finding: each piece does what its token stands
for, and a block within the nesting limit is put together from its branches again. The default
budget suffices for all markers of any text.

* `Token.depth`: how deep blocks are nested.
* `Assembly.Takes`: pieces that are taken one after the other without a finding.
* `Assembly.takes_written`: the pieces of a written tree put its tokens behind what is read.
* `Template.parse_written`: a written tree is read back from its text.
-/

namespace FormLetter

open Text

/-! ## Depth -/

mutual

/-- How deep blocks are nested in a token. -/
def Token.depthOne : Token → Nat
  | .block _ branches _ => Branch.depth branches + 1
  | _ => 0

/-- How deep blocks are nested in tokens. -/
def Token.depth : List Token → Nat
  | [] => 0
  | token :: tokens => max token.depthOne (Token.depth tokens)

/-- How deep blocks are nested inside branches. -/
def Branch.depth : List Branch → Nat
  | [] => 0
  | .mk _ _ content :: branches => max (Token.depth content) (Branch.depth branches)

end

theorem Branch.depth_content_le {branches : List Branch} :
    ∀ branch ∈ branches, Token.depth branch.content ≤ Branch.depth branches := by
  induction branches with
  | nil => exact fun _ hb => absurd hb List.not_mem_nil
  | cons branch branches ih =>
    obtain ⟨condition, marker, content⟩ := branch
    rw [Branch.depth]
    refine List.forall_mem_cons.2 ⟨Nat.le_max_left _ _, fun other ho => ?_⟩
    exact Nat.le_trans (ih other ho) (Nat.le_max_right _ _)

/-! ## Budget -/

/-- A text holds no more markers than characters. -/
theorem countP_isMarker_lex_le (text : Text) :
    (lex text).pieces.countP Piece.isMarker ≤ text.length := by
  have h (pieces : List Piece) (hp : ∀ piece ∈ pieces, piece.IsBraced) :
      pieces.countP Piece.isMarker ≤ (Piece.sources pieces).length := by
    induction pieces with
    | nil => exact Nat.le_refl _
    | cons piece pieces ih =>
      obtain ⟨hfirst, hrest⟩ := List.forall_mem_cons.1 hp
      have hle := ih hrest
      rw [Piece.sources, List.flatMap_cons, List.length_append, ← Piece.sources]
      cases piece with
      | marker marker source =>
        have hpos : 0 < source.length := List.length_pos_of_mem hfirst
        rw [List.countP_cons_of_pos rfl]
        simp only [Piece.source]
        omega
      | _ =>
        rw [List.countP_cons_of_neg Bool.false_ne_true]
        omega
  have hlex := h (lex text).pieces (isBraced_lex text)
  rwa [sources_lex] at hlex

namespace Assembly

/-! ## Pieces without findings -/

/-- Pieces that are taken one after the other, without a finding. -/
inductive Takes (depth : Int) : Assembly → List Piece → Assembly → Prop where
  /-- No piece. -/
  | nil {assembly : Assembly} : Takes depth assembly [] assembly
  /-- A piece in front. -/
  | cons {assembly next last : Assembly} {piece : Piece} {pieces : List Piece} :
    assembly.step depth piece = (next, []) → Takes depth next pieces last →
      Takes depth assembly (piece :: pieces) last

section

variable {depth : Int} {assembly next last : Assembly}

theorem Takes.append {pieces others : List Piece} (h : Takes depth assembly pieces next)
    (ho : Takes depth next others last) : Takes depth assembly (pieces ++ others) last := by
  induction h with
  | nil => exact ho
  | cons hs _ ih => exact .cons hs (ih ho)

/-- Within the budget the pieces that are taken lead to the end. -/
theorem Takes.run {pieces : List Piece} (h : Takes depth assembly pieces last) (limit : Int)
    {budget : Nat} (hb : pieces.countP Piece.isMarker ≤ budget) :
    Assembly.run depth limit budget assembly pieces = last.finish := by
  induction h generalizing budget with
  | nil => rfl
  | @cons assembly next last piece pieces hs _ ih =>
    cases hm : piece.isMarker with
    | true =>
      rw [List.countP_cons_of_pos hm] at hb
      have hne : budget ≠ 0 := by omega
      simp only [Assembly.run, hm, hs, hne, Bool.true_and, decide_false, Bool.false_eq_true,
        ↓reduceIte, List.nil_append]
      exact ih (by omega)
    | false =>
      rw [List.countP_cons_of_neg (by simp [hm])] at hb
      simp only [Assembly.run, hm, hs, Bool.false_and, Bool.false_eq_true, ↓reduceIte,
        List.nil_append]
      exact ih hb

end

/-! ## Single steps -/

section

variable (assembly : Assembly)

theorem append_nil : assembly.append [] = assembly := by
  obtain ⟨base, stack⟩ := assembly
  cases stack <;> rfl

theorem append_append (front back : List Token) :
    (assembly.append front).append back = assembly.append (front ++ back) := by
  obtain ⟨base, stack⟩ := assembly
  cases stack <;> simp [append, OpenBlock.append]

theorem length_stack_append (tokens : List Token) :
    (assembly.append tokens).stack.length = assembly.stack.length := by
  obtain ⟨base, stack⟩ := assembly
  cases stack <;> rfl

/-- A block within the nesting limit is opened. -/
theorem openBlock_of_lt {depth : Int} (h : assembly.stack.length < depth) (kind : BlockKind)
    (condition source : Text) :
    assembly.openBlock depth kind condition source =
      (⟨assembly.base, ⟨kind, false, [], some (Condition.parse condition), source, []⟩ ::
        assembly.stack⟩, []) := by
  have hplain : decide (depth ≤ assembly.stack.length) = false := decide_eq_false (by omega)
  simp [openBlock, hplain]

end

section

variable {base : List Token} {block : OpenBlock} {outer : List OpenBlock}

/-- A block with alternatives takes another branch. -/
theorem startBranch_of_isSome (hk : block.kind = .ifBlock) (hp : block.plain = false)
    (hc : block.condition.isSome) (condition : Option Condition) (source : Text) :
    startBranch condition source ⟨base, block :: outer⟩ =
      (⟨base, block.nextBranch condition source :: outer⟩, []) := by
  rw [Option.isSome_iff_exists] at hc
  obtain ⟨found, hc⟩ := hc
  simp [startBranch, hk, hp, hc]

/-- The innermost block is closed by a marker of its kind. -/
theorem closeBlock_innermost {kind : BlockKind} (hk : block.kind = kind) (hp : block.plain = false)
    (source : Text) :
    closeBlock kind source ⟨base, block :: outer⟩ =
      (append [.block kind block.branches source] ⟨base, outer⟩, []) := by
  have hsplit : splitAtKind? kind (block :: outer) = some ([], block, outer) := by
    simp [splitAtKind?, hk]
  have hclose : block.close source = [.block kind block.branches source] := by
    simp [OpenBlock.close, hp, hk]
  have happend : block.append (flattenAll []) = block := rfl
  simp only [closeBlock, hsplit, happend, hclose]
  rfl

end

/-! ## Branches -/

end Assembly

/-- An open block after more branches. -/
def OpenBlock.follow (block : OpenBlock) (branches : List Branch) : OpenBlock :=
  branches.foldl (fun block branch =>
    (block.nextBranch branch.condition branch.marker).append branch.content) block

theorem OpenBlock.kind_follow (block : OpenBlock) (branches : List Branch) :
    (block.follow branches).kind = block.kind := by
  induction branches generalizing block with
  | nil => rfl
  | cons branch branches ih => exact ih _

theorem OpenBlock.plain_follow (block : OpenBlock) (branches : List Branch) :
    (block.follow branches).plain = block.plain := by
  induction branches generalizing block with
  | nil => rfl
  | cons branch branches ih => exact ih _

/-- The branches of a block are those that were read, one behind the other. -/
theorem OpenBlock.branches_follow {branches : List Branch}
    (h : ∀ branch ∈ branches, Token.coalesce branch.content = branch.content)
    (block : OpenBlock) : (block.follow branches).branches = block.branches ++ branches := by
  induction branches generalizing block with
  | nil => rw [List.append_nil]; rfl
  | cons branch branches ih =>
    obtain ⟨hbranch, hrest⟩ := List.forall_mem_cons.1 h
    have hnext :
        ((block.nextBranch branch.condition branch.marker).append branch.content).branches =
          block.branches ++ [branch] := by
      obtain ⟨condition, marker, content⟩ := branch
      simp only [Branch.content] at hbranch
      simp [OpenBlock.branches, OpenBlock.append, OpenBlock.nextBranch, Branch.content, hbranch,
        Branch.condition, Branch.marker]
    show ((OpenBlock.append _ _).follow branches).branches = _
    rw [ih hrest, hnext, List.append_assoc]
    rfl

/-- A written tree has no literals to join or to drop. -/
theorem Written.coalesce_eq {tokens : List Token} (h : Written tokens) :
    Token.coalesce tokens = tokens := by
  induction h with
  | nil => rfl
  | @literal source tokens hne _ hl _ ih =>
    obtain ⟨c, rest, rfl⟩ := List.exists_cons_of_ne_nil hne
    rw [Token.coalesce, ih]
    cases tokens with
    | nil => rfl
    | cons token tokens =>
      cases token with
      | literal next => exact absurd ⟨next, rfl⟩ hl
      | _ => rfl
  | tag _ _ ih =>
    rw [Token.coalesce, ih]
    intro _ he
    cases he
  | block _ _ _ _ ih =>
    rw [Token.coalesce, ih]
    intro _ he
    cases he

namespace Assembly

/-- The alternatives of a block are read one after the other, if their contents are. -/
theorem takes_alternatives {depth : Int} {branches : List Branch} (h : Alternatives branches)
    {base : List Token} {outer : List OpenBlock}
    (hc : ∀ branch ∈ branches, ∀ block : OpenBlock,
      Takes depth ⟨base, block :: outer⟩ (Token.pieces branch.content)
        ⟨base, block.append branch.content :: outer⟩)
    {block : OpenBlock} (hk : branches ≠ [] → block.kind = .ifBlock) (hp : block.plain = false)
    (hs : block.condition.isSome) :
    Takes depth ⟨base, block :: outer⟩ (Branch.pieces branches)
      ⟨base, block.follow branches :: outer⟩ := by
  induction h generalizing block with
  | nil =>
    rw [Branch.pieces]
    exact .nil
  | @otherwise content =>
    have hkind := hk (List.cons_ne_nil _ _)
    have hcontent := hc _ List.mem_cons_self (block.nextBranch none "{else}".toList)
    rw [Branch.pieces, readsAs_otherwise.ofMarker, Branch.pieces, List.append_nil]
    exact .cons (startBranch_of_isSome hkind hp hs none _) hcontent
  | @elseIf condition content branches hcond _ ih =>
    have hkind := hk (List.cons_ne_nil _ _)
    obtain ⟨hfirst, hrest⟩ := List.forall_mem_cons.1 hc
    let next := block.nextBranch (some (Condition.parse condition)) (markerText "elseif" condition)
    have hstep : step depth ⟨base, block :: outer⟩
        (.marker (.elseIf (strip condition)) (markerText "elseif" condition)) =
          (⟨base, next :: outer⟩, []) := by
      rw [step, Condition.parse_strip]
      exact startBranch_of_isSome hkind hp hs _ _
    have hothers : Takes depth ⟨base, next.append content :: outer⟩ (Branch.pieces branches)
        ⟨base, (next.append content).follow branches :: outer⟩ := ih hrest (fun _ => hkind) hp rfl
    rw [Branch.pieces, (readsAs_elseIf hcond).ofMarker]
    exact .cons hstep ((hfirst next).append hothers)

/-- A written block is put together from its branches, if their contents are read. -/
theorem takes_block {depth : Int} {kind : BlockKind} {branches : List Branch}
    (h : WrittenBranches kind branches)
    (hcoalesce : ∀ branch ∈ branches, Token.coalesce branch.content = branch.content)
    {base : List Token} {outer : List OpenBlock}
    (hc : ∀ branch ∈ branches, ∀ block : OpenBlock,
      Takes depth ⟨base, block :: outer⟩ (Token.pieces branch.content)
        ⟨base, block.append branch.content :: outer⟩)
    (hd : outer.length < depth) :
    Takes depth ⟨base, outer⟩ (Branch.pieces branches ++ [.ofMarker kind.closeMarker.toList])
      (append [.block kind branches kind.closeMarker.toList] ⟨base, outer⟩) := by
  cases h with
  | @mk condition content branches hcond ha hk =>
    obtain ⟨hfirst, hrest⟩ := List.forall_mem_cons.1 hc
    obtain ⟨hjoined, hjoinedRest⟩ := List.forall_mem_cons.1 hcoalesce
    let opened : OpenBlock :=
      ⟨kind, false, [], some (Condition.parse condition), markerText kind.word condition, []⟩
    let last := (opened.append content).follow branches
    have hkind : branches ≠ [] → kind = .ifBlock := by
      intro hne
      cases kind with
      | ifBlock => rfl
      | listIf => exact absurd (hk rfl) hne
    -- The first marker opens the block.
    have hopen : step depth ⟨base, outer⟩
        (.marker (.opener kind (strip condition)) (markerText kind.word condition)) =
          (⟨base, opened :: outer⟩, []) := by
      rw [step, openBlock_of_lt _ hd, Condition.parse_strip]
    have hothers : Takes depth ⟨base, opened.append content :: outer⟩ (Branch.pieces branches)
        ⟨base, last :: outer⟩ := takes_alternatives ha hrest hkind rfl rfl
    -- The last marker closes it again, with all branches that were read.
    have hbranches : last.branches = .mk (some (Condition.parse condition))
        (markerText kind.word condition) content :: branches := by
      rw [OpenBlock.branches_follow hjoinedRest]
      simp only [Branch.content] at hjoined
      simp [opened, OpenBlock.branches, OpenBlock.append, hjoined]
    have hclose : step depth ⟨base, last :: outer⟩
        (.marker (.closer kind) kind.closeMarker.toList) =
          (append [.block kind last.branches kind.closeMarker.toList] ⟨base, outer⟩, []) :=
      closeBlock_innermost (OpenBlock.kind_follow _ branches) (OpenBlock.plain_follow _ branches) _
    rw [hbranches] at hclose
    rw [Branch.pieces, (readsAs_opener kind hcond).ofMarker, (readsAs_closer kind).ofMarker]
    exact .cons hopen (((hfirst opened).append hothers).append (.cons hclose .nil))

/-- The pieces of a written tree put its tokens behind what is read, if the nesting limit leaves
room for its blocks. -/
theorem takes_written {tokens : List Token} (h : Written tokens) {depth : Int}
    (assembly : Assembly) (hd : assembly.stack.length + Token.depth tokens ≤ depth) :
    Takes depth assembly (Token.pieces tokens) (assembly.append tokens) := by
  induction h generalizing assembly with
  | nil =>
    rw [Token.pieces, append_nil]
    exact .nil
  | @literal source tokens _ _ _ _ ih =>
    rw [Token.depth] at hd
    have hrest := ih (assembly.append [.literal source]) (by rw [length_stack_append]; omega)
    rw [append_append] at hrest
    rw [Token.pieces, Token.piecesOne]
    exact .cons rfl hrest
  | @tag mergeTag tokens _ _ ih =>
    rw [Token.depth] at hd
    have hrest := ih (assembly.append [.tag mergeTag]) (by rw [length_stack_append]; omega)
    rw [append_append] at hrest
    rw [Token.pieces, Token.piecesOne]
    exact .cons rfl hrest
  | @block kind branches tokens hb hcontents _ hall ih =>
    rw [Token.depth, Token.depthOne] at hd
    have hrest := ih (assembly.append [.block kind branches kind.closeMarker.toList])
      (by rw [length_stack_append]; omega)
    rw [append_append] at hrest
    rw [Token.pieces, Token.piecesOne]
    refine Takes.append ?_ hrest
    obtain ⟨base, stack⟩ := assembly
    dsimp only at hd
    refine takes_block hb (fun branch hm => (hcontents branch hm).coalesce_eq) ?_ (by omega)
    intro branch hm block
    have hle := Branch.depth_content_le branch hm
    exact hall branch hm ⟨base, block :: stack⟩ (by simp only [List.length_cons] at hd ⊢; omega)

end Assembly

/-! ## Reading written trees -/

/-- Without blocks no piece opens one. -/
theorem Written.not_isOpener {tokens : List Token} (h : Written tokens)
    (hd : Token.depth tokens = 0) : ∀ piece ∈ Token.pieces tokens, piece.isOpener = false := by
  induction h with
  | nil =>
    rw [Token.pieces]
    exact fun _ hp => absurd hp List.not_mem_nil
  | literal _ _ _ _ ih =>
    rw [Token.depth] at hd
    rw [Token.pieces, Token.piecesOne]
    exact List.forall_mem_cons.2 ⟨rfl, ih (by omega)⟩
  | tag _ _ ih =>
    rw [Token.depth] at hd
    rw [Token.pieces, Token.piecesOne]
    exact List.forall_mem_cons.2 ⟨rfl, ih (by omega)⟩
  | block =>
    rw [Token.depth, Token.depthOne] at hd
    omega

namespace Template

theorem isRefused_written {tokens : List Token} (h : Written tokens) {limits : Limits}
    (hd : Token.depth tokens ≤ limits.depth) :
    isRefused limits (Token.sources tokens) = false := by
  by_cases hone : 1 ≤ limits.depth
  · exact isRefused_of_one_le hone _
  · have hno := h.not_isOpener (by omega)
    rw [isRefused, lex_sources h, Bool.and_eq_false_iff]
    refine Or.inr (List.any_eq_false.2 fun piece hp => ?_)
    rw [hno piece (List.mem_filter.1 (List.mem_of_mem_take hp)).1]
    exact Bool.false_ne_true

/-- **Reading written trees.** A written tree whose blocks are nested no deeper than the limit is
read back from its text, and nothing is noticed. -/
theorem parse_written {tokens : List Token} (h : Written tokens) {depth : Int}
    (hd : Token.depth tokens ≤ depth) :
    isRefused { depth := depth } (Token.sources tokens) = false ∧
      parse { depth := depth } (Token.sources tokens) = ⟨tokens, []⟩ := by
  refine ⟨isRefused_written h hd, ?_⟩
  have htakes := Assembly.takes_written h .start (by simpa [Assembly.start] using hd)
  have hbudget : (Token.pieces tokens).countP Piece.isMarker ≤
      (budget { depth := depth } (Token.sources tokens)).toNat := by
    have hle := countP_isMarker_lex_le (Token.sources tokens)
    rw [lex_sources h] at hle
    exact Nat.le_succ_of_le hle
  have hrun := htakes.run (budget { depth := depth } (Token.sources tokens)) hbudget
  have hfinish : (Assembly.start.append tokens).finish = (tokens, []) := by
    simp [Assembly.finish, Assembly.append, Assembly.start, Assembly.flattenAll,
      Assembly.unclosedFindings, h.coalesce_eq]
  simp only [parse, lex_sources h, hrun, hfinish, List.append_nil]

/-- A paragraph with a block of two branches and a block inside the second of them. -/
theorem parse_written_nested :
    let tag : MergeTag := ⟨"Name".toList, [.upper, .replace "|".toList []],
      '{' :: ("$Name|upper|replace:\"|\":\"\"".toList ++ ['}'])⟩
    let inner : Token := .block .listIf
      [.mk (some (Condition.parse " $B".toList)) "{listif  $B}".toList []] "{/listif}".toList
    let outer : Token := .block .ifBlock
      [.mk (some (Condition.parse "$A".toList)) "{if $A}".toList [.tag tag],
        .mk none "{else}".toList [inner]] "{/if}".toList
    let tokens : List Token := [.literal "<p>".toList, outer]
    Written tokens ∧ (Token.depth tokens : Int) ≤ 2 ∧
      isRefused { depth := 2 } (Token.sources tokens) = false ∧
      parse { depth := 2 } (Token.sources tokens) = ⟨tokens, []⟩ := by
  intro tag inner outer tokens
  have htag : tag.IsWritten := by
    refine ⟨by decide, ?_, ?_, rfl⟩
    · exact List.forall_mem_cons.2 ⟨⟨by decide, by decide⟩,
        List.forall_mem_cons.2 ⟨⟨by decide, by decide⟩, fun _ h => nomatch h⟩⟩
    · decide
  have hinner : Written [inner] := by
    have hbranches : WrittenBranches .listIf
        [.mk (some (Condition.parse " $B".toList)) "{listif  $B}".toList []] :=
      .mk ⟨by decide, by decide⟩ .nil fun _ => rfl
    exact .block hbranches (fun branch hm => List.mem_singleton.1 hm ▸ .nil) .nil
  have houter : Written [outer] := by
    have hbranches : WrittenBranches .ifBlock
        [.mk (some (Condition.parse "$A".toList)) "{if $A}".toList [.tag tag],
          .mk none "{else}".toList [inner]] :=
      .mk ⟨by decide, by decide⟩ .otherwise fun h => nomatch h
    refine .block hbranches (List.forall_mem_cons.2 ⟨.tag htag .nil, ?_⟩) .nil
    exact fun branch hm => List.mem_singleton.1 hm ▸ hinner
  have hparagraph : Verbatim ("<p>".toList ++ []) := .tag ⟨['p'], rfl, by decide⟩ .nil
  have htokens : Written tokens :=
    .literal (by decide) hparagraph (by simp [StartsLiteral, outer]) houter
  exact ⟨htokens, by decide, parse_written htokens (by decide)⟩

end Template

end FormLetter
