import FormLetter.Proofs.Template.Literal
import FormLetter.Template.Parser

/-!
# Building templates

Pairing block markers loses no text, and it makes tokens out of nothing but literals, the merge tags
among the pieces, and blocks around tokens that were built before. A block is put together where its
nesting is within the limit, from branches whose markers stand in the order that its kind allows.

* `Template.sources_parse`: the tokens of a text make up the text.
* `Assembly.forall_mem_step`: what holds of everything that a piece can be noticed for.
* `IsMarked`: the markers of the branches of a block stand in order.
* `Grants`: a property of tokens that the pieces of a text establish.
* `Assembly.Holds`: every token that is read so far has the property.
* `forall_mem_parse`: every token of a template has the property.
-/

namespace FormLetter

/-! ## No text is lost -/

theorem Template.sources_tokens (limits : Limits) (text : Text) :
    Token.sources (Template.parse limits text).tokens = text := by
  have hrun := Assembly.sources_run limits.depth (Template.budget limits text)
    (Template.budget limits text).toNat .start (lex text).pieces
  calc Token.sources (Template.parse limits text).tokens
      = Assembly.start.source ++ Piece.sources (lex text).pieces := hrun
    _ = Piece.sources (lex text).pieces := rfl
    _ = text := sources_lex text

/-- **Reading loses nothing.** With a nesting limit of at least one every text is read, whatever the
budget of markers, and the tokens written one after the other are the text. -/
theorem Template.sources_parse {limits : Limits} (h : 1 ≤ limits.depth) (text : Text) :
    Template.isRefused limits text = false ∧
      Token.sources (Template.parse limits text).tokens = text :=
  ⟨Template.isRefused_of_one_le h text, Template.sources_tokens limits text⟩

/-- A block beyond the nesting limit, around an orphan, with a budget that ends before its close. -/
theorem Template.sources_parse_nested :
    1 ≤ (⟨1, some 3⟩ : Limits).depth ∧
      Template.isRefused ⟨1, some 3⟩ "{if $A}{listif $B}{else}x{/listif}{/if}".toList = false ∧
      Token.sources (Template.parse ⟨1, some 3⟩
          "{if $A}{listif $B}{else}x{/listif}{/if}".toList).tokens =
        "{if $A}{listif $B}{else}x{/listif}{/if}".toList :=
  ⟨by decide, Template.sources_parse (by decide) _⟩

/-! ## What is noticed -/

namespace Assembly

section

variable {P : Finding → Prop}

theorem forall_mem_unclosedFindings (report : Text → Finding) (h : ∀ source, P (report source))
    (inner : List OpenBlock) : ∀ finding ∈ unclosedFindings report inner, P finding := by
  intro finding hf
  obtain ⟨block, -, rfl⟩ := List.mem_map.1 hf
  exact h block.opener

/-- A branch marker is noticed where no block is open for it, and after an `else`. -/
theorem forall_mem_startBranch (hstray : ∀ source, P (.strayBranch source))
    (helse : ∀ source, P (.branchAfterElse source)) (assembly : Assembly)
    (condition : Option Condition) (source : Text) :
    ∀ finding ∈ (assembly.startBranch condition source).2, P finding := by
  unfold startBranch
  split
  · exact List.forall_mem_singleton.2 (hstray source)
  · split
    · exact fun _ hf => absurd hf List.not_mem_nil
    · split
      · exact List.forall_mem_singleton.2 (helse source)
      · exact fun _ hf => absurd hf List.not_mem_nil

/-- There are five reasons to notice a piece; it is too deep only as a marker that finds no room. -/
theorem forall_mem_step {depth : Int} {assembly : Assembly} {piece : Piece}
    (hdeep : piece.isMarker = true → depth ≤ assembly.stack.length →
      ∀ source, P (.tooDeep depth source))
    (hstray : ∀ source, P (.strayBranch source))
    (helse : ∀ source, P (.branchAfterElse source))
    (hclose : ∀ source, P (.unmatchedClose source))
    (hinside : ∀ source closer, P (.unclosedInside source closer)) :
    ∀ finding ∈ (assembly.step depth piece).2, P finding := by
  match piece with
  | .text source => exact fun _ hf => absurd hf List.not_mem_nil
  | .tag mergeTag => exact fun _ hf => absurd hf List.not_mem_nil
  | .marker (.opener kind condition) source =>
    simp only [step, openBlock]
    split
    · rename_i hplain
      have hroom := of_decide_eq_true (Bool.and_eq_true_iff.1 hplain).1
      exact List.forall_mem_singleton.2 (hdeep rfl hroom source)
    · exact fun _ hf => absurd hf List.not_mem_nil
  | .marker (.elseIf condition) source => exact forall_mem_startBranch hstray helse _ _ source
  | .marker .otherwise source => exact forall_mem_startBranch hstray helse _ none source
  | .marker (.closer kind) source =>
    simp only [step, closeBlock]
    split
    · exact List.forall_mem_singleton.2 (hclose source)
    · exact forall_mem_unclosedFindings (.unclosedInside · source) (hinside · source) _

end

end Assembly

/-! ## The markers of a block -/

/-- The condition and the marker of a branch. -/
def Branch.head (branch : Branch) : Option Condition × Text := (branch.condition, branch.marker)

/-- The conditions and the markers of the branches of a block, in order. The first marker opens a
block of the kind and the others start alternatives; `reads` tells which marker a text is. -/
structure IsMarked (reads : Text → Marker → Prop) (kind : BlockKind)
    (heads : List (Option Condition × Text)) : Prop where
  /-- The first branch has a condition, and its marker opens a block of the kind. -/
  opener : ∃ condition source rest, heads = (some (Condition.parse condition), source) :: rest ∧
    reads source (.opener kind condition)
  /-- The other branches have a condition or are started by `else`. -/
  alternative : ∀ head ∈ heads.tail,
    (∃ condition, head.1 = some (Condition.parse condition) ∧ reads head.2 (.elseIf condition)) ∨
      head.1 = none ∧ reads head.2 .otherwise
  /-- Only the last branch may be without a condition. -/
  condition : ∀ head ∈ heads.dropLast, head.1.isSome
  /-- A block that is kept or left out has one branch. -/
  single : kind = .listIf → heads.length = 1

section

variable {reads : Text → Marker → Prop} {kind : BlockKind}

theorem isMarked_opener {condition source : Text} (h : reads source (.opener kind condition)) :
    IsMarked reads kind [(some (Condition.parse condition), source)] :=
  ⟨⟨condition, source, [], rfl, h⟩, fun _ hm => absurd hm List.not_mem_nil,
    fun _ hm => absurd hm List.not_mem_nil, fun _ => rfl⟩

/-- A block whose branches all have a condition so far may get another one. -/
theorem IsMarked.concat {heads : List (Option Condition × Text)} (h : IsMarked reads kind heads)
    (hkind : kind ≠ .listIf) (hall : ∀ head ∈ heads, head.1.isSome) {head : Option Condition × Text}
    (hhead : (∃ condition, head.1 = some (Condition.parse condition) ∧
      reads head.2 (.elseIf condition)) ∨ head.1 = none ∧ reads head.2 .otherwise) :
    IsMarked reads kind (heads ++ [head]) := by
  obtain ⟨condition, source, rest, rfl, hopener⟩ := h.opener
  refine ⟨⟨condition, source, rest ++ [head], rfl, hopener⟩, ?_, ?_, fun hk => absurd hk hkind⟩
  · exact List.forall_mem_append.2
      ⟨h.alternative, fun other ho => List.mem_singleton.1 ho ▸ hhead⟩
  · rw [List.dropLast_concat]
    exact hall

end

/-! ## What tokens are built of -/

/-- A property of tokens that depends on the number of blocks around them. All literals have it, the
merge tags among pieces have it, it does not get lost when a block around is given up, and a block
within the nesting limit gets it from its content when a piece closes it. -/
structure Grants (P : Nat → Token → Prop) (reads : Text → Marker → Prop) (depth : Int)
    (pieces : List Piece) : Prop where
  /-- Literals have the property. -/
  literal : ∀ level source, P level (.literal source)
  /-- The merge tags among the pieces have it. -/
  tag : ∀ level mergeTag, .tag mergeTag ∈ pieces → P level (.tag mergeTag)
  /-- The markers among the pieces are read as what they are. -/
  marker : ∀ marker source, .marker marker source ∈ pieces → reads source marker
  /-- It is kept with fewer blocks around. -/
  outward : ∀ level token, P (level + 1) token → P level token
  /-- A block has it if its markers are in order and all tokens inside have it. -/
  block : ∀ (level : Nat) kind branches close, (level : Int) < depth →
    IsMarked reads kind (branches.map Branch.head) → reads close (.closer kind) →
      (∀ branch ∈ branches, Token.IsCoalesced branch.content ∧
        ∀ token ∈ branch.content, P (level + 1) token) →
        P level (.block kind branches close)

section

variable {P : Nat → Token → Prop} {reads : Text → Marker → Prop} {depth : Int}
  {pieces : List Piece}

theorem Grants.tail {piece : Piece} (h : Grants P reads depth (piece :: pieces)) :
    Grants P reads depth pieces :=
  ⟨h.literal, fun l t ht => h.tag l t (List.mem_cons_of_mem _ ht),
    fun m s hs => h.marker m s (List.mem_cons_of_mem _ hs), h.outward, h.block⟩

theorem Grants.of_le (h : Grants P reads depth pieces) {level other : Nat} (hle : level ≤ other)
    {token : Token} (ht : P other token) : P level token := by
  induction hle with
  | refl => exact ht
  | step _ ih => exact ih (h.outward _ _ ht)

theorem forall_mem_coalesce {P : Token → Prop} (hl : ∀ source, P (.literal source))
    {tokens : List Token} (h : ∀ token ∈ tokens, P token) :
    ∀ token ∈ Token.coalesce tokens, P token := by
  fun_induction Token.coalesce tokens with
  | case1 => exact h
  | case2 source tokens ih =>
    have hr := ih (List.forall_mem_cons.1 h).2
    unfold Token.consLiteral
    split
    · exact hr
    · rename_i heq
      rw [heq] at hr
      exact List.forall_mem_cons.2 ⟨hl _, (List.forall_mem_cons.1 hr).2⟩
    · exact List.forall_mem_cons.2 ⟨hl _, hr⟩
  | case3 token tokens _ ih =>
    obtain ⟨ht, hr⟩ := List.forall_mem_cons.1 h
    exact List.forall_mem_cons.2 ⟨ht, ih hr⟩

namespace OpenBlock

/-- What is read of an open block with a number of blocks around it. -/
structure Holds (P : Nat → Token → Prop) (reads : Text → Marker → Prop) (depth : Int) (level : Nat)
    (block : OpenBlock) : Prop where
  /-- It is plain if it lies beyond the nesting limit. -/
  plain : block.plain = decide (depth ≤ level)
  /-- Its markers are in order. -/
  marked : IsMarked reads block.kind (block.branches.map Branch.head)
  /-- The tokens of the complete branches have the property. -/
  done : ∀ branch ∈ block.done, Token.IsCoalesced branch.content ∧
    ∀ token ∈ branch.content, P (level + 1) token
  /-- Those of the branch that is being read have it. -/
  content : ∀ token ∈ block.content, P (level + 1) token

theorem heads_append (tokens : List Token) (block : OpenBlock) :
    (block.append tokens).branches.map Branch.head = block.branches.map Branch.head := by
  simp [branches, append, Branch.head, Branch.condition, Branch.marker]

theorem heads_nextBranch (condition : Option Condition) (marker : Text) (block : OpenBlock) :
    (block.nextBranch condition marker).branches.map Branch.head =
      block.branches.map Branch.head ++ [(condition, marker)] := by
  simp [branches, nextBranch, Branch.head, Branch.condition, Branch.marker]

/-- As long as the branch that is being read has a condition, all branches have one. -/
theorem isSome_of_mem_heads {block : OpenBlock}
    (h : IsMarked reads block.kind (block.branches.map Branch.head))
    (hc : block.condition.isSome) : ∀ head ∈ block.branches.map Branch.head, head.1.isSome := by
  have hall := h.condition
  rw [branches, List.map_append, List.map_singleton, List.dropLast_concat] at hall
  rw [branches, List.map_append, List.map_singleton]
  exact List.forall_mem_append.2 ⟨hall, fun head hm => List.mem_singleton.1 hm ▸ hc⟩

variable {level : Nat} {block : OpenBlock}

theorem Holds.branches (h : block.Holds P reads depth level)
    (hl : ∀ level source, P level (.literal source)) :
    ∀ branch ∈ block.branches, Token.IsCoalesced branch.content ∧
      ∀ token ∈ branch.content, P (level + 1) token := by
  intro branch hb
  rcases List.mem_append.1 hb with hb | hb
  · exact h.done branch (List.mem_reverse.1 hb)
  · rw [List.mem_singleton.1 hb]
    exact ⟨Token.isCoalesced_coalesce _,
      forall_mem_coalesce (hl _) fun token ht => h.content token (List.mem_reverse.1 ht)⟩

theorem Holds.flatten (h : block.Holds P reads depth level)
    (hl : ∀ level source, P level (.literal source)) :
    ∀ token ∈ block.flatten, P (level + 1) token := by
  intro token ht
  obtain ⟨branch, hb, ht⟩ := List.mem_flatMap.1 ht
  obtain ⟨condition, marker, content⟩ := branch
  rcases List.mem_cons.1 ht with rfl | ht
  · exact hl _ marker
  · exact (h.branches hl _ hb).2 token ht

theorem Holds.append (h : block.Holds P reads depth level) {tokens : List Token}
    (ht : ∀ token ∈ tokens, P (level + 1) token) :
    (block.append tokens).Holds P reads depth level :=
  ⟨h.plain, heads_append tokens block ▸ h.marked, h.done,
    List.forall_mem_append.2 ⟨fun token hm => ht token (List.mem_reverse.1 hm), h.content⟩⟩

theorem Holds.nextBranch (h : block.Holds P reads depth level)
    (hl : ∀ level source, P level (.literal source)) (hkind : block.kind ≠ .listIf)
    (hc : block.condition.isSome) {condition : Option Condition} {marker : Text}
    (hhead : (∃ text, condition = some (Condition.parse text) ∧ reads marker (.elseIf text)) ∨
      condition = none ∧ reads marker .otherwise) :
    (block.nextBranch condition marker).Holds P reads depth level := by
  refine ⟨h.plain, ?_, List.forall_mem_cons.2 ⟨⟨Token.isCoalesced_coalesce _, ?_⟩, h.done⟩,
    fun _ hm => absurd hm List.not_mem_nil⟩
  · rw [heads_nextBranch]
    exact h.marked.concat hkind (isSome_of_mem_heads h.marked hc) hhead
  · exact forall_mem_coalesce (hl _) fun token ht => h.content token (List.mem_reverse.1 ht)

end OpenBlock

namespace Assembly

/-- What is read of open blocks, innermost first. -/
inductive StackHolds (P : Nat → Token → Prop) (reads : Text → Marker → Prop) (depth : Int) :
    List OpenBlock → Prop where
  /-- Nothing is open. -/
  | nil : StackHolds P reads depth []
  /-- The innermost block, with the others around it. -/
  | cons {block : OpenBlock} {outer : List OpenBlock} :
    block.Holds P reads depth outer.length → StackHolds P reads depth outer →
      StackHolds P reads depth (block :: outer)

/-- Every token that is read so far has a property, and the markers of open blocks are in order. -/
structure Holds (P : Nat → Token → Prop) (reads : Text → Marker → Prop) (depth : Int)
    (assembly : Assembly) : Prop where
  /-- The tokens outside all open blocks. -/
  base : ∀ token ∈ assembly.base, P 0 token
  /-- Those inside the open blocks. -/
  stack : StackHolds P reads depth assembly.stack

variable {assembly : Assembly} {inner outer : List OpenBlock} {block : OpenBlock}

theorem StackHolds.head (h : StackHolds P reads depth (block :: outer)) :
    block.Holds P reads depth outer.length := by
  cases h with
  | cons hb _ => exact hb

theorem StackHolds.tail (h : StackHolds P reads depth (block :: outer)) :
    StackHolds P reads depth outer := by
  cases h with
  | cons _ ho => exact ho

theorem StackHolds.around (h : StackHolds P reads depth (inner ++ outer)) :
    StackHolds P reads depth outer := by
  induction inner with
  | nil => exact h
  | cons block inner ih => exact ih h.tail

/-- Blocks that are given up leave their tokens to the blocks around them. -/
theorem StackHolds.forall_mem_flattenAll (hg : Grants P reads depth pieces)
    (h : StackHolds P reads depth (inner ++ outer)) :
    ∀ token ∈ flattenAll inner, P outer.length token := by
  induction inner with
  | nil => exact fun _ ht => absurd ht List.not_mem_nil
  | cons block inner ih =>
    intro token ht
    rw [flattenAll, List.reverse_cons, List.flatMap_append, List.flatMap_singleton] at ht
    rcases List.mem_append.1 ht with ht | ht
    · exact ih h.tail token ht
    · have hle : outer.length ≤ (inner ++ outer).length + 1 := by
        rw [List.length_append]
        omega
      exact hg.of_le hle (h.head.flatten hg.literal token ht)

theorem holds_start : start.Holds P reads depth := ⟨fun _ h => absurd h List.not_mem_nil, .nil⟩

theorem Holds.append (h : assembly.Holds P reads depth) {tokens : List Token}
    (ht : ∀ token ∈ tokens, P assembly.stack.length token) :
    (assembly.append tokens).Holds P reads depth := by
  obtain ⟨base, stack⟩ := assembly
  cases stack with
  | nil =>
    refine ⟨List.forall_mem_append.2 ⟨fun token hm => ht token (List.mem_reverse.1 hm), h.base⟩, ?_⟩
    exact h.stack
  | cons block outer => exact ⟨h.base, .cons (h.stack.head.append ht) h.stack.tail⟩

theorem Holds.appendToken (h : assembly.Holds P reads depth) {token : Token}
    (ht : P assembly.stack.length token) : (assembly.append [token]).Holds P reads depth :=
  h.append fun _ ho => List.mem_singleton.1 ho ▸ ht

theorem Holds.openBlock (h : assembly.Holds P reads depth) {kind : BlockKind}
    {condition source : Text} (hread : reads source (.opener kind condition)) :
    (assembly.openBlock depth kind condition source).1.Holds P reads depth :=
  ⟨h.base, .cons ⟨rfl, isMarked_opener hread, fun _ hm => absurd hm List.not_mem_nil,
    fun _ hm => absurd hm List.not_mem_nil⟩ h.stack⟩

theorem Holds.startBranch (h : assembly.Holds P reads depth)
    (hl : ∀ level source, P level (.literal source)) {condition : Option Condition} {source : Text}
    (hhead : (∃ text, condition = some (Condition.parse text) ∧ reads source (.elseIf text)) ∨
      condition = none ∧ reads source .otherwise) :
    (assembly.startBranch condition source).1.Holds P reads depth := by
  have htext := h.appendToken (hl assembly.stack.length source)
  unfold Assembly.startBranch
  split
  · exact htext
  · rename_i block outer hs
    split
    · exact htext
    · rename_i hplain
      split
      · exact htext
      · rename_i hcondition
        have hstack := hs ▸ h.stack
        have hkind : block.kind ≠ .listIf := fun hk => hplain (by simp [hk])
        have hsome : block.condition.isSome := by
          rwa [Option.isNone_iff_eq_none, ← ne_eq, Option.ne_none_iff_isSome] at hcondition
        exact ⟨h.base, .cons (hstack.head.nextBranch hl hkind hsome hhead) hstack.tail⟩

theorem kind_of_splitAtKind? {kind : BlockKind} {stack inner outer : List OpenBlock}
    {block : OpenBlock} (h : splitAtKind? kind stack = some (inner, block, outer)) :
    block.kind = kind := by
  induction stack generalizing inner with
  | nil => cases h
  | cons first rest ih =>
    simp only [splitAtKind?] at h
    split at h
    · rename_i hk
      cases h
      exact hk
    · obtain ⟨⟨i, b, o⟩, hs, he⟩ := Option.map_eq_some_iff.1 h
      cases he
      exact ih hs

/-- A block that is closed within the nesting limit has the property; a plain one leaves its tokens
to the block around it. -/
theorem forall_mem_close (hg : Grants P reads depth pieces) {level : Nat}
    (h : block.Holds P reads depth level) {close : Text}
    (hread : reads close (.closer block.kind)) :
    ∀ token ∈ block.close close, P level token := by
  unfold OpenBlock.close
  split
  · refine List.forall_mem_append.2 ⟨fun token ht => ?_, fun token ht => ?_⟩
    · exact hg.outward _ _ (h.flatten hg.literal token ht)
    · exact List.mem_singleton.1 ht ▸ hg.literal _ _
  · rename_i hplain
    have hlevel : (level : Int) < depth := by
      rw [h.plain, decide_eq_true_iff] at hplain
      omega
    intro token ht
    rw [List.mem_singleton.1 ht]
    exact hg.block _ _ _ _ hlevel h.marked hread (h.branches hg.literal)

theorem Holds.closeBlock (hg : Grants P reads depth pieces) (h : assembly.Holds P reads depth)
    {kind : BlockKind} {source : Text} (hread : reads source (.closer kind)) :
    (assembly.closeBlock kind source).1.Holds P reads depth := by
  unfold Assembly.closeBlock
  split
  · exact h.appendToken (hg.literal _ source)
  · rename_i inner block outer hs
    have hstack := splitAtKind?_eq_some hs ▸ h.stack
    obtain rfl := kind_of_splitAtKind? hs
    have hfull : (block.append (flattenAll inner)).Holds P reads depth outer.length :=
      hstack.around.head.append (hstack.forall_mem_flattenAll hg)
    have hleft : Holds P reads depth { assembly with stack := outer } :=
      ⟨h.base, hstack.around.tail⟩
    exact hleft.append (forall_mem_close hg hfull hread)

/-- What holds of the tokens read so far still holds after one more piece. -/
theorem Holds.step (hg : Grants P reads depth pieces) (h : assembly.Holds P reads depth)
    {piece : Piece} (hp : piece ∈ pieces) : (assembly.step depth piece).1.Holds P reads depth := by
  match piece with
  | .text source => exact h.appendToken (hg.literal _ source)
  | .tag mergeTag => exact h.appendToken (hg.tag _ mergeTag hp)
  | .marker (.opener kind condition) source => exact h.openBlock (hg.marker _ _ hp)
  | .marker (.elseIf condition) source =>
    exact h.startBranch hg.literal (Or.inl ⟨condition, rfl, hg.marker _ _ hp⟩)
  | .marker .otherwise source =>
    exact h.startBranch hg.literal (Or.inr ⟨rfl, hg.marker _ _ hp⟩)
  | .marker (.closer kind) source => exact h.closeBlock hg (hg.marker _ _ hp)

theorem Holds.finish (hg : Grants P reads depth pieces) (h : assembly.Holds P reads depth) :
    ∀ token ∈ assembly.finish.1, P 0 token := by
  have hstack : StackHolds P reads depth (assembly.stack ++ []) := by
    rw [List.append_nil]
    exact h.stack
  refine forall_mem_coalesce (hg.literal 0)
    (List.forall_mem_append.2 ⟨?_, hstack.forall_mem_flattenAll hg⟩)
  exact fun token ht => h.base token (List.mem_reverse.1 ht)

theorem forall_mem_plainTokens (hg : Grants P reads depth pieces) (level : Nat) :
    ∀ token ∈ pieces.map plainToken, P level token := by
  intro token ht
  obtain ⟨piece, hp, rfl⟩ := List.mem_map.1 ht
  cases piece with
  | tag mergeTag => exact hg.tag level mergeTag hp
  | _ => exact hg.literal level _

theorem Holds.run (hg : Grants P reads depth pieces) (h : assembly.Holds P reads depth)
    (limit : Int) (budget : Nat) :
    ∀ token ∈ (Assembly.run depth limit budget assembly pieces).1, P 0 token := by
  induction pieces generalizing assembly budget with
  | nil => exact h.finish hg
  | cons piece pieces ih =>
    simp only [Assembly.run]
    split
    · exact (h.append (forall_mem_plainTokens hg _)).finish hg
    · exact ih hg.tail (h.step hg List.mem_cons_self) _

end Assembly

/-- A property that the pieces of a text grant holds of every token of its template. -/
theorem forall_mem_parse {limits : Limits} {text : Text}
    (hg : Grants P reads limits.depth (lex text).pieces) :
    ∀ token ∈ (Template.parse limits text).tokens, P 0 token :=
  Assembly.holds_start.run hg (Template.budget limits text) _

end

end FormLetter
