import FormLetter.Template.Piece

/-!
# Blocks of a template

Block markers are paired from left to right on a stack of open blocks. A closing marker pairs with
the innermost open block of its own kind; blocks of the other kind that are open inside it stay
text. Whatever cannot be paired stays text too and is reported.

* `OpenBlock`: a block whose closing marker has not come yet.
* `Assembly`: the tokens built so far around and inside the open blocks.
* `Assembly.step`: the effect of one piece.
* `Assembly.run`: the effect of all pieces within a budget of markers.

Main statement: `sources_run` (pairing keeps the text).
-/

namespace FormLetter

/-! ## Open blocks -/

/-- A block that is open. A plain block lies beyond the nesting limit: it takes part in pairing and
stays text. -/
structure OpenBlock where
  /-- The kind of the block. -/
  kind : BlockKind
  /-- Whether the block lies beyond the nesting limit. -/
  plain : Bool
  /-- The branches that are complete, last first. -/
  done : List Branch
  /-- The condition of the branch that is being read; `else` has none. -/
  condition : Option Condition
  /-- The marker of the branch that is being read. -/
  marker : Text
  /-- The tokens of that branch, last first. -/
  content : List Token

namespace OpenBlock

/-- The branches of the block, the last of them as far as it is read. -/
def branches (block : OpenBlock) : List Branch :=
  block.done.reverse ++ [.mk block.condition block.marker (Token.coalesce block.content.reverse)]

/-- The marker that opened the block. -/
def opener (block : OpenBlock) : Text :=
  match block.done.getLast? with
  | some branch => branch.marker
  | none => block.marker

/-- The block with the next branch started. -/
def nextBranch (condition : Option Condition) (marker : Text) (block : OpenBlock) : OpenBlock :=
  { block with
    done := .mk block.condition block.marker (Token.coalesce block.content.reverse) :: block.done
    condition := condition
    marker := marker
    content := [] }

/-- A branch as text and tokens. -/
def flattenBranch : Branch → List Token
  | .mk _ marker content => .literal marker :: content

/-- The block as text and tokens, for a block that is never closed. -/
def flatten (block : OpenBlock) : List Token := block.branches.flatMap flattenBranch

/-- The block with tokens put behind what is read. -/
def append (tokens : List Token) (block : OpenBlock) : OpenBlock :=
  { block with content := tokens.reverse ++ block.content }

/-- The block as a token, or as text if it lies beyond the nesting limit. -/
def close (marker : Text) (block : OpenBlock) : List Token :=
  if block.plain then block.flatten ++ [.literal marker]
  else [.block block.kind block.branches marker]

end OpenBlock

/-! ## Assembly -/

/-- The tokens read outside all open blocks, last first, and the open blocks, innermost first. -/
structure Assembly where
  /-- The tokens outside all open blocks, last first. -/
  base : List Token
  /-- The open blocks, innermost first. -/
  stack : List OpenBlock

/-- The innermost open block of a kind: the blocks inside it, the block, and those around it. -/
def splitAtKind? (kind : BlockKind) :
    List OpenBlock → Option (List OpenBlock × OpenBlock × List OpenBlock)
  | [] => none
  | block :: outer =>
    if block.kind = kind then some ([], block, outer)
    else (splitAtKind? kind outer).map fun (inner, found, around) => (block :: inner, found, around)

namespace Assembly

/-- Nothing is read yet. -/
def start : Assembly := ⟨[], []⟩

/-- Tokens put behind everything that is read. -/
def append (tokens : List Token) (assembly : Assembly) : Assembly :=
  match assembly.stack with
  | [] => { assembly with base := tokens.reverse ++ assembly.base }
  | block :: outer => { assembly with stack := block.append tokens :: outer }

/-- A piece taken as it stands: a marker is text. -/
def plainToken : Piece → Token
  | .tag tag => .tag tag
  | piece => .literal piece.source

/-- Opens a block. -/
def openBlock (depth : Int) (kind : BlockKind) (condition source : Text) (assembly : Assembly) :
    Assembly × List Finding :=
  let plain : Bool := depth ≤ assembly.stack.length
  let inPlain := assembly.stack.head?.any (·.plain)
  let block : OpenBlock := ⟨kind, plain, [], some (Condition.parse condition), source, []⟩
  ({ assembly with stack := block :: assembly.stack },
    if plain && !inPlain then [.tooDeep depth source] else [])

/-- Starts a branch of the innermost block. In a block that has no alternatives the marker is text.
-/
def startBranch (condition : Option Condition) (source : Text) (assembly : Assembly) :
    Assembly × List Finding :=
  match assembly.stack with
  | [] => (assembly.append [.literal source], [.strayBranch source])
  | block :: outer =>
    if block.kind = .listIf || block.plain then (assembly.append [.literal source], [])
    else if block.condition.isNone then
      (assembly.append [.literal source], [.branchAfterElse source])
    else ({ assembly with stack := block.nextBranch condition source :: outer }, [])

/-- The findings for blocks that stay open, outermost first; `report` makes one from the opening
marker. -/
def unclosedFindings (report : Text → Finding) (inner : List OpenBlock) : List Finding :=
  (inner.reverse.filter fun block => !block.plain).map fun block => report block.opener

/-- Open blocks as text and tokens, outermost first. -/
def flattenAll (inner : List OpenBlock) : List Token := inner.reverse.flatMap OpenBlock.flatten

/-- Closes the innermost block of a kind. -/
def closeBlock (kind : BlockKind) (source : Text) (assembly : Assembly) : Assembly × List Finding :=
  match splitAtKind? kind assembly.stack with
  | none => (assembly.append [.literal source], [.unmatchedClose source])
  | some (inner, block, outer) =>
    let block := block.append (flattenAll inner)
    (append (block.close source) { assembly with stack := outer },
      unclosedFindings (.unclosedInside · source) inner)

/-- The effect of a piece. -/
def step (depth : Int) (assembly : Assembly) : Piece → Assembly × List Finding
  | .marker (.opener kind condition) source => assembly.openBlock depth kind condition source
  | .marker (.elseIf condition) source =>
    assembly.startBranch (some (Condition.parse condition)) source
  | .marker .otherwise source => assembly.startBranch none source
  | .marker (.closer kind) source => assembly.closeBlock kind source
  | piece => (assembly.append [plainToken piece], [])

/-- The tokens when no piece is left; the blocks that are still open stay text. -/
def finish (assembly : Assembly) : List Token × List Finding :=
  (Token.coalesce (assembly.base.reverse ++ flattenAll assembly.stack),
    unclosedFindings .unclosed assembly.stack)

/-- The effect of all pieces. The first marker beyond the budget is reported, and it and all later
ones are text; `limit` is the budget as it is reported. -/
def run (depth limit : Int) : Nat → Assembly → List Piece → List Token × List Finding
  | _, assembly, [] => assembly.finish
  | budget, assembly, piece :: pieces =>
    if piece.isMarker && budget = 0 then
      let (tokens, findings) := (assembly.append ((piece :: pieces).map plainToken)).finish
      (tokens, .stepLimit limit piece.source :: findings)
    else
      let (assembly, noticed) := assembly.step depth piece
      let budget := if piece.isMarker then budget - 1 else budget
      let (tokens, findings) := run depth limit budget assembly pieces
      (tokens, noticed ++ findings)

/-! ## Nothing is lost -/

/-- What is read so far, as it is written. -/
def source (assembly : Assembly) : Text :=
  Token.sources (assembly.base.reverse ++ flattenAll assembly.stack)

end Assembly

theorem Branch.sources_append (front back : List Branch) :
    Branch.sources (front ++ back) = Branch.sources front ++ Branch.sources back := by
  induction front with
  | nil => simp [Branch.sources]
  | cons branch branches ih => simp [Branch.sources, ih]

theorem OpenBlock.sources_flattenBranches (branches : List Branch) :
    Token.sources (branches.flatMap OpenBlock.flattenBranch) = Branch.sources branches := by
  induction branches with
  | nil => simp [Branch.sources]
  | cons branch branches ih =>
    obtain ⟨condition, marker, content⟩ := branch
    simp [Branch.sources, Branch.source, OpenBlock.flattenBranch, ih]

theorem OpenBlock.sources_flatten (block : OpenBlock) :
    Token.sources block.flatten = Branch.sources block.branches :=
  OpenBlock.sources_flattenBranches block.branches

theorem OpenBlock.sources_flatten_append (tokens : List Token) (block : OpenBlock) :
    Token.sources (block.append tokens).flatten =
      Token.sources block.flatten ++ Token.sources tokens := by
  simp [OpenBlock.sources_flatten, OpenBlock.branches, OpenBlock.append, Branch.sources_append,
    Branch.sources, Branch.source, Token.sources_coalesce]

theorem OpenBlock.sources_flatten_nextBranch (condition : Option Condition) (marker : Text)
    (block : OpenBlock) :
    Token.sources (block.nextBranch condition marker).flatten =
      Token.sources block.flatten ++ marker := by
  simp [OpenBlock.sources_flatten, OpenBlock.branches, OpenBlock.nextBranch, Branch.sources_append,
    Branch.sources, Branch.source, Token.coalesce]

theorem OpenBlock.sources_close (marker : Text) (block : OpenBlock) :
    Token.sources (block.close marker) = Token.sources block.flatten ++ marker := by
  unfold OpenBlock.close
  split
  · simp
  · simp [OpenBlock.sources_flatten, Token.source]

theorem splitAtKind?_eq_some {kind : BlockKind} {stack inner outer : List OpenBlock}
    {block : OpenBlock} (h : splitAtKind? kind stack = some (inner, block, outer)) :
    stack = inner ++ block :: outer := by
  induction stack generalizing inner with
  | nil => simp [splitAtKind?] at h
  | cons first rest ih =>
    simp only [splitAtKind?] at h
    split at h
    · simp only [Option.some.injEq, Prod.mk.injEq] at h
      obtain ⟨rfl, rfl, rfl⟩ := h
      rfl
    · obtain ⟨⟨i, b, o⟩, hs, he⟩ := Option.map_eq_some_iff.1 h
      simp only [Prod.mk.injEq] at he
      obtain ⟨rfl, rfl, rfl⟩ := he
      simp [ih hs]

namespace Assembly

theorem source_append (tokens : List Token) (assembly : Assembly) :
    (assembly.append tokens).source = assembly.source ++ Token.sources tokens := by
  obtain ⟨base, stack⟩ := assembly
  cases stack with
  | nil => simp [append, source, flattenAll]
  | cons block outer =>
    simp [append, source, flattenAll, OpenBlock.sources_flatten_append]

theorem source_step (depth : Int) (assembly : Assembly) (piece : Piece) :
    (assembly.step depth piece).1.source = assembly.source ++ piece.source := by
  have branch (condition : Option Condition) (source : Text) :
      (assembly.startBranch condition source).1.source = assembly.source ++ source := by
    obtain ⟨base, stack⟩ := assembly
    cases stack with
    | nil => simp [startBranch, source_append]
    | cons block outer =>
      simp only [startBranch]
      split
      · simp [source_append]
      · split
        · simp [source_append]
        · simp [Assembly.source, flattenAll, OpenBlock.sources_flatten_nextBranch]
  match piece with
  | .text source => simp [step, source_append, plainToken, Piece.source]
  | .tag mergeTag => simp [step, source_append, plainToken, Piece.source]
  | .marker (.opener kind condition) source =>
    simp [step, openBlock, Assembly.source, flattenAll, OpenBlock.flatten, OpenBlock.branches,
      OpenBlock.flattenBranch, Token.coalesce, Piece.source]
  | .marker (.elseIf condition) source => simpa [step, Piece.source] using branch _ source
  | .marker .otherwise source => simpa [step, Piece.source] using branch _ source
  | .marker (.closer kind) source =>
    simp only [step, closeBlock, Piece.source]
    split
    · simp [source_append]
    · rename_i inner block outer hs
      rw [source_append, OpenBlock.sources_close, OpenBlock.sources_flatten_append]
      simp [Assembly.source, splitAtKind?_eq_some hs, flattenAll]

theorem sources_finish (assembly : Assembly) :
    Token.sources assembly.finish.1 = assembly.source := by
  simp [finish, Token.sources_coalesce, source]

theorem sources_plainTokens (pieces : List Piece) :
    Token.sources (pieces.map plainToken) = Piece.sources pieces := by
  induction pieces with
  | nil => rfl
  | cons piece pieces ih =>
    cases piece <;> simp_all [Piece.sources, plainToken, Piece.source]

/-- Pairing keeps the text. -/
theorem sources_run (depth limit : Int) (budget : Nat) (assembly : Assembly) (pieces : List Piece) :
    Token.sources (run depth limit budget assembly pieces).1 =
      assembly.source ++ Piece.sources pieces := by
  induction pieces generalizing budget assembly with
  | nil => simp [run, sources_finish, Piece.sources]
  | cons piece pieces ih =>
    simp only [run]
    split
    · rw [sources_finish, source_append, sources_plainTokens]
    · rw [ih, source_step]
      simp [Piece.sources]

end Assembly

end FormLetter
