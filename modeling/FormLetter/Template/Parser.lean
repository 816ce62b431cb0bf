import FormLetter.Template.Block

/-!
# Reading templates

A template is read by cutting its text into pieces and pairing the block markers among them.

* `Limits`: how deep blocks may be nested and how many markers are paired.
* `Template.parse`: the tokens of a text with everything that was noticed.
* `Template.isRefused`: a nesting limit below one admits no block at all.

Main statement: `isRefused_of_one_le`.
-/

namespace FormLetter

/-- The limits of reading. -/
structure Limits where
  /-- The deepest nesting of blocks. -/
  depth : Int := 64
  /-- The number of block markers that are paired; without one, more than any text can hold. -/
  markers : Option Int := none
  deriving Repr, DecidableEq

/-- A template that was read. -/
structure Template where
  /-- The tokens. -/
  tokens : List Token
  /-- What was noticed, in order. -/
  findings : List Finding

namespace Template

/-- The number of markers that are paired in a text. -/
def budget (limits : Limits) (text : Text) : Int :=
  limits.markers.getD (text.length + 1)

/-- The tokens of a text. -/
def parse (limits : Limits) (text : Text) : Template :=
  let lexed := lex text
  let limit := budget limits text
  let (tokens, findings) := Assembly.run limits.depth limit limit.toNat .start lexed.pieces
  ⟨tokens, lexed.findings ++ findings⟩

/-- Whether a text opens a block, within the budget of markers, where the nesting limit admits none.
Such a text is refused rather than read. -/
def isRefused (limits : Limits) (text : Text) : Bool :=
  limits.depth < 1 &&
    (((lex text).pieces.filter Piece.isMarker).take (budget limits text).toNat).any Piece.isOpener

theorem isRefused_of_one_le {limits : Limits} (h : 1 ≤ limits.depth) (text : Text) :
    isRefused limits text = false := by
  have : ¬ limits.depth < 1 := by omega
  simp [isRefused, this]

end Template

end FormLetter
