import FormLetter.Condition.Basic
import FormLetter.Modifier.Basic

/-!
# Tokens of a template

A template is a list of tokens: text that is copied, merge tags that are replaced by values, and
blocks of which one branch is kept. Every token knows its source, so the sources of the tokens of a
template make up its text.

* `MergeTag`, `Token`, `Branch`: the tokens.
* `Token.source`, `Token.sources`: the text of a token and of a list of tokens.
* `Token.walk`: the tokens of a list and of all branches inside it.
* `Token.coalesce`: neighbouring literals made one.

Main statements: `sources_append` and `sources_coalesce` (coalescing keeps the text).
-/

namespace FormLetter

/-- The two kinds of blocks. -/
inductive BlockKind where
  /-- A block with any number of alternatives. -/
  | ifBlock
  /-- A block that is kept or left out. -/
  | listIf
  deriving Repr, DecidableEq

/-- The word that opens a block of a kind and, after a slash, closes it. -/
def BlockKind.word : BlockKind → String
  | .ifBlock => "if"
  | .listIf => "listif"

/-- The marker that closes a block of a kind. -/
def BlockKind.closeMarker (kind : BlockKind) : String := "\x7b/" ++ kind.word ++ "\x7d"

/-- A tag that stands for the value of an identifier. -/
structure MergeTag where
  /-- The identifier. -/
  identifier : Text
  /-- The modifiers of the value, in order. -/
  modifiers : List Modifier
  /-- The tag as it is written. -/
  source : Text
  deriving Repr, DecidableEq

mutual

/-- A piece of a template. -/
inductive Token where
  /-- Text that is copied. -/
  | literal (source : Text)
  /-- A tag that is replaced by a value. -/
  | tag (tag : MergeTag)
  /-- A block of which at most one branch is kept, with its closing marker. -/
  | block (kind : BlockKind) (branches : List Branch) (close : Text)

/-- A branch of a block. -/
inductive Branch where
  /-- A branch with its condition, which is absent for `else`, the marker in front of it and its
  content. -/
  | mk (condition : Option Condition) (marker : Text) (content : List Token)

end

/-- The condition of a branch; `else` has none. -/
def Branch.condition : Branch → Option Condition
  | .mk condition _ _ => condition

/-- The marker in front of a branch. -/
def Branch.marker : Branch → Text
  | .mk _ marker _ => marker

/-- The tokens of a branch. -/
def Branch.content : Branch → List Token
  | .mk _ _ content => content

/-! ## Sources -/

mutual

/-- A token as it is written. -/
def Token.source : Token → Text
  | .literal source => source
  | .tag tag => tag.source
  | .block _ branches close => Branch.sources branches ++ close

/-- A branch as it is written. -/
def Branch.source : Branch → Text
  | .mk _ marker content => marker ++ Token.sources content

/-- Tokens as they are written. -/
def Token.sources : List Token → Text
  | [] => []
  | token :: tokens => token.source ++ Token.sources tokens

/-- Branches as they are written. -/
def Branch.sources : List Branch → Text
  | [] => []
  | branch :: branches => branch.source ++ Branch.sources branches

end

@[simp] theorem Token.sources_nil : Token.sources [] = [] := by simp [Token.sources]

@[simp] theorem Token.sources_cons (token : Token) (tokens : List Token) :
    Token.sources (token :: tokens) = token.source ++ Token.sources tokens := by
  simp [Token.sources]

@[simp] theorem Token.sources_append (front back : List Token) :
    Token.sources (front ++ back) = Token.sources front ++ Token.sources back := by
  induction front with
  | nil => simp
  | cons token tokens ih => simp [ih]

@[simp] theorem Token.source_literal (source : Text) : (Token.literal source).source = source := by
  simp [Token.source]

@[simp] theorem Token.source_tag (tag : MergeTag) : (Token.tag tag).source = tag.source := by
  simp [Token.source]

/-! ## Walk -/

mutual

/-- A token and, for a block, the tokens of its branches, at any depth. -/
def Token.walkOne : Token → List Token
  | .block kind branches close => .block kind branches close :: Branch.walk branches
  | token => [token]

/-- The tokens of a list and of all branches inside it, each token in front of its content. -/
def Token.walk : List Token → List Token
  | [] => []
  | token :: tokens => token.walkOne ++ Token.walk tokens

/-- The tokens of the content of a branch. -/
def Branch.walkOne : Branch → List Token
  | .mk _ _ content => Token.walk content

/-- The tokens of the branches one after the other. -/
def Branch.walk : List Branch → List Token
  | [] => []
  | branch :: branches => branch.walkOne ++ Branch.walk branches

end

/-! ## Literals -/

/-- A literal in front of tokens: it is merged with a literal that follows, and an empty one is
dropped. -/
def Token.consLiteral (source : Text) (tokens : List Token) : List Token :=
  match source, tokens with
  | [], _ => tokens
  | _, .literal next :: rest => .literal (source ++ next) :: rest
  | _, _ => .literal source :: tokens

/-- The tokens with neighbouring literals made one and empty literals dropped. -/
def Token.coalesce : List Token → List Token
  | [] => []
  | .literal source :: tokens => Token.consLiteral source (Token.coalesce tokens)
  | token :: tokens => token :: Token.coalesce tokens

theorem Token.sources_consLiteral (source : Text) (tokens : List Token) :
    Token.sources (Token.consLiteral source tokens) = source ++ Token.sources tokens := by
  unfold Token.consLiteral
  split <;> simp

/-- Coalescing keeps the text. -/
theorem Token.sources_coalesce (tokens : List Token) :
    Token.sources (Token.coalesce tokens) = Token.sources tokens := by
  fun_induction Token.coalesce tokens with
  | case1 => rfl
  | case2 source tokens ih => simp [Token.sources_consLiteral, ih]
  | case3 token tokens _ ih => simp [ih]

end FormLetter
