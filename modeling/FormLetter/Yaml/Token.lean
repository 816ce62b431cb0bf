import FormLetter.Text.Basic

/-!
# Tokens of YAML

* `Directive`: an instruction to the reader in front of a document.
* `TagName`: a tag as it is written.
* `Yaml.Token`: the tokens, with those that indentation stands for.
-/

namespace FormLetter

namespace Yaml

/-- An instruction to the reader. -/
inductive Directive where
  /-- The version of YAML. -/
  | version (major : Nat)
  /-- What a handle of tags stands for. -/
  | handle (name : Text) (meaning : Text)
  /-- An instruction that is passed over. -/
  | other
  deriving Repr, DecidableEq

/-- A tag as it is written: with a handle in front, or in full. -/
structure TagName where
  /-- The handle, if there is one. -/
  handle : Option Text
  /-- What follows it. -/
  suffix : Text
  deriving Repr, DecidableEq

/-- A token. -/
inductive Token where
  /-- An instruction to the reader. -/
  | directive (directive : Directive)
  /-- `---` -/
  | documentStart
  /-- `...` -/
  | documentEnd
  /-- A list starts by its indentation. -/
  | blockList
  /-- A mapping starts by its indentation. -/
  | blockMap
  /-- A list or a mapping ends by its indentation. -/
  | blockEnd
  /-- `[` -/
  | openList
  /-- `]` -/
  | closeList
  /-- `{` -/
  | openMap
  /-- `}` -/
  | closeMap
  /-- `-` in front of an item. -/
  | item
  /-- `,` -/
  | comma
  /-- `?`, or the place in front of a key without that mark. -/
  | key
  /-- `:` -/
  | colon
  /-- A repetition of a node. -/
  | alias (name : Text)
  /-- A name for a node. -/
  | anchor (name : Text)
  /-- A tag. -/
  | tag (name : TagName)
  /-- A scalar, and whether it is plain. -/
  | scalar (content : Text) (plain : Bool)
  deriving Repr, DecidableEq

end Yaml

end FormLetter
