import FormLetter.Yaml.Tag
import FormLetter.Yaml.Token

/-!
# The nodes of a YAML document

A document is a tree of scalars, lists and mappings, each with a tag. An anchor names a node, and an
alias stands for the node of its name. A node that is left out is an empty plain scalar.

* `Node`: the nodes.
* `Scope`: the handles of tags and the named nodes.
* `Node.parse`: the node in front of some tokens.
* `Node.ofTokens?`: the node of a stream with at most one document.

A node inside of which its own alias stands has no finite tree; there the alias stands for an empty
mapping.
-/

namespace FormLetter

namespace Yaml

/-- A node of a document. -/
inductive Node where
  /-- A scalar. -/
  | scalar (tag : Tag) (content : Text)
  /-- A list. -/
  | list (tag : Tag) (items : List Node)
  /-- A mapping. -/
  | map (tag : Tag) (entries : List (Node × Node))
  deriving Repr

namespace Node

/-- The node of what is left out. -/
def absent : Node := scalar .null []

/-! ## Scopes -/

/-- What names stand for at some place of a document. -/
structure Scope where
  /-- The handles of tags with what they stand for. -/
  handles : List (Text × Text)
  /-- The named nodes; a node that is not complete yet has no tree. -/
  anchors : List (Text × Option Node) := []

/-- The handles that every document has. -/
def standardHandles : List (Text × Text) :=
  [(['!'], ['!']), (['!', '!'], Tag.base.toList)]

/-- Reserves a name, which must be new. -/
def Scope.reserve? (name : Option Text) (scope : Scope) : Option Scope :=
  match name with
  | none => some scope
  | some name =>
    match scope.anchors.lookup name with
    | some _ => none
    | none => some { scope with anchors := (name, none) :: scope.anchors }

/-- Gives a reserved name its node. -/
def Scope.define (name : Option Text) (node : Node) (scope : Scope) : Scope :=
  match name with
  | none => scope
  | some name => { scope with anchors := (name, some node) :: scope.anchors }

/-- The node of an alias. -/
def Scope.node? (name : Text) (scope : Scope) : Option Node :=
  match scope.anchors.lookup name with
  | some (some node) => some node
  | some none => some (map .map [])
  | none => none

/-- The full name of a tag. -/
def Scope.tagName? (tag : TagName) (scope : Scope) : Option Text :=
  match tag.handle with
  | none => some tag.suffix
  | some handle => (scope.handles.lookup handle).map (· ++ tag.suffix)

/-! ## Properties -/

/-- The name and the tag in front of a node. -/
structure Properties where
  /-- The name. -/
  anchor : Option Text := none
  /-- The full name of the tag. -/
  tag : Option Text := none

/-- Whether there is neither a name nor a tag. -/
def Properties.isEmpty (properties : Properties) : Bool :=
  properties.anchor.isNone && properties.tag.isNone

/-- Whether the tag is left to the shape of the node. -/
def Properties.isOpen (properties : Properties) : Bool :=
  properties.tag.all (· = ['!'])

/-- The tag of a list or a mapping. -/
def Properties.tagOr (kind : Tag) (properties : Properties) : Tag :=
  if properties.isOpen then kind else (properties.tag.map Tag.ofName).getD kind

/-- The tag of a scalar. -/
def Properties.scalarTag (plain : Bool) (content : Text) (properties : Properties) : Tag :=
  match properties.tag with
  | none => if plain then .ofPlain content else .text
  | some tag => if tag = ['!'] then .ofPlain content else .ofName tag

/-- The name and the tag in front of some tokens, in either order, and what follows them. -/
def takeProperties? (scope : Scope) (tokens : List Token) : Option (Properties × List Token) :=
  match tokens with
  | .anchor name :: .tag tag :: rest | .tag tag :: .anchor name :: rest => do
    let tag ← scope.tagName? tag
    some ({ anchor := some name, tag := some tag }, rest)
  | .anchor name :: rest => some ({ anchor := some name }, rest)
  | .tag tag :: rest => do
    let tag ← scope.tagName? tag
    some ({ tag := some tag }, rest)
  | _ => some ({}, tokens)

/-! ## Parsing -/

/-- Where a node stands. -/
inductive Position where
  /-- Inside brackets. -/
  | flow
  /-- Outside of brackets. -/
  | block
  /-- Outside of brackets in a mapping, where the items of a list need not be indented. -/
  | entry
  deriving Repr, DecidableEq

/-- Whether a token follows that ends a place where a node may be left out. -/
def endsAt (ends : Token → Bool) (tokens : List Token) : Bool := tokens.head?.all ends

/-- The tokens that end an item outside of brackets. -/
def endsItem : Token → Bool
  | .item | .blockEnd => true
  | _ => false

/-- The tokens that end an item that is not indented. -/
def endsOpenItem : Token → Bool
  | .item | .key | .colon | .blockEnd => true
  | _ => false

/-- The tokens that end a key or a value outside of brackets. -/
def endsEntry : Token → Bool
  | .key | .colon | .blockEnd => true
  | _ => false

/-- The tokens that end a key between square brackets. -/
def endsListKey : Token → Bool
  | .colon | .comma | .closeList => true
  | _ => false

/-- The tokens that end a value between square brackets. -/
def endsListValue : Token → Bool
  | .comma | .closeList => true
  | _ => false

/-- The tokens that end a key between braces. -/
def endsMapKey : Token → Bool
  | .colon | .comma | .closeMap => true
  | _ => false

/-- The tokens that end a value between braces. -/
def endsMapValue : Token → Bool
  | .comma | .closeMap => true
  | _ => false

mutual

/-- The node in front of some tokens. The number bounds the depth of the recursion. -/
def parse : Nat → Position → List Token → Scope → Option (Node × List Token × Scope)
  | 0, _, _, _ => none
  | depth + 1, position, tokens, scope =>
    match tokens with
    | .alias name :: rest => (scope.node? name).map fun node => (node, rest, scope)
    | _ => do
      let (properties, tokens) ← takeProperties? scope tokens
      let scope ← scope.reserve? properties.anchor
      let (node, rest, scope) ← parseContent depth position properties tokens scope
      some (node, rest, scope.define properties.anchor node)

/-- The content of a node behind its name and its tag. -/
def parseContent :
    Nat → Position → Properties → List Token → Scope → Option (Node × List Token × Scope)
  | 0, _, _, _, _ => none
  | depth + 1, position, properties, tokens, scope =>
    let listOf (items : List Node) : Node := .list (properties.tagOr .list) items
    let mapOf (entries : List (Node × Node)) : Node := .map (properties.tagOr .map) entries
    let isBlock := position ≠ .flow
    match tokens with
    | .scalar content plain :: rest =>
      some (.scalar (properties.scalarTag plain content) content, rest, scope)
    | .openList :: rest => do
      let (items, rest, scope) ← parseFlowList depth true rest scope
      some (listOf items, rest, scope)
    | .openMap :: rest => do
      let (entries, rest, scope) ← parseFlowMap depth true rest scope
      some (mapOf entries, rest, scope)
    | token :: rest =>
      if token = .item && position = .entry then do
        let (items, rest, scope) ← parseOpenItems depth (token :: rest) scope
        some (listOf items, rest, scope)
      else if token = .blockList && isBlock then do
        let (items, rest, scope) ← parseItems depth rest scope
        some (listOf items, rest, scope)
      else if token = .blockMap && isBlock then do
        let (entries, rest, scope) ← parseEntries depth rest scope
        some (mapOf entries, rest, scope)
      else leftOut properties tokens scope
    | [] => leftOut properties tokens scope

/-- A node without content, which must have a name or a tag. -/
def leftOut (properties : Properties) (tokens : List Token) (scope : Scope) :
    Option (Node × List Token × Scope) :=
  if properties.isEmpty then none
  else some (.scalar (properties.scalarTag true []) [], tokens, scope)

/-- A node, or an absent one where tokens end the place for it. -/
def parseOr :
    Nat → Position → (Token → Bool) → List Token → Scope → Option (Node × List Token × Scope)
  | 0, _, _, _, _ => none
  | depth + 1, position, ends, tokens, scope =>
    if endsAt ends tokens then some (absent, tokens, scope) else parse depth position tokens scope

/-- The items of an indented list. -/
def parseItems : Nat → List Token → Scope → Option (List Node × List Token × Scope)
  | 0, _, _ => none
  | depth + 1, tokens, scope =>
    match tokens with
    | .item :: rest => do
      let (item, rest, scope) ← parseOr depth .block endsItem rest scope
      let (items, rest, scope) ← parseItems depth rest scope
      some (item :: items, rest, scope)
    | .blockEnd :: rest => some ([], rest, scope)
    | _ => none

/-- The items of a list that is not indented. -/
def parseOpenItems : Nat → List Token → Scope → Option (List Node × List Token × Scope)
  | 0, _, _ => none
  | depth + 1, tokens, scope =>
    match tokens with
    | .item :: rest => do
      let (item, rest, scope) ← parseOr depth .block endsOpenItem rest scope
      let (items, rest, scope) ← parseOpenItems depth rest scope
      some (item :: items, rest, scope)
    | _ => some ([], tokens, scope)

/-- The value behind a colon, or an absent one. -/
def parseValue :
    Nat → Position → (Token → Bool) → List Token → Scope → Option (Node × List Token × Scope)
  | 0, _, _, _, _ => none
  | depth + 1, position, ends, tokens, scope =>
    match tokens with
    | .colon :: rest => parseOr depth position ends rest scope
    | _ => some (absent, tokens, scope)

/-- The entries of an indented mapping. -/
def parseEntries : Nat → List Token → Scope → Option (List (Node × Node) × List Token × Scope)
  | 0, _, _ => none
  | depth + 1, tokens, scope =>
    match tokens with
    | .key :: rest => do
      let (key, rest, scope) ← parseOr depth .entry endsEntry rest scope
      let (value, rest, scope) ← parseValue depth .entry endsEntry rest scope
      let (entries, rest, scope) ← parseEntries depth rest scope
      some ((key, value) :: entries, rest, scope)
    | .blockEnd :: rest => some ([], rest, scope)
    | _ => none

/-- The items between square brackets; an item may be a mapping of one entry. -/
def parseFlowList : Nat → Bool → List Token → Scope → Option (List Node × List Token × Scope)
  | 0, _, _, _ => none
  | depth + 1, isFirst, tokens, scope =>
    match tokens with
    | .closeList :: rest => some ([], rest, scope)
    | _ => do
      let tokens ← afterComma? isFirst tokens
      match tokens with
      | .closeList :: rest => some ([], rest, scope)
      | .key :: rest => do
        let (key, rest, scope) ← parseOr depth .flow endsListKey rest scope
        let (value, rest, scope) ← parseValue depth .flow endsListValue rest scope
        let (items, rest, scope) ← parseFlowList depth false rest scope
        some (.map .map [(key, value)] :: items, rest, scope)
      | _ => do
        let (item, rest, scope) ← parse depth .flow tokens scope
        let (items, rest, scope) ← parseFlowList depth false rest scope
        some (item :: items, rest, scope)

/-- The entries between braces; a key without a colon has no value. -/
def parseFlowMap :
    Nat → Bool → List Token → Scope → Option (List (Node × Node) × List Token × Scope)
  | 0, _, _, _ => none
  | depth + 1, isFirst, tokens, scope =>
    match tokens with
    | .closeMap :: rest => some ([], rest, scope)
    | _ => do
      let tokens ← afterComma? isFirst tokens
      match tokens with
      | .closeMap :: rest => some ([], rest, scope)
      | .key :: rest => do
        let (key, rest, scope) ← parseOr depth .flow endsMapKey rest scope
        let (value, rest, scope) ← parseValue depth .flow endsMapValue rest scope
        let (entries, rest, scope) ← parseFlowMap depth false rest scope
        some ((key, value) :: entries, rest, scope)
      | _ => do
        let (key, rest, scope) ← parse depth .flow tokens scope
        let (entries, rest, scope) ← parseFlowMap depth false rest scope
        some ((key, absent) :: entries, rest, scope)

/-- What follows the comma in front of an item; the first item has none. -/
def afterComma? (isFirst : Bool) (tokens : List Token) : Option (List Token) :=
  if isFirst then some tokens
  else
    match tokens with
    | .comma :: rest => some rest
    | _ => none

end

/-! ## Documents -/

/-- The directives in front of a document: whether there was a version, the handles, and what
follows. -/
def takeDirectives? (versioned : Bool) (handles : List (Text × Text)) :
    List Token → Option (List (Text × Text) × List Token)
  | .directive (.version major) :: rest =>
    if versioned || major ≠ 1 then none else takeDirectives? true handles rest
  | .directive (.handle name meaning) :: rest =>
    match handles.lookup name with
    | some _ => none
    | none => takeDirectives? versioned ((name, meaning) :: handles) rest
  | .directive .other :: rest => takeDirectives? versioned handles rest
  | tokens => some (handles ++ standardHandles, tokens)

/-- Whether a token ends a document that starts with a marker and has no node. -/
def endsDocument : Token → Bool
  | .directive _ | .documentStart | .documentEnd => true
  | _ => false

/-- The node of a document in front of some tokens, and what follows it. -/
def takeDocument? (tokens : List Token) : Option (Node × List Token) := do
  let depth := 4 * tokens.length + 4
  match tokens with
  | .directive _ :: _ | .documentStart :: _ =>
    let (handles, rest) ← takeDirectives? false [] tokens
    match rest with
    | .documentStart :: rest =>
      let (node, rest, _) ← parseOr depth .block endsDocument rest { handles }
      some (node, rest)
    | _ => none
  | _ =>
    let (node, rest, _) ← parse depth .block tokens { handles := standardHandles }
    some (node, rest)

/-- The node of a stream: none if the stream is empty, and a failure if there is more than one
document. -/
def ofTokens? (tokens : List Token) : Option (Option Node) :=
  if tokens.isEmpty then some none
  else do
    let (node, rest) ← takeDocument? tokens
    if rest.all (· = .documentEnd) then some (some node) else none

end Node

end Yaml

end FormLetter
