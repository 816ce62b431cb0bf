import FormLetter.Yaml.Lexer
import FormLetter.Yaml.Node
import FormLetter.Yaml.Scalar

/-!
# Reading YAML

A document of the safe tags becomes data. A key that comes twice keeps its place and takes the later
value. The entries of a merged mapping stand in front of the entries of the mapping itself, so that
these count. A list or a mapping is no key.

* `putEntry`: writes a value to a key.
* `Node.value`: the value of a node.
* `Yaml.read`: the value of a text.
-/

namespace FormLetter

namespace Yaml

/-! ## Keys -/

/-- A number as it counts in comparisons of keys. -/
def keyNumber? : Value → Option Extended
  | .bool b => some (.finite (if b then 1 else 0))
  | .int n => some (.finite n)
  | .float x => some (.ofBinary64 x)
  | _ => none

/-- Whether two keys are the same. Numbers are compared by their value, whatever their kind. -/
def isSameKey (a b : Value) : Bool :=
  match keyNumber? a, keyNumber? b with
  | some x, some y => x = y && x ≠ .undefined
  | none, none =>
    match a, b with
    | .null, .null => true
    | .text s, .text t => s = t
    | .bytes s, .bytes t => s = t
    | .date y m d, .date y' m' d' => y = y' && m = m' && d = d'
    | .moment fields offset, .moment fields' offset' => fields = fields' && offset = offset'
    | _, _ => false
  | _, _ => false

/-- Whether a value may be a key. -/
def isKey : Value → Bool
  | .list _ | .map _ | .set _ | .pairs _ => false
  | _ => true

/-- The entries with a value written to a key. -/
def putEntry (entries : List (Value × Value)) (key value : Value) : List (Value × Value) :=
  match entries with
  | [] => [(key, value)]
  | (k, v) :: rest =>
    if isSameKey k key then (k, value) :: rest else (k, v) :: putEntry rest key value

/-- The entries of a mapping from pairs; the keys must be such. -/
def entriesOf? (pairs : List (Value × Value)) : Option (List (Value × Value)) :=
  if pairs.all fun pair => isKey pair.1 then
    some (pairs.foldl (fun entries pair => putEntry entries pair.1 pair.2) [])
  else none

/-! ## Nodes -/

namespace Node

/-- A pair of values with the merged ones in front of it. -/
structure Gathered where
  /-- The entries of merged mappings. -/
  merged : List (Value × Value) := []
  /-- The entries of the mapping itself. -/
  own : List (Value × Value) := []

/-- All entries, the merged ones first. -/
def Gathered.all (gathered : Gathered) : List (Value × Value) := gathered.merged ++ gathered.own

/-- Whether a node is a key with a tag. -/
def isKeyOf (tag : Tag) : Node → Bool
  | scalar t _ => t = tag
  | list t _ => t = tag
  | map t _ => t = tag

/-- Builds the value of a mapping. -/
def mapOf (gathered : Gathered) : Except Fault (List (Value × Value)) :=
  match entriesOf? gathered.all with
  | some entries => .ok entries
  | none => .error .malformed

mutual

/-- The content of a scalar, or of the scalar that stands for a mapping. -/
def content? : Node → Option Text
  | scalar _ content => some content
  | list _ _ => none
  | map _ entries => contentIn? entries

/-- The content of the first entry that stands for its mapping. -/
def contentIn? : List (Node × Node) → Option Text
  | [] => none
  | (key, value) :: entries => if key.isKeyOf .valueKey then value.content? else contentIn? entries

end

mutual

/-- The value of a node. -/
def value : Node → Except Fault Value
  | scalar tag content => tag.read content
  | list tag items =>
    match tag with
    | .list => (values items).map .list
    | .orderedMap | .pairs => (single items).map .pairs
    | _ => .error .malformed
  | map tag entries =>
    match tag with
    | .map => do .ok (.map (← mapOf (← gather entries)))
    | .set => do .ok (.set ((← mapOf (← gather entries)).map (·.1)))
    | .list | .orderedMap | .pairs => .error .malformed
    | _ =>
      match contentIn? entries with
      | some content => tag.read content
      | none => .error .malformed

/-- The values of several nodes. -/
def values : List Node → Except Fault (List Value)
  | [] => .ok []
  | node :: nodes => do
    let first ← node.value
    .ok (first :: (← values nodes))

/-- The pairs of several mappings of one entry each. -/
def single : List Node → Except Fault (List (Value × Value))
  | [] => .ok []
  | map _ [(key, item)] :: nodes => do
    let key ← key.value
    let item ← item.value
    .ok ((key, item) :: (← single nodes))
  | _ => .error .malformed

/-- The entries of a mapping, with those that are merged into it. -/
def gather : List (Node × Node) → Except Fault Gathered
  | [] => .ok {}
  | (key, item) :: entries =>
    if key.isKeyOf .mergeKey then do
      let merged ← item.mergedEntries
      let gathered ← gather entries
      .ok { gathered with merged := merged ++ gathered.merged }
    else do
      let key ← key.keyValue
      let item ← item.value
      let gathered ← gather entries
      .ok { gathered with own := (key, item) :: gathered.own }

/-- The value of a node that is a key; the mark of the entry that stands for its mapping is a text
there. -/
def keyValue : Node → Except Fault Value
  | scalar .valueKey content => .ok (.text content)
  | scalar tag content => tag.read content
  | list .list items => (values items).map .list
  | list _ _ => .error .malformed
  | map _ _ => .error .malformed

/-- The entries that a node merges into a mapping: its own, or those of its items, the last one
first. -/
def mergedEntries : Node → Except Fault (List (Value × Value))
  | scalar _ _ => .error .malformed
  | map _ entries => (gather entries).map Gathered.all
  | list _ items => mergedItems items

/-- The entries of several mappings, the last one first. -/
def mergedItems : List Node → Except Fault (List (Value × Value))
  | [] => .ok []
  | map _ entries :: nodes => do
    let first ← (gather entries).map Gathered.all
    .ok ((← mergedItems nodes) ++ first)
  | _ => .error .malformed

end

end Node

/-! ## Texts -/

/-- The value of a text. An empty document has no value. -/
def read (text : Text) : Except Fault Value :=
  match Token.ofText text with
  | .error fault => .error fault
  | .ok tokens =>
    match Node.ofTokens? tokens with
    | none => .error .malformed
    | some none => .ok .null
    | some (some node) => node.value

end Yaml

end FormLetter
