import FormLetter.Json.Token

/-!
# Reading JSON

The tokens of a text are put together on a stack of open lists and mappings. A key that comes twice
in a mapping keeps its place and takes the later value.

* `Json.Frame`, `Json.State`: the stack and what may come next.
* `Json.read?`: the value of a text.
-/

namespace FormLetter

namespace Json

/-- A list or a mapping that is open. -/
inductive Frame where
  /-- A list with its items, last first. -/
  | list (items : List Value)
  /-- A mapping with its entries and the key whose value is being read. -/
  | map (entries : OrderedMap Value) (key : Text)

/-- What may come next. -/
inductive Next where
  /-- A value. -/
  | value
  /-- A value or the end of the list. -/
  | valueOrEnd
  /-- A key or the end of the mapping. -/
  | keyOrEnd
  /-- A key. -/
  | key
  /-- A colon. -/
  | colon
  /-- A comma or the end of what is open. -/
  | separator
  /-- Nothing: the value is complete. -/
  | nothing (value : Value)

/-- What is open, innermost first, and what may come next. -/
structure State where
  /-- The open lists and mappings, innermost first. -/
  stack : List Frame
  /-- What may come next. -/
  next : Next

/-- The state after a complete value. -/
def State.give (value : Value) : List Frame → State
  | [] => ⟨[], .nothing value⟩
  | .list items :: outer => ⟨.list (value :: items) :: outer, .separator⟩
  | .map entries key :: outer => ⟨.map (entries.insert key value) key :: outer, .separator⟩

/-- The value of a frame that is closed. -/
def Frame.close : Frame → Value
  | .list items => .list items.reverse
  | .map entries _ => .ofEntries entries.entries

/-- The state after a token. -/
def State.step (state : State) (token : Token) : Option State :=
  match state.next, token, state.stack with
  | .value, .scalar value, stack | .valueOrEnd, .scalar value, stack => some (.give value stack)
  | .value, .openList, stack | .valueOrEnd, .openList, stack =>
    some ⟨.list [] :: stack, .valueOrEnd⟩
  | .value, .openMap, stack | .valueOrEnd, .openMap, stack =>
    some ⟨.map .empty [] :: stack, .keyOrEnd⟩
  | .valueOrEnd, .closeList, frame :: outer => some (.give frame.close outer)
  | .keyOrEnd, .closeMap, frame :: outer => some (.give frame.close outer)
  | .keyOrEnd, .scalar (.text key), .map entries _ :: outer
  | .key, .scalar (.text key), .map entries _ :: outer => some ⟨.map entries key :: outer, .colon⟩
  | .colon, .colon, stack => some ⟨stack, .value⟩
  | .separator, .comma, .list items :: outer => some ⟨.list items :: outer, .value⟩
  | .separator, .comma, .map entries key :: outer => some ⟨.map entries key :: outer, .key⟩
  | .separator, .closeList, .list items :: outer => some (.give (Frame.list items).close outer)
  | .separator, .closeMap, .map entries key :: outer =>
    some (.give (Frame.map entries key).close outer)
  | _, _, _ => none

/-- The value of a text, if it is well-formed JSON. -/
def read? (text : Text) : Option Value := do
  let tokens ← tokens? text
  let state ← tokens.foldlM State.step ⟨[], .value⟩
  match state.next with
  | .nothing value => some value
  | _ => none

end Json

end FormLetter
