import FormLetter.Yaml.Block
import FormLetter.Yaml.Name
import FormLetter.Yaml.Plain

/-!
# The tokens of a YAML stream

Outside of brackets the columns of a stream stand for tokens of their own: a deeper column starts a
list or a mapping, a smaller one ends those that are open. A key need not be marked. Where one may
stand, its place is kept; when a colon follows in the same line and within 1024 characters, the
token of the key is put there.

* `SimpleKey`: the place where an unmarked key may have started.
* `Lexer`: the state between two tokens.
* `Lexer.fetchAt`: reads one token.
* `Token.ofText`: the tokens of a text.
-/

namespace FormLetter

namespace Yaml

/-- The place where an unmarked key may have started. -/
structure SimpleKey where
  /-- The number of tokens before it. -/
  number : Nat
  /-- Whether a key must stand there. -/
  required : Bool
  /-- The number of characters before it. -/
  index : Nat
  /-- Its line. -/
  line : Nat
  /-- Its column. -/
  column : Nat
  deriving Repr

/-- The state between two tokens. -/
structure Lexer where
  /-- The text that is left. -/
  cursor : Cursor
  /-- The tokens so far. -/
  tokens : Array Token := #[]
  /-- The column of the innermost list or mapping that indentation opened. -/
  indent : Int := -1
  /-- The columns around it, innermost first. -/
  outer : List Int := []
  /-- Whether an unmarked key may start here. -/
  keyAllowed : Bool := true
  /-- Where an unmarked key may have started. -/
  simpleKey : Option SimpleKey := none
  /-- The same for each bracket that is open, innermost first, in front of it. -/
  outerKeys : List (Option SimpleKey) := []
  deriving Repr

namespace Lexer

/-- Whether a bracket is open. -/
def inFlow (lexer : Lexer) : Bool := !lexer.outerKeys.isEmpty

/-- Adds a token. -/
def add (token : Token) (lexer : Lexer) : Lexer := { lexer with tokens := lexer.tokens.push token }

/-- Moves on to a text that ends the text left. -/
def moveTo (rest : Text) (lexer : Lexer) : Lexer :=
  { lexer with cursor := lexer.cursor.moveTo rest }

/-- Adds a token of some characters. -/
def addSkip (token : Token) (width : Nat) (lexer : Lexer) : Lexer :=
  { lexer.add token with cursor := lexer.cursor.skip width }

/-! ## Indentation -/

/-- Ends what stands deeper than a column. -/
def unwindFrom (column indent : Int) (tokens : Array Token) :
    List Int → Array Token × Int × List Int
  | [] => (tokens, indent, [])
  | outer :: others =>
    if column < indent then unwindFrom column outer (tokens.push .blockEnd) others
    else (tokens, indent, outer :: others)

/-- Ends what stands deeper than a column; inside brackets columns mean nothing. -/
def unwind (column : Int) (lexer : Lexer) : Lexer :=
  if lexer.inFlow then lexer
  else
    let (tokens, indent, outer) := unwindFrom column lexer.indent lexer.tokens lexer.outer
    { lexer with tokens, indent, outer }

/-- Makes a column the innermost one, if it is deeper, and tells whether it is. -/
def deepen (column : Int) (lexer : Lexer) : Bool × Lexer :=
  if lexer.indent < column then
    (true, { lexer with indent := column, outer := lexer.indent :: lexer.outer })
  else (false, lexer)

/-- Makes the present column the innermost one, with the token of what starts there. -/
def enter (token : Token) (lexer : Lexer) : Lexer :=
  match lexer.deepen lexer.cursor.column with
  | (true, lexer) => lexer.add token
  | (false, lexer) => lexer

/-! ## Unmarked keys -/

/-- Whether a key is too far away: in another line, or more than 1024 characters back. -/
def SimpleKey.isStale (cursor : Cursor) (key : SimpleKey) : Bool :=
  key.line ≠ cursor.line || key.index + 1024 < cursor.index

/-- A place for a key, unless it is too far away. A key that must stand there is missing then. -/
def freshKey? (cursor : Cursor) : Option SimpleKey → Option (Option SimpleKey)
  | none => some none
  | some key =>
    if SimpleKey.isStale cursor key then if key.required then none else some none
    else some (some key)

/-- Gives up the places that are too far away. -/
def dropStale? (lexer : Lexer) : Option Lexer := do
  let simpleKey ← freshKey? lexer.cursor lexer.simpleKey
  let outerKeys ← lexer.outerKeys.mapM (freshKey? lexer.cursor)
  some { lexer with simpleKey, outerKeys }

/-- Gives up the place for a key. A key that must stand there is missing then. -/
def dropKey? (lexer : Lexer) : Option Lexer :=
  if lexer.simpleKey.any SimpleKey.required then none else some { lexer with simpleKey := none }

/-- Keeps the present place for a key, if one may start here. -/
def saveKey? (lexer : Lexer) : Option Lexer :=
  if !lexer.keyAllowed then some lexer
  else do
    let lexer ← lexer.dropKey?
    let cursor := lexer.cursor
    some
      { lexer with
        simpleKey := some
          { number := lexer.tokens.size
            required := !lexer.inFlow && lexer.indent = cursor.column
            index := cursor.index
            line := cursor.line
            column := cursor.column } }

/-! ## Tokens -/

/-- Reads a directive. -/
def fetchDirective? (lexer : Lexer) : Option Lexer := do
  let lexer ← (lexer.unwind (-1)).dropKey?
  let (directive, rest) ← takeDirective? (lexer.cursor.rest.drop 1)
  let rest ← afterComment? rest
  some ({ lexer with keyAllowed := false }.add (.directive directive) |>.moveTo rest)

/-- Reads the marker of a document's start or end. -/
def fetchMarker? (token : Token) (lexer : Lexer) : Option Lexer := do
  let lexer ← (lexer.unwind (-1)).dropKey?
  some ({ lexer with keyAllowed := false }.addSkip token 3)

/-- Reads an opening bracket. -/
def fetchOpening? (token : Token) (lexer : Lexer) : Option Lexer := do
  let lexer ← lexer.saveKey?
  let lexer :=
    { lexer with
      outerKeys := lexer.simpleKey :: lexer.outerKeys, simpleKey := none, keyAllowed := true }
  some (lexer.addSkip token 1)

/-- Reads a closing bracket. -/
def fetchClosing? (token : Token) (lexer : Lexer) : Option Lexer := do
  let lexer ← lexer.dropKey?
  match lexer.outerKeys with
  | [] => none
  | simpleKey :: outerKeys =>
    some ({ lexer with simpleKey, outerKeys, keyAllowed := false }.addSkip token 1)

/-- Reads a comma. -/
def fetchComma? (lexer : Lexer) : Option Lexer := do
  let lexer ← lexer.dropKey?
  some ({ lexer with keyAllowed := true }.addSkip .comma 1)

/-- Reads the mark of an item. -/
def fetchItem? (lexer : Lexer) : Option Lexer := do
  if !lexer.inFlow && !lexer.keyAllowed then none
  else
    let lexer := if lexer.inFlow then lexer else lexer.enter .blockList
    let lexer ← lexer.dropKey?
    some ({ lexer with keyAllowed := true }.addSkip .item 1)

/-- Reads the mark of a key. -/
def fetchKey? (lexer : Lexer) : Option Lexer := do
  if !lexer.inFlow && !lexer.keyAllowed then none
  else
    let lexer := if lexer.inFlow then lexer else lexer.enter .blockMap
    let lexer ← lexer.dropKey?
    some ({ lexer with keyAllowed := !lexer.inFlow }.addSkip .key 1)

/-- Puts the token of an unmarked key to its place, and that of the mapping that it starts. -/
def placeKey (key : SimpleKey) (lexer : Lexer) : Lexer :=
  let tokens := lexer.tokens.insertIdxIfInBounds key.number .key
  let lexer := { lexer with tokens, simpleKey := none, keyAllowed := false }
  if lexer.inFlow then lexer
  else
    match lexer.deepen key.column with
    | (true, lexer) =>
      { lexer with tokens := lexer.tokens.insertIdxIfInBounds key.number .blockMap }
    | (false, lexer) => lexer

/-- Reads the colon in front of a value. -/
def fetchColon? (lexer : Lexer) : Option Lexer :=
  match lexer.simpleKey with
  | some key => some ((lexer.placeKey key).addSkip .colon 1)
  | none =>
    if lexer.inFlow then some ({ lexer with keyAllowed := false }.addSkip .colon 1)
    else if !lexer.keyAllowed then none
    else some ({ lexer.enter .blockMap with keyAllowed := true }.addSkip .colon 1)

/-- Reads an alias or an anchor. -/
def fetchName? (token : Text → Token) (lexer : Lexer) : Option Lexer := do
  let lexer ← lexer.saveKey?
  let (name, rest) ← takeNodeName? (lexer.cursor.rest.drop 1)
  some ({ lexer with keyAllowed := false }.add (token name) |>.moveTo rest)

/-- Reads a tag. -/
def fetchTag? (lexer : Lexer) : Option Lexer := do
  let lexer ← lexer.saveKey?
  let (tag, rest) ← takeTag? (lexer.cursor.rest.drop 1)
  some ({ lexer with keyAllowed := false }.add (.tag tag) |>.moveTo rest)

/-- Reads a block scalar. -/
def fetchBlock? (folded : Bool) (lexer : Lexer) : Option Lexer := do
  let lexer ← lexer.dropKey?
  let (content, rest) ← takeBlock? folded lexer.indent (lexer.cursor.rest.drop 1)
  some ({ lexer with keyAllowed := true }.add (.scalar content false) |>.moveTo rest)

/-- Adds a scalar between quotes. -/
def addQuoted (found : Text × Text) (lexer : Lexer) : Lexer :=
  { lexer with keyAllowed := false }.add (.scalar found.1 false) |>.moveTo found.2

/-- Reads a scalar between single quotes. -/
def fetchSingle? (lexer : Lexer) : Option Lexer := do
  let lexer ← lexer.saveKey?
  let found ← takeSingle? (lexer.cursor.rest.drop 1)
  some (lexer.addQuoted found)

/-- Reads a scalar between double quotes. -/
def fetchDouble (lexer : Lexer) : Except Fault Lexer :=
  match lexer.saveKey? with
  | none => .error .malformed
  | some lexer => (takeDouble (lexer.cursor.rest.drop 1)).map lexer.addQuoted

/-- Reads a plain scalar. -/
def fetchPlain? (lexer : Lexer) : Option Lexer := do
  let lexer ← lexer.saveKey?
  let plain := takePlain lexer.inFlow (lexer.indent + 1) lexer.cursor.rest
  some ({ lexer with keyAllowed := plain.crossed }.add (.scalar plain.content true)
    |>.moveTo plain.rest)

/-- The characters that start no plain scalar. -/
def indicators : List Char := "-?:,[]\x7b\x7d#&*!|>'\"%@`".toList

/-- Whether a plain scalar starts with a character and some text behind it. -/
def startsPlain (inFlow : Bool) (c : Char) (rest : Text) : Bool :=
  !(isGap c || indicators.contains c) ||
    (!atGap rest && (c = '-' || (!inFlow && (c = '?' || c = ':'))))

/-- Reads the token that starts with a character. -/
def fetchAt (c : Char) (rest : Text) (lexer : Lexer) : Except Fault Lexer :=
  let lineStart : Bool := lexer.cursor.column = 0
  let marked : Bool := lexer.inFlow || atGap rest
  let orMalformed (found : Option Lexer) : Except Fault Lexer :=
    match found with
    | some lexer => .ok lexer
    | none => .error .malformed
  if c = '%' && lineStart then orMalformed lexer.fetchDirective?
  else if lineStart && startsTriple '-' (c :: rest) then
    orMalformed (lexer.fetchMarker? .documentStart)
  else if lineStart && startsTriple '.' (c :: rest) then
    orMalformed (lexer.fetchMarker? .documentEnd)
  else if c = '[' then orMalformed (lexer.fetchOpening? .openList)
  else if c = '\x7b' then orMalformed (lexer.fetchOpening? .openMap)
  else if c = ']' then orMalformed (lexer.fetchClosing? .closeList)
  else if c = '\x7d' then orMalformed (lexer.fetchClosing? .closeMap)
  else if c = ',' then orMalformed lexer.fetchComma?
  else if c = '-' && atGap rest then orMalformed lexer.fetchItem?
  else if c = '?' && marked then orMalformed lexer.fetchKey?
  else if c = ':' && marked then orMalformed lexer.fetchColon?
  else if c = '*' then orMalformed (lexer.fetchName? .alias)
  else if c = '&' then orMalformed (lexer.fetchName? .anchor)
  else if c = '!' then orMalformed lexer.fetchTag?
  else if c = '|' && !lexer.inFlow then orMalformed (lexer.fetchBlock? false)
  else if c = '>' && !lexer.inFlow then orMalformed (lexer.fetchBlock? true)
  else if c = '\'' then orMalformed lexer.fetchSingle?
  else if c = '"' then lexer.fetchDouble
  else if startsPlain lexer.inFlow c rest then orMalformed lexer.fetchPlain?
  else .error .malformed

/-! ## Streams -/

/-- What follows spaces, comments and line breaks, and whether there is a line break among them. -/
def afterGaps (inComment crossed : Bool) : Text → Text × Bool
  | [] => ([], crossed)
  | c :: rest =>
    if isBreak c then afterGaps false true rest
    else if inComment || c = '#' then afterGaps true crossed rest
    else if c = ' ' then afterGaps false crossed rest
    else (c :: rest, crossed)

/-- Moves on to the next token. -/
def skipGaps (lexer : Lexer) : Lexer :=
  let text := lexer.cursor.rest
  let text := if lexer.cursor.index = 0 && text.head? = some '\ufeff' then text.drop 1 else text
  let (rest, crossed) := afterGaps false false text
  let lexer := lexer.moveTo rest
  if crossed && !lexer.inFlow then { lexer with keyAllowed := true } else lexer

/-- The tokens of what is left, behind those so far. -/
def run (lexer : Lexer) : Except Fault (List Token) :=
  match lexer.skipGaps.dropStale? with
  | none => .error .malformed
  | some here =>
    let here := here.unwind here.cursor.column
    match here.cursor.rest with
    | [] =>
      match (here.unwind (-1)).dropKey? with
      | none => .error .malformed
      | some finished => .ok finished.tokens.toList
    | c :: rest =>
      match here.fetchAt c rest with
      | .error fault => .error fault
      | .ok next =>
        if _h : next.cursor.rest.length < lexer.cursor.rest.length then next.run
        else .error .malformed
  termination_by lexer.cursor.rest.length

end Lexer

/-- The tokens of a text. -/
def Token.ofText (text : Text) : Except Fault (List Token) :=
  if text.all isAllowed then Lexer.run { cursor := { rest := text } } else .error .malformed

end Yaml

end FormLetter
