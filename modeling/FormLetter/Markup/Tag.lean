import FormLetter.Text.Blank

/-!
# Markup tags

A markup tag runs from `<` to the next `>`, whatever stands between them.

* `takeTag?`: the tag that opens in front of a text.
* `tagRole`, `tagName`: whether a tag opens or closes an element, and of which local name.
* `runTag`, `runTags`: the effect of tags on the stack of open elements.

Main statements: `takeTag?_eq_some` (a tag and the rest make up the text) and
`length_takeTag?_lt`.
-/

namespace FormLetter

open Text

/-! ## Reading -/

/-- The tag that starts with a `<` in front of `rest`, and what follows it. -/
def takeTag? (rest : Text) : Option (Text × Text) :=
  match cutAt '>' rest with
  | (body, some tail) => some ('<' :: body ++ ['>'], tail)
  | (_, none) => none

theorem takeTag?_eq_some {rest tag tail : Text} (h : takeTag? rest = some (tag, tail)) :
    '<' :: rest = tag ++ tail := by
  unfold takeTag? at h
  split at h
  · rename_i body more hc
    simp only [Option.some.injEq, Prod.mk.injEq] at h
    obtain ⟨rfl, rfl⟩ := h
    simp [cutAt_eq_some hc]
  · simp at h

theorem length_takeTag?_lt {rest tag tail : Text} (h : takeTag? rest = some (tag, tail)) :
    tail.length < rest.length := by
  unfold takeTag? at h
  split at h
  · rename_i body more hc
    simp only [Option.some.injEq, Prod.mk.injEq] at h
    obtain ⟨rfl, rfl⟩ := h
    rw [cutAt_eq_some hc]
    simp only [List.length_append, List.length_cons]
    omega
  · simp at h

/-! ## Elements -/

/-- What a tag does to the element structure. -/
inductive TagRole where
  /-- It opens an element. -/
  | opening
  /-- It closes an element. -/
  | closing
  /-- It is an element without content. -/
  | empty
  /-- It is a comment, a processing instruction or a declaration. -/
  | aside
  deriving Repr, DecidableEq

/-- The role of a tag. -/
def tagRole (tag : Text) : TagRole :=
  if "<?".toList.isPrefixOf tag || "<!".toList.isPrefixOf tag then .aside
  else if "</".toList.isPrefixOf tag then .closing
  else if "/>".toList.isSuffixOf tag then .empty
  else .opening

/-- The local name of the element of a tag: the name without what precedes its last colon. -/
def tagName (tag : Text) : Text :=
  let body := strip (tag.drop 1).dropLast
  let body := if body.head? = some '/' then body.drop 1 else body
  afterLast ':' (body.takeWhile fun c => !isBlank c && c ≠ '/' && c ≠ '>')

/-- The stack of open elements after a tag; a tag that closes another element than the innermost
one has none. -/
def runTag (stack : List Text) (tag : Text) : Option (List Text) :=
  match tagRole tag with
  | .opening => some (tagName tag :: stack)
  | .closing =>
    match stack with
    | [] => none
    | name :: outer => if name = tagName tag then some outer else none
  | .empty | .aside => some stack

/-- The stack of open elements after a list of tags. -/
def runTags (stack : List Text) (tags : List Text) : Option (List Text) :=
  tags.foldlM runTag stack

end FormLetter
