import FormLetter.Text.Casing
import FormLetter.Value

/-!
# Fields of a form

A submitted form is a list of fields. A field gives its value under several keys: its two labels,
its number in four forms, and the slug of its label.

* `Field`: a field; `Field.ofRecord` reads one from loosely shaped data.
* `Field.flat`: the value as one text.
* `slugify`: a label in lower case with hyphens.
* `Field.keys`: every key of a field, in order of priority.
-/

namespace FormLetter

open Text

/-- A field of a form. -/
structure Field where
  /-- The identifier of the field. -/
  id : Text
  /-- The label that the person filling in the form sees. -/
  label : Text := []
  /-- The label that the form's owner sees. -/
  adminLabel : Text := []
  /-- The type of the field. -/
  type : Text := "text".toList
  /-- The value: a text, or a list for a field of several parts. -/
  value : Value := .text []
  deriving Repr

namespace Field

/-! ## Values -/

/-- Whether an item of a list says nothing. -/
def isBlankItem : Value → Bool
  | .null | .text [] => true
  | _ => false

/-- The value of a field as one text. The items of a list are joined with a space, those of a field
of check boxes with a comma and a space; items that say nothing are dropped. -/
def flat (field : Field) : Text :=
  match field.value with
  | .list items =>
    let separator := if field.type = "checkbox".toList then ", ".toList else [' ']
    joinWith separator ((items.filter fun item => !isBlankItem item).map Value.toText)
  | .null => []
  | value => value.toText

/-- The first of several names that a record has. -/
def firstOf? (record : Value) (names : List String) : Option Value :=
  names.findSome? record.field?

/-- A value as the text of a label, or a default if it says nothing. -/
def labelOr (default : Text) (value : Option Value) : Text :=
  match value with
  | some value => if value.isFilled then value.toText else default
  | none => default

/-- A field from a record with either kind of names. A label or a type that says nothing counts as
absent. -/
def ofRecord (record : Value) : Field where
  id := ((firstOf? record ["field_id", "fieldId", "id"]).getD (.text [])).toText
  label := labelOr [] (record.field? "label")
  adminLabel := labelOr [] (firstOf? record ["admin_label", "adminLabel"])
  type := labelOr "text".toList (record.field? "type")
  value :=
    match record.field? "value" with
    | none | some .null => .text []
    | some (.list items) =>
      .list ((items.filter fun item => match item with | .null => false | _ => true).map
        fun item => .text item.toText)
    | some value => .text value.toText

end Field

/-! ## Slugs -/

/-- Whether a character may stand in a slug: an ASCII lower-case letter or an ASCII digit. -/
def isSlugChar (c : Char) : Bool := c.isLower || c.isDigit

/-- Every run of other characters made one hyphen; `inRun` tells whether the text continues such a
run. -/
def hyphenate (inRun : Bool) : Text → Text
  | [] => []
  | c :: rest =>
    if isSlugChar c then c :: hyphenate false rest
    else if inRun then hyphenate true rest
    else '-' :: hyphenate true rest

/-- A text without the hyphens at its two ends. -/
def trimHyphens (text : Text) : Text :=
  (((text.dropWhile (· = '-')).reverse).dropWhile (· = '-')).reverse

/-- A label in lower case, with a hyphen for each run of characters that are neither letters nor
digits. -/
def slugify (label : Text) : Text := trimHyphens (hyphenate false (lower label))

/-- A text with one character put for another. -/
def substitute (old new : Char) (text : Text) : Text := text.map fun c => if c = old then new else c

/-! ## Keys -/

namespace Field

/-- A label and its upper-case form. -/
def labelKeys (label : Text) : List Text := [label, upper label]

/-- A slug, its upper-case form, and its forms with underscores. -/
def slugKeys (slug : Text) : List Text :=
  let underscored := substitute '-' '_' slug
  [slug, upper slug, underscored, substitute '_' '-' slug, upper underscored]

/-- The keys that hold the identifier of a field. -/
def idKeys (id : Text) : List Text :=
  ["field_", "FIELD_", "input_", "INPUT_"].map fun front => front.toList ++ id

/-- Every key of a field, in order of priority; no key is empty and none comes twice. -/
def keys (field : Field) : List Text :=
  let all :=
    labelKeys field.adminLabel ++ labelKeys field.label ++ idKeys field.id ++
      slugKeys (slugify field.label)
  (all.filter fun key => !key.isEmpty).eraseDups

end Field

end FormLetter
