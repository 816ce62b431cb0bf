import FormLetter.Condition.Parser
import FormLetter.Diagnostic.Finding
import FormLetter.Markup.Tag
import FormLetter.Template.Token

/-!
# Pieces of a template

A template is first cut into pieces: text, merge tags and block markers. A piece other than text is
a pair of braces with neither braces nor angle brackets inside; inside a markup tag there are none.
Braces whose content is neither a tag nor a marker are text.

* `Marker`, `Piece`: the pieces.
* `MergeTag.read`: a merge tag from the content of its braces.
* `Marker.ofContent?`: a block marker from the content of its braces.
* `lex`: the pieces of a text, with a finding for every tag that is malformed or never closed and
  for every modifier that was left out.

Main statement: `sources_lex` (the pieces make up the text).
-/

namespace FormLetter

open Text

/-! ## Markers -/

/-- A block marker. -/
inductive Marker where
  /-- A marker that opens a block, with the text of its condition. -/
  | opener (kind : BlockKind) (condition : Text)
  /-- A marker that starts an alternative, with the text of its condition. -/
  | elseIf (condition : Text)
  /-- A marker that starts the last alternative. -/
  | otherwise
  /-- A marker that closes a block. -/
  | closer (kind : BlockKind)
  deriving Repr, DecidableEq

/-- What follows a word and at least one blank. -/
def afterWord? (word : String) (text : Text) : Option Text :=
  (after? word.toList text).bind afterBlanks?

/-- The block marker that the content of a pair of braces stands for. -/
def Marker.ofContent? (content : Text) : Option Marker :=
  let body := strip content
  match afterWord? "if" body, afterWord? "listif" body, afterWord? "elseif" body with
  | some condition, _, _ => some (.opener .ifBlock (strip condition))
  | none, some condition, _ => some (.opener .listIf (strip condition))
  | none, none, some condition => some (.elseIf (strip condition))
  | none, none, none =>
    if body = "else".toList then some .otherwise
    else if body = "/if".toList then some (.closer .ifBlock)
    else if body = "/listif".toList then some (.closer .listIf)
    else none

/-! ## Merge tags -/

/-- The modifiers of the segments that have no fault, and a finding for each of the others. -/
def readModifiers (source : Text) (segments : List Text) : List Modifier × List Finding :=
  segments.foldr
    (fun segment (modifiers, findings) =>
      match Modifier.parse segment with
      | .ok modifier => (modifier :: modifiers, findings)
      | .error fault => (modifiers, .skippedModifier segment source fault :: findings))
    ([], [])

/-- A merge tag from its source and the content of its braces, whose first character other than a
blank is the dollar sign. Without an identifier, or with anything but a bar behind it, there is no
tag. -/
def MergeTag.read (source content : Text) : Option MergeTag × List Finding :=
  match ((strip content).drop 1).span isWordChar with
  | ([], _) => (none, [.malformedTag source])
  | (identifier, []) => (some ⟨identifier, [], source⟩, [])
  | (identifier, '|' :: chain) =>
    let (modifiers, findings) := readModifiers source (splitUnquoted '|' chain)
    (some ⟨identifier, modifiers, source⟩, findings)
  | (_, _ :: _) => (none, [.malformedTag source])

theorem MergeTag.source_of_read {source content : Text} {tag : MergeTag} {findings : List Finding}
    (h : MergeTag.read source content = (some tag, findings)) : tag.source = source := by
  unfold MergeTag.read at h
  split at h
  · simp at h
  · simp only [Prod.mk.injEq, Option.some.injEq] at h
    rw [← h.1]
  · simp only [Prod.mk.injEq, Option.some.injEq] at h
    rw [← h.1]
  · simp at h

/-! ## Pieces -/

/-- A piece of a template. -/
inductive Piece where
  /-- Text. -/
  | text (source : Text)
  /-- A merge tag. -/
  | tag (tag : MergeTag)
  /-- A block marker. -/
  | marker (marker : Marker) (source : Text)
  deriving Repr, DecidableEq

namespace Piece

/-- A piece as it is written. -/
def source : Piece → Text
  | .text source => source
  | .tag mergeTag => mergeTag.source
  | .marker _ source => source

/-- Whether a piece is a block marker. -/
def isMarker : Piece → Bool
  | .marker .. => true
  | _ => false

/-- Whether a piece is a marker that opens a block. -/
def isOpener : Piece → Bool
  | .marker (.opener ..) _ => true
  | _ => false

/-- Text in front of pieces; it is joined with text that follows. -/
def consText (source : Text) : List Piece → List Piece
  | .text next :: pieces => .text (source ++ next) :: pieces
  | pieces => .text source :: pieces

/-- The pieces as they are written. -/
def sources (pieces : List Piece) : Text := pieces.flatMap Piece.source

theorem sources_consText (front : Text) (pieces : List Piece) :
    sources (consText front pieces) = front ++ sources pieces := by
  unfold consText
  split <;> simp [sources, source]

end Piece

/-! ## Cutting a text into pieces -/

/-- The content up to the next closing brace, if no other brace and no angle bracket precedes it,
and what follows that brace. -/
def takeBraces? : Text → Option (Text × Text)
  | [] => none
  | c :: rest =>
    if c = '}' then some ([], rest)
    else if c = '{' || c = '<' || c = '>' then none
    else (takeBraces? rest).map fun (content, tail) => (c :: content, tail)

theorem takeBraces?_eq_some {text content tail : Text}
    (h : takeBraces? text = some (content, tail)) :
    text = content ++ '}' :: tail := by
  induction text generalizing content with
  | nil => simp [takeBraces?] at h
  | cons c rest ih =>
    simp only [takeBraces?] at h
    split at h
    · rename_i hc
      simp only [Option.some.injEq, Prod.mk.injEq] at h
      obtain ⟨rfl, rfl⟩ := h
      simp [hc]
    · split at h
      · simp at h
      · obtain ⟨⟨inner, after⟩, hi, he⟩ := Option.map_eq_some_iff.1 h
        simp only [Prod.mk.injEq] at he
        obtain ⟨rfl, rfl⟩ := he
        simp [ih hi]

/-- The ways to write the sign of a merge tag. -/
def tagSigns : List Text := [['$'], "&#36;".toList, "&#x24;".toList]

/-- The opening of a merge tag behind a brace that is never closed: blanks, the sign, and the word
characters that follow. -/
def openedTag? (rest : Text) : Option Text :=
  let blanks := rest.takeWhile isBlank
  let body := stripLeft rest
  tagSigns.findSome? fun sign =>
    (after? sign body).map fun tail => '{' :: blanks ++ sign ++ tail.takeWhile isWordChar

/-- The pieces of a text and what was noticed about its tags. -/
structure Lexed where
  /-- The pieces. -/
  pieces : List Piece
  /-- What was noticed, in order. -/
  findings : List Finding
  deriving Repr, DecidableEq

namespace Lexed

/-- Text in front of pieces. -/
def behindText (source : Text) (findings : List Finding) (lexed : Lexed) : Lexed :=
  ⟨Piece.consText source lexed.pieces, findings ++ lexed.findings⟩

/-- A piece in front of pieces. -/
def behindPiece (piece : Piece) (findings : List Finding) (lexed : Lexed) : Lexed :=
  ⟨piece :: lexed.pieces, findings ++ lexed.findings⟩

/-- A pair of braces in front of pieces. -/
def behindBraces (source content : Text) (lexed : Lexed) : Lexed :=
  if (strip content).head? = some '$' then
    match MergeTag.read source content with
    | (some tag, findings) => lexed.behindPiece (.tag tag) findings
    | (none, findings) => lexed.behindText source findings
  else
    match Marker.ofContent? content with
    | some marker => lexed.behindPiece (.marker marker source) []
    | none => lexed.behindText source []

theorem sources_behindBraces (source content : Text) (lexed : Lexed) :
    Piece.sources (lexed.behindBraces source content).pieces =
      source ++ Piece.sources lexed.pieces := by
  unfold behindBraces
  split
  · split
    · rename_i tag findings h
      simp [behindPiece, Piece.sources, Piece.source, MergeTag.source_of_read h]
    · simp [behindText, Piece.sources_consText]
  · split
    · simp [behindPiece, Piece.sources, Piece.source]
    · simp [behindText, Piece.sources_consText]

end Lexed

/-- The pieces of the text that starts at an offset. -/
def lexFrom (offset : Nat) (text : Text) : Lexed :=
  match text with
  | [] => ⟨[], []⟩
  | '<' :: rest =>
    match _h : takeTag? rest with
    | some (tag, tail) => (lexFrom (offset + tag.length) tail).behindText tag []
    | none => (lexFrom (offset + 1) rest).behindText ['<'] []
  | '{' :: rest =>
    match _h : takeBraces? rest with
    | some (content, tail) =>
      (lexFrom (offset + content.length + 2) tail).behindBraces ('{' :: content ++ ['}']) content
    | none =>
      (lexFrom (offset + 1) rest).behindText ['{']
        ((openedTag? rest).map fun source => .unterminatedTag source offset).toList
  | c :: rest => (lexFrom (offset + 1) rest).behindText [c] []
  termination_by text.length
  decreasing_by
    · have := length_takeTag?_lt _h
      simp only [List.length_cons]
      omega
    · simp
    · rw [takeBraces?_eq_some _h]
      simp only [List.length_append, List.length_cons]
      omega
    · simp
    · simp

/-- The pieces of a text. -/
def lex (text : Text) : Lexed := lexFrom 0 text

theorem sources_lexFrom (offset : Nat) (text : Text) :
    Piece.sources (lexFrom offset text).pieces = text := by
  fun_induction lexFrom offset text with
  | case1 => rfl
  | case2 offset rest tag tail h ih =>
    simp only [Lexed.behindText, Piece.sources_consText, ih]
    exact (takeTag?_eq_some h).symm
  | case3 offset rest h ih => simp [Lexed.behindText, Piece.sources_consText, ih]
  | case4 offset rest content tail h ih =>
    simp [Lexed.sources_behindBraces, ih, takeBraces?_eq_some h]
  | case5 offset rest h ih => simp [Lexed.behindText, Piece.sources_consText, ih]
  | case6 offset c rest _ _ ih => simp [Lexed.behindText, Piece.sources_consText, ih]

/-- The pieces make up the text. -/
theorem sources_lex (text : Text) : Piece.sources (lex text).pieces = text :=
  sources_lexFrom 0 text

end FormLetter
