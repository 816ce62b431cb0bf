import FormLetter.Proofs.Markup.Span
import FormLetter.Template.Piece

/-!
# Cutting a template into pieces

What becomes of a markup tag, of a pair of braces and of any other character in front of a text,
and what the pieces other than text are made of.

* `Bare`: no brace and no angle bracket.
* `lexFrom_tag`, `lexFrom_braces`, `lexFrom_char`: the text cut case by case.
* `isBraced_lex`: merge tags and markers are written with a brace.
* `Finding.isAboutTag_of_mem_lex`: only merge tags are noticed.
-/

namespace FormLetter

open Text

/-! ## Delimiters -/

/-- Whether a character is a brace or an angle bracket. -/
def isDelimiter (c : Char) : Bool := c = '{' || c = '}' || c = '<' || c = '>'

theorem eq_of_isDelimiter {c : Char} (h : isDelimiter c = true) :
    c = '{' ∨ c = '}' ∨ c = '<' ∨ c = '>' := by
  simpa [isDelimiter, or_assoc] using h

/-- A text without braces and angle brackets. -/
def Bare (text : Text) : Prop := ∀ c ∈ text, isDelimiter c = false

instance (text : Text) : Decidable (Bare text) := List.decidableBAll _ text

theorem bare_nil : Bare [] := fun _ h => absurd h List.not_mem_nil

theorem bare_cons {c : Char} {text : Text} :
    Bare (c :: text) ↔ isDelimiter c = false ∧ Bare text := List.forall_mem_cons

theorem bare_append {front back : Text} : Bare (front ++ back) ↔ Bare front ∧ Bare back :=
  List.forall_mem_append

/-- Braces around a bare text are a pair. -/
theorem takeBraces?_append {content : Text} (h : Bare content) (tail : Text) :
    takeBraces? (content ++ '}' :: tail) = some (content, tail) := by
  induction content with
  | nil => simp [takeBraces?]
  | cons c content ih =>
    obtain ⟨hc, hr⟩ := bare_cons.1 h
    simp only [isDelimiter, Bool.or_eq_false_iff, decide_eq_false_iff_not] at hc
    obtain ⟨⟨⟨h1, h2⟩, h3⟩, h4⟩ := hc
    simp [takeBraces?, h1, h2, h3, h4, ih hr]

/-! ## The text cut, case by case -/

theorem lexFrom_nil (offset : Nat) : lexFrom offset [] = ⟨[], []⟩ := by
  rw [lexFrom]

theorem lexFrom_tag {tag : Text} (h : IsTag tag) (offset : Nat) (tail : Text) :
    lexFrom offset (tag ++ tail) = (lexFrom (offset + tag.length) tail).behindText tag [] := by
  obtain ⟨rest, he, ht⟩ := h.exists_takeTag? tail
  rw [he, lexFrom]
  split
  · rename_i found more hf
    rw [ht] at hf
    cases hf
    rfl
  · rename_i hf
    rw [ht] at hf
    cases hf

theorem lexFrom_braces {content : Text} (h : Bare content) (offset : Nat) (tail : Text) :
    lexFrom offset ('{' :: (content ++ '}' :: tail)) =
      (lexFrom (offset + content.length + 2) tail).behindBraces ('{' :: content ++ ['}'])
        content := by
  rw [lexFrom]
  split
  · rename_i found more hf
    rw [takeBraces?_append h] at hf
    cases hf
    rfl
  · rename_i hf
    rw [takeBraces?_append h] at hf
    cases hf

theorem lexFrom_char {c : Char} (hl : c ≠ '<') (hb : c ≠ '{') (offset : Nat) (rest : Text) :
    lexFrom offset (c :: rest) = (lexFrom (offset + 1) rest).behindText [c] [] := by
  rw [lexFrom]
  · exact hl
  · exact hb

/-! ## Pieces with braces -/

/-- A piece that is text, or is written with an opening brace. -/
def Piece.IsBraced : Piece → Prop
  | .text _ => True
  | piece => '{' ∈ piece.source

theorem Piece.forall_mem_consText {P : Piece → Prop} (ht : ∀ source, P (.text source))
    {source : Text} {pieces : List Piece} (h : ∀ piece ∈ pieces, P piece) :
    ∀ piece ∈ Piece.consText source pieces, P piece := by
  unfold Piece.consText
  split
  · exact List.forall_mem_cons.2 ⟨ht _, (List.forall_mem_cons.1 h).2⟩
  · exact List.forall_mem_cons.2 ⟨ht _, h⟩

theorem Lexed.isBraced_behindBraces {lexed : Lexed} (h : ∀ piece ∈ lexed.pieces, piece.IsBraced)
    (content : Text) :
    ∀ piece ∈ (lexed.behindBraces ('{' :: content ++ ['}']) content).pieces, piece.IsBraced := by
  unfold behindBraces
  split
  · split
    · rename_i tag findings hr
      refine List.forall_mem_cons.2 ⟨?_, h⟩
      show '{' ∈ tag.source
      rw [MergeTag.source_of_read hr]
      exact List.mem_cons_self
    · exact Piece.forall_mem_consText (fun _ => trivial) h
  · split
    · exact List.forall_mem_cons.2 ⟨List.mem_cons_self, h⟩
    · exact Piece.forall_mem_consText (fun _ => trivial) h

theorem isBraced_lexFrom (offset : Nat) (text : Text) :
    ∀ piece ∈ (lexFrom offset text).pieces, piece.IsBraced := by
  fun_induction lexFrom offset text with
  | case1 => exact fun _ h => absurd h List.not_mem_nil
  | case2 offset rest tag tail h ih => exact Piece.forall_mem_consText (fun _ => trivial) ih
  | case3 offset rest h ih => exact Piece.forall_mem_consText (fun _ => trivial) ih
  | case4 offset rest content tail h ih => exact Lexed.isBraced_behindBraces ih content
  | case5 offset rest h ih => exact Piece.forall_mem_consText (fun _ => trivial) ih
  | case6 offset c rest _ _ ih => exact Piece.forall_mem_consText (fun _ => trivial) ih

/-- Merge tags and markers are written with a brace. -/
theorem isBraced_lex (text : Text) : ∀ piece ∈ (lex text).pieces, piece.IsBraced :=
  isBraced_lexFrom 0 text

/-! ## What is noticed -/

namespace Finding

/-- Whether a finding is about a merge tag as it is written. -/
def isAboutTag : Finding → Bool
  | malformedTag _ | unterminatedTag .. | skippedModifier .. => true
  | _ => false

theorem isAboutTag_of_mem_readModifiers {source : Text} {segments : List Text} {finding : Finding}
    (h : finding ∈ (readModifiers source segments).2) : finding.isAboutTag = true := by
  induction segments with
  | nil => exact absurd h List.not_mem_nil
  | cons segment segments ih =>
    rw [readModifiers, List.foldr_cons] at h
    cases hparse : Modifier.parse segment with
    | ok modifier =>
      rw [hparse] at h
      exact ih h
    | error fault =>
      rw [hparse] at h
      rcases List.mem_cons.1 h with rfl | h
      · rfl
      · exact ih h

theorem isAboutTag_of_mem_read {source content : Text} {finding : Finding}
    (h : finding ∈ (MergeTag.read source content).2) : finding.isAboutTag = true := by
  unfold MergeTag.read at h
  split at h
  · rw [List.mem_singleton.1 h]
    rfl
  · exact absurd h List.not_mem_nil
  · exact isAboutTag_of_mem_readModifiers h
  · rw [List.mem_singleton.1 h]
    rfl

theorem isAboutTag_of_mem_behindBraces {lexed : Lexed} {source content : Text} {finding : Finding}
    (hl : finding ∈ lexed.findings → finding.isAboutTag = true)
    (h : finding ∈ (lexed.behindBraces source content).findings) : finding.isAboutTag = true := by
  unfold Lexed.behindBraces at h
  split at h
  · have hread {findings : List Finding} {tag : Option MergeTag}
        (hr : MergeTag.read source content = (tag, findings)) (hm : finding ∈ findings) :
        finding.isAboutTag = true :=
      isAboutTag_of_mem_read (by rwa [hr])
    split at h
    · exact (List.mem_append.1 h).elim (hread ‹_›) hl
    · exact (List.mem_append.1 h).elim (hread ‹_›) hl
  · split at h <;> exact hl h

theorem isAboutTag_of_mem_lexFrom {offset : Nat} {text : Text} {finding : Finding}
    (h : finding ∈ (lexFrom offset text).findings) : finding.isAboutTag = true := by
  fun_induction lexFrom offset text with
  | case1 => exact absurd h List.not_mem_nil
  | case2 _ _ _ _ _ ih => exact ih h
  | case3 _ _ _ ih => exact ih h
  | case4 _ _ _ _ _ ih => exact isAboutTag_of_mem_behindBraces ih h
  | case5 _ _ _ ih =>
    rcases List.mem_append.1 h with h | h
    · obtain ⟨source, -, rfl⟩ := Option.map_eq_some_iff.1 (Option.mem_toList.1 h)
      rfl
    · exact ih h
  | case6 _ _ _ _ _ ih => exact ih h

/-- Cutting a text into pieces notices only merge tags. -/
theorem isAboutTag_of_mem_lex {text : Text} {finding : Finding}
    (h : finding ∈ (lex text).findings) : finding.isAboutTag = true :=
  isAboutTag_of_mem_lexFrom h

end Finding

end FormLetter
