import FormLetter.Proofs.Modifier.Chain
import FormLetter.Proofs.Template.Piece
import Mathlib.Data.List.TakeDrop

/-!
# Reading written tags and markers

A merge tag that is written with its identifier and its modifiers is read back, and so is a block
marker that is written with its word and a condition. Blanks around a condition do not matter.

* `Condition.parse_strip`: a condition is read without the blanks around it.
* `Marker.ofContent?_opener`, `Marker.ofContent?_elseIf`: written markers are read back.
* `MergeTag.read_contentOf`: a merge tag is read from its identifier and the segments of its chain.
* `MergeTag.read_written`: a written merge tag is read back.
-/

namespace FormLetter

open Text

/-! ## Conditions -/

/-- Decoding leaves the blanks around a text where they are. -/
theorem Condition.decode_append_append {front back : Text} (hf : isAllBlank front = true)
    (hb : isAllBlank back = true) (text : Text) :
    Condition.decode (front ++ text ++ back) = front ++ Condition.decode text ++ back := by
  have hreferences : ∀ entry ∈ Condition.references, entry.1 ≠ [] ∧
      entry.1.any isBlank = false := by decide
  refine replaceEach_append_append (fun entry he => ⟨(hreferences entry he).1, ?_⟩) text
  intro c hc hm
  have hblank : isBlank c = true := by
    rcases List.mem_append.1 hc with hc | hc
    · exact List.all_eq_true.1 hf c hc
    · exact List.all_eq_true.1 hb c hc
  exact List.any_eq_false.1 (hreferences entry he).2 c hm hblank

/-- A condition is read without the blanks around it. -/
theorem Condition.parse_strip (text : Text) :
    Condition.parse (strip text) = Condition.parse text := by
  obtain ⟨front, back, hf, hb, he⟩ := exists_strip text
  have hdecode : strip (Condition.decode text) = strip (Condition.decode (strip text)) := by
    rw [he, Condition.decode_append_append hf hb, strip_append_append hf hb,
      strip_append_append hf hb, strip_strip]
  rw [Condition.parse, Condition.parse, hdecode]

/-! ## Markers -/

theorem strip_word_append {word condition : Text} (hw : word.any isBlank = false)
    (hne : word ≠ []) (hc : isAllBlank condition = false) :
    strip (word ++ ' ' :: condition) = word ++ ' ' :: stripRight condition := by
  have hleft : stripLeft (word ++ ' ' :: condition) = word ++ ' ' :: condition := by
    obtain ⟨d, rest, rfl⟩ := List.exists_cons_of_ne_nil hne
    rw [List.any_cons, Bool.or_eq_false_iff] at hw
    exact stripLeft_eq_self (by simpa using hw.1)
  have hright := stripRight_append_of_not_blank hc (word ++ [' '])
  rw [strip, hleft]
  simpa using hright

theorem afterWord?_append (word : String) (condition : Text) :
    afterWord? word (word.toList ++ ' ' :: condition) = some (stripLeft condition) := by
  have h : after? word.toList (word.toList ++ ' ' :: condition) = some (' ' :: condition) :=
    after?_eq_some_iff.2 rfl
  rw [afterWord?, h]
  rfl

theorem strip_stripLeft_stripRight (text : Text) :
    strip (stripLeft (stripRight text)) = strip text := by
  rw [strip_stripLeft, strip_stripRight]

namespace Marker

section

variable {content condition : Text}

theorem ofContent?_of_if (h : afterWord? "if" (strip content) = some condition) :
    ofContent? content = some (.opener .ifBlock (strip condition)) := by
  simp only [ofContent?, h]

theorem ofContent?_of_listIf (hi : afterWord? "if" (strip content) = none)
    (h : afterWord? "listif" (strip content) = some condition) :
    ofContent? content = some (.opener .listIf (strip condition)) := by
  simp only [ofContent?, hi, h]

theorem ofContent?_of_elseIf (hi : afterWord? "if" (strip content) = none)
    (hl : afterWord? "listif" (strip content) = none)
    (h : afterWord? "elseif" (strip content) = some condition) :
    ofContent? content = some (.elseIf (strip condition)) := by
  simp only [ofContent?, hi, hl, h]

end

/-- A marker that opens a block is read back. -/
theorem ofContent?_opener (kind : BlockKind) {condition : Text}
    (h : isAllBlank condition = false) :
    ofContent? (kind.word.toList ++ ' ' :: condition) = some (.opener kind (strip condition)) := by
  have hstrip : strip (kind.word.toList ++ ' ' :: condition) =
      kind.word.toList ++ ' ' :: stripRight condition :=
    strip_word_append (by cases kind <;> decide) (by cases kind <;> decide) h
  have hread := afterWord?_append kind.word (stripRight condition)
  rw [← hstrip] at hread
  rw [← strip_stripLeft_stripRight condition]
  cases kind with
  | ifBlock => exact ofContent?_of_if hread
  | listIf => exact ofContent?_of_listIf (by rw [hstrip]; rfl) hread

/-- A marker that starts an alternative is read back. -/
theorem ofContent?_elseIf {condition : Text} (h : isAllBlank condition = false) :
    ofContent? ("elseif".toList ++ ' ' :: condition) = some (.elseIf (strip condition)) := by
  have hstrip : strip ("elseif".toList ++ ' ' :: condition) =
      "elseif".toList ++ ' ' :: stripRight condition := strip_word_append (by decide) (by decide) h
  have hread := afterWord?_append "elseif" (stripRight condition)
  rw [← hstrip] at hread
  rw [← strip_stripLeft_stripRight condition]
  exact ofContent?_of_elseIf (by rw [hstrip]; rfl) (by rw [hstrip]; rfl) hread

end Marker

/-! ## Merge tags -/

theorem isDelimiter_of_isWordChar {c : Char} (h : isWordChar c = true) : isDelimiter c = false := by
  rw [← Bool.not_eq_true]
  intro hd
  rcases eq_of_isDelimiter hd with rfl | rfl | rfl | rfl <;> exact absurd h (by decide)

theorem Modifier.bare_text {modifier : Modifier} (h : ∀ arg ∈ modifier.args, Bare arg) :
    Bare modifier.text := by
  have hname : Bare modifier.kind.name.toList := by cases modifier.kind <;> decide
  refine bare_append.2 ⟨hname, fun c hc => ?_⟩
  obtain ⟨arg, ha, hc⟩ := List.mem_flatMap.1 hc
  rcases List.mem_append.1 hc with hc | hc
  · rcases List.mem_append.1 hc with hc | hc
    · exact (by decide : Bare ":\"".toList) c hc
    · exact h arg ha c hc
  · exact (by decide : Bare ['"']) c hc

theorem Modifier.endsSolid_text (modifier : Modifier) : EndsSolid modifier.text := by
  refine endsSolid_append_flatMap (endsSolid_of_any ?_ ?_) fun arg _ => ?_
  · cases modifier.kind <;> decide
  · cases modifier.kind <;> decide
  · exact (endsSolid_of_any (by decide) (by decide)).append _

theorem readModifiers_map {modifiers : List Modifier}
    (h : ∀ modifier ∈ modifiers, modifier.IsQuotable) (source : Text) :
    readModifiers source (modifiers.map Modifier.text) = (modifiers, []) := by
  induction modifiers with
  | nil => rfl
  | cons modifier modifiers ih =>
    obtain ⟨hm, hr⟩ := List.forall_mem_cons.1 h
    have hrest := ih hr
    rw [readModifiers] at hrest
    rw [readModifiers, List.map_cons, List.foldr_cons, hrest]
    simp only [Modifier.parse_text hm]

theorem bare_of_isIdentifier {text : Text} (h : isIdentifier text = true) : Bare text :=
  fun c hc => isDelimiter_of_isWordChar (List.all_eq_true.1 (Bool.and_eq_true_iff.1 h).2 c hc)

theorem ne_nil_of_isIdentifier {text : Text} (h : isIdentifier text = true) : text ≠ [] := by
  simpa using (Bool.and_eq_true_iff.1 h).1

namespace MergeTag

/-- What stands between the braces of a merge tag: the identifier after a dollar sign, and each
segment of the chain after a bar. -/
def contentOf (identifier : Text) (segments : List Text) : Text :=
  '$' :: (identifier ++ segments.flatMap ('|' :: ·))

section

variable {identifier : Text} {segments : List Text}

theorem bare_contentOf (hi : isIdentifier identifier = true)
    (hb : ∀ segment ∈ segments, Bare segment) : Bare (contentOf identifier segments) := by
  refine bare_cons.2 ⟨by decide, bare_append.2 ⟨bare_of_isIdentifier hi, fun c hc => ?_⟩⟩
  obtain ⟨segment, hm, hc⟩ := List.mem_flatMap.1 hc
  exact bare_cons.2 ⟨by decide, hb segment hm⟩ c hc

theorem strip_contentOf (hi : isIdentifier identifier = true)
    (he : ∀ segment ∈ segments, EndsSolid ('|' :: segment)) :
    strip (contentOf identifier segments) = contentOf identifier segments := by
  have hword := List.all_eq_true.1 (Bool.and_eq_true_iff.1 hi).2
  refine strip_cons_of_endsSolid (by decide) (endsSolid_append_flatMap ?_ he)
  refine endsSolid_of_any (ne_nil_of_isIdentifier hi) (List.any_eq_false.2 fun c hc => ?_)
  rw [isBlank_of_isWordChar (hword c hc)]
  exact Bool.false_ne_true

theorem span_contentOf (hi : isIdentifier identifier = true) (segments : List Text) :
    ((contentOf identifier segments).drop 1).span isWordChar =
      (identifier, segments.flatMap ('|' :: ·)) := by
  have hword := List.all_eq_true.1 (Bool.and_eq_true_iff.1 hi).2
  have hbar : isWordChar '|' = false := by decide
  rw [List.span_eq_takeWhile_dropWhile, contentOf, List.drop_one, List.tail_cons,
    List.takeWhile_append_of_pos hword, List.dropWhile_append_of_pos hword]
  cases segments <;> simp [hbar]

/-- A merge tag has the modifiers of the pieces that its chain is cut into. -/
theorem read_contentOf (hi : isIdentifier identifier = true)
    (he : ∀ segment ∈ segments, EndsSolid ('|' :: segment)) (source : Text) :
    MergeTag.read source (contentOf identifier segments) =
      (some ⟨identifier, (readModifiers source (cutChain segments)).1, source⟩,
        (readModifiers source (cutChain segments)).2) := by
  have hspan := span_contentOf hi segments
  obtain ⟨c, rest, rfl⟩ := List.exists_cons_of_ne_nil (ne_nil_of_isIdentifier hi)
  rw [MergeTag.read, strip_contentOf hi he, hspan]
  cases segments with
  | nil => rfl
  | cons segment segments => rfl

end

/-- What a merge tag has between its braces: the identifier after a dollar sign, and each modifier
after a bar. -/
def content (tag : MergeTag) : Text :=
  '$' :: (tag.identifier ++ tag.modifiers.flatMap fun modifier => '|' :: modifier.text)

theorem content_eq (tag : MergeTag) :
    tag.content = contentOf tag.identifier (tag.modifiers.map Modifier.text) := by
  rw [content, contentOf, List.flatMap_map]

/-- A merge tag that is written with its identifier and its modifiers. -/
structure IsWritten (tag : MergeTag) : Prop where
  /-- The identifier is one. -/
  identifier : isIdentifier tag.identifier = true
  /-- The modifiers can be written. -/
  quotable : ∀ modifier ∈ tag.modifiers, modifier.IsQuotable
  /-- No argument holds a delimiter. -/
  bare : ∀ modifier ∈ tag.modifiers, ∀ arg ∈ modifier.args, Bare arg
  /-- The tag is written that way. -/
  source : tag.source = '{' :: (tag.content ++ ['}'])

variable {tag : MergeTag}

theorem IsWritten.bare_content (h : tag.IsWritten) : Bare tag.content := by
  rw [content_eq]
  exact bare_contentOf h.identifier (List.forall_mem_map.2 fun modifier hm =>
    Modifier.bare_text (h.bare modifier hm))

theorem endsSolid_segments (tag : MergeTag) :
    ∀ segment ∈ tag.modifiers.map Modifier.text, EndsSolid ('|' :: segment) :=
  List.forall_mem_map.2 fun modifier _ => modifier.endsSolid_text.append ['|']

theorem IsWritten.strip_content (h : tag.IsWritten) : strip tag.content = tag.content := by
  rw [content_eq]
  exact strip_contentOf h.identifier tag.endsSolid_segments

theorem cutChain_text {modifiers : List Modifier} (h : ∀ modifier ∈ modifiers, modifier.IsQuotable) :
    cutChain (modifiers.map Modifier.text) = modifiers.map Modifier.text := by
  have hunsplit : ∀ text ∈ modifiers.map Modifier.text, Unsplit '|' none none text :=
    List.forall_mem_map.2 fun modifier hm => Modifier.unsplit_text (h modifier hm).notMem_quote
  cases modifiers with
  | nil => rfl
  | cons modifier modifiers => exact splitUnquoted_append hunsplit

/-- A written merge tag is read back. -/
theorem read_written (h : tag.IsWritten) :
    MergeTag.read tag.source tag.content = (some tag, []) := by
  rw [content_eq, read_contentOf h.identifier tag.endsSolid_segments, cutChain_text h.quotable,
    readModifiers_map h.quotable]

end MergeTag

end FormLetter
