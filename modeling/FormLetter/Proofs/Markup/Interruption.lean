import FormLetter.Proofs.Markup.Nesting
import FormLetter.Proofs.Markup.Restoration
import FormLetter.Proofs.Markup.Stability

/-!
# Interrupted tags of a template

Markup tags may be put anywhere into a tag of a template. As long as they are balanced and cross no
hard boundary, and leave the blanks around them recognizable, normalizing takes all of them out
again.

* `takeSpan_source`: a span is read as it was written.
* `normalizeFrom_append`: what holds no brace is copied.
* `Interrupts`: a span that interrupts a text by tags that can be taken out.
* `normalize_interrupted`: normalizing restores the text.
-/

namespace FormLetter

open Text

variable {boundaries : List Text}

/-! ## Reading what was written -/

theorem takeSpan_append_text {front : Text} (hl : '<' ∉ front) (hb : '}' ∉ front) (text : Text) :
    takeSpan boundaries (front ++ text) =
      (takeSpan boundaries text).map fun found =>
        (⟨front ++ found.1.first, found.1.more⟩, found.2) := by
  induction front with
  | nil =>
    rw [List.nil_append]
    cases takeSpan boundaries text <;> rfl
  | cons c front ih =>
    rw [List.mem_cons, not_or] at hl hb
    rw [List.cons_append, takeSpan_char (Ne.symm hb.1) (Ne.symm hl.1), ih hl.2 hb.2]
    cases takeSpan boundaries text <;> rfl

/-- A span in front of a closing brace is read as it was written, if no tag in it is hard. -/
theorem takeSpan_source {span : Span} (hw : span.WellRead)
    (hs : ∀ tag ∈ span.tags, isHard boundaries tag = false) (rest : Text) :
    takeSpan boundaries (span.source ++ '}' :: rest) = .ok (span, rest) := by
  obtain ⟨first, more⟩ := span
  induction more generalizing first with
  | nil =>
    rw [Span.source, List.flatMap_nil, List.append_nil]
    exact takeSpan_append (hw.notMem_lt first List.mem_cons_self)
      (hw.notMem_brace first List.mem_cons_self) boundaries rest
  | cons piece more ih =>
    obtain ⟨hsoft, hsofts⟩ := List.forall_mem_cons.1 hs
    obtain ⟨hl, hb, htag, hinner⟩ := hw.of_cons
    have hcross : ¬ (tagRole piece.1 ≠ .aside ∧ tagName piece.1 ∈ boundaries) := by
      simpa [isHard] using hsoft
    rw [Span.source_cons, List.append_assoc, List.append_assoc, takeSpan_append_text hl hb,
      takeSpan_tag htag, if_neg hcross, ih piece.2 hinner hsofts]
    simp [Except.map, Span.pushTag]

theorem readSpan_source {span : Span} (hw : span.WellRead)
    (hs : ∀ tag ∈ span.tags, isHard boundaries tag = false) (hb : balanced span.tags = true)
    (rest : Text) : readSpan boundaries (span.source ++ '}' :: rest) = .ok (span, rest) := by
  rw [readSpan, takeSpan_source hw hs]
  simp only [hb, ↓reduceIte]

/-! ## Normalizing what was written -/

/-- A text without braces that closes its tags is copied. -/
theorem normalizeFrom_append {front : Text} (h : ClosesTags front) (hb : '{' ∉ front)
    (offset : Nat) (exhausted : Bool) (back : Text) :
    normalizeFrom boundaries offset exhausted (front ++ back) =
      (normalizeFrom boundaries (offset + front.length) exhausted back).behind front := by
  fun_induction markupTags front generalizing offset with
  | case1 => rfl
  | case2 rest tag tail ht ih =>
    have htag := isTag_of_takeTag? ht
    rw [takeTag?_eq_some ht] at h hb ⊢
    have htail := ih ((closesTags_append htag.closesTags).1 h)
      (fun hm => hb (List.mem_append_right _ hm)) (offset + tag.length)
    rw [List.append_assoc, normalizeFrom_tag htag, htail, Normal.behind_behind,
      List.length_append, Nat.add_assoc]
  | case3 rest ht => exact absurd (h [] rest rfl) (notMem_of_takeTag? ht)
  | case4 c rest hc ih =>
    have hl : c ≠ '<' := hc
    rw [List.mem_cons, not_or] at hb
    have hrest := ih ((closesTags_cons hl).1 h) hb.2 (offset + 1)
    rw [List.cons_append, normalizeFrom_char hl (Ne.symm hb.1), hrest, Normal.behind_behind,
      List.length_cons, Nat.add_assoc, Nat.add_comm 1]
    rfl

/-! ## Interrupted texts -/

/-- The text between the braces of a tag of a template: it holds no delimiter but perhaps opening
braces, no blank stands at its ends, and nothing in it is to be decoded. -/
structure IsContent (content : Text) : Prop where
  /-- It opens no markup tag. -/
  notMem_lt : '<' ∉ content
  /-- It does not end the tag. -/
  notMem_brace : '}' ∉ content
  /-- No blank stands in front. -/
  solidHead : SolidHead content
  /-- No blank stands at the end. -/
  solidLast : SolidLast content
  /-- No reference and no typographic quote stands in it. -/
  clean : Clean tagForms content

/-- A span is a text interrupted by tags that can be taken out: at least one, balanced, none of a
hard boundary, and with a single space wherever blanks stand next to one. -/
structure Interrupts (boundaries : List Text) (span : Span) (content : Text) : Prop where
  /-- Without its tags the span is the text. -/
  text_eq : span.text = content
  /-- There is a tag. -/
  tags_ne_nil : span.tags ≠ []
  /-- The tags are complete. -/
  isTag : ∀ tag ∈ span.tags, IsTag tag
  /-- The tags are balanced. -/
  balanced : balanced span.tags = true
  /-- No tag belongs to a hard boundary. -/
  soft : ∀ tag ∈ span.tags, isHard boundaries tag = false
  /-- Blanks that touch a tag are single spaces. -/
  spaced : SpacedAt span.joints content

theorem Interrupts.wellRead {span : Span} {content : Text} (h : Interrupts boundaries span content)
    (hc : IsContent content) : span.WellRead := by
  have hmem {stretch : Text} (hs : stretch ∈ span.stretches) (c : Char) (hm : c ∈ stretch) :
      c ∈ content := h.text_eq ▸ List.mem_flatten.2 ⟨stretch, hs, hm⟩
  exact ⟨fun _ hs hm => hc.notMem_lt (hmem hs _ hm),
    fun _ hs hm => hc.notMem_brace (hmem hs _ hm), h.isTag⟩

/-- Restoring a span that interrupts a text gives the text back. -/
theorem Interrupts.content_eq {span : Span} {content : Text}
    (h : Interrupts boundaries span content) (hc : IsContent content) : span.content = content := by
  have hstrip : strip content = content := by
    rw [strip, stripLeft_eq_self hc.solidHead, stripRight_eq_self hc.solidLast]
  rw [Span.content, Span.joined_eq (by simpa [Span.tags] using h.tags_ne_nil), h.text_eq,
    collapse_eq_self_iff.2 h.spaced, hstrip,
    (replaceEach_eq_self_iff Span.separating_tagForms).2 hc.clean]

/-- **Interruptions do not matter.** However a text is interrupted by tags that can be taken out,
between braces it is normalized to the text; this is reported as one tag that was put together, and
the markup around it, without braces and with its tags closed in front, is copied. -/
theorem normalize_interrupted {before after content : Text} {span : Span}
    (hclose : ClosesTags before) (hbefore : '{' ∉ before) (hafter : '{' ∉ after)
    (hc : IsContent content) (hs : Interrupts boundaries span content) :
    normalize boundaries (before ++ '{' :: (span.source ++ '}' :: after)) =
      { text := before ++ '{' :: (content ++ '}' :: after)
        repaired := 1
        abandoned := 0
        findings :=
          [.repaired before.length ('{' :: (content ++ ['}'])) span.tags.length] } := by
  have hw := hs.wellRead hc
  have hmore : span.more ≠ [] := by simpa [Span.tags] using hs.tags_ne_nil
  rw [normalize_eq_normalizeFrom, normalizeFrom_append hclose hbefore,
    normalizeFrom_span (readSpan_source hw hs.soft hs.balanced after),
    normalizeFrom_of_notMem hafter]
  simp [Normal.behind, Normal.behindSpan, hmore, Span.token_eq, hs.content_eq hc, Span.tags]

/-- A condition over two runs, with a mark of the spell checker between them. -/
theorem normalize_interrupted_condition :
    let span : Span := ⟨"if".toList, [("</r>".toList, []), ("<mark/>".toList, []),
      ("<r>".toList, " $A".toList)]⟩
    ClosesTags "<r>".toList ∧ '{' ∉ "<r>".toList ∧ '{' ∉ "</r>".toList ∧
      IsContent "if $A".toList ∧ Interrupts ["p".toList] span "if $A".toList ∧
      normalize ["p".toList] "<r>\x7bif</r><mark/><r> $A\x7d</r>".toList =
        { text := "<r>\x7bif $A\x7d</r>".toList
          repaired := 1
          abandoned := 0
          findings := [.repaired 3 "\x7bif $A\x7d".toList 3] } := by
  intro span
  have htag (body : Text) (h : '>' ∉ body) : IsTag ('<' :: body ++ ['>']) := ⟨body, rfl, h⟩
  have hclose : ClosesTags "<r>".toList := (htag ['r'] (by decide)).closesTags
  have hcontent : IsContent "if $A".toList :=
    ⟨by decide, by decide, by decide, by decide,
      (replaceEach_eq_self_iff Span.separating_tagForms).1 (by decide +kernel)⟩
  have hs : Interrupts ["p".toList] span "if $A".toList := by
    refine ⟨rfl, by decide, ?_, by decide +kernel, by decide +kernel,
      collapse_eq_self_iff.1 (by decide +kernel)⟩
    simp only [span, Span.tags, List.map_cons, List.map_nil, List.forall_mem_cons]
    exact ⟨htag "/r".toList (by decide), htag "mark/".toList (by decide), htag "r".toList (by decide),
      fun _ hm => absurd hm List.not_mem_nil⟩
  exact ⟨hclose, by decide, by decide, hcontent, hs,
    normalize_interrupted hclose (by decide) (by decide) hcontent hs⟩

end FormLetter
