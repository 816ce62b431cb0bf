import FormLetter.Proofs.Markup.Cut
import FormLetter.Proofs.Markup.Joint
import FormLetter.Proofs.Text.Simultaneous

/-!
# What normalizing does to markup

Normal markup is the markup with its spans restored, and everything else as it was. Each opening
brace in text position either opens a span, stands inside one, or is left alone.

* `Span.restored`, `Span.content_eq_restored`: what stands between the braces of a token, said of the
  whole text of the span at once.
* `BraceInText`: an opening brace in text position.
* `Cut.Covers`, `Cut.LeavesAlone`: positions inside spans, and braces at all other positions.
* `mem_abandonedAt_normalizeFrom`: the braces that are reported as left alone.
* `restored_normalize`: the whole account.
-/

namespace FormLetter

open Text

/-! ## Restored spans -/

namespace Span

/-- The text of a span as it stands in a token. If the span holds tags, each run of blanks that
touches one becomes a space and both ends are stripped; then references and typographic quotes are
decoded. -/
def restored (span : Span) : Text :=
  replaceAtOnce tagForms
    (if span.tags = [] then span.text else strip (collapse span.joints 0 span.text))

theorem independent_tagForms : Independent tagForms := by
  decide +kernel

theorem text_of_more_eq_nil {span : Span} (h : span.more = []) :
    span.text = span.first ∧ span.source = span.first := by
  simp [text, stretches, source, h]

/-- The content of the token of a span is its restored text. -/
theorem content_eq_restored (span : Span) : span.content = span.restored := by
  rw [content, restored, replaceEach_eq_replaceAtOnce independent_tagForms]
  by_cases h : span.more = []
  · rw [if_pos (by rw [tags, h]; rfl), joined, if_pos h, (text_of_more_eq_nil h).1]
  · rw [if_neg (by simpa [tags] using h), joined_eq h]

/-- A span without tags and without anything to decode stays as it is. -/
theorem restored_eq_source {span : Span} (ht : span.tags = []) (hc : Clean tagForms span.text) :
    span.restored = span.source := by
  obtain ⟨htext, hsource⟩ := text_of_more_eq_nil (List.map_eq_nil_iff.1 ht)
  rw [restored, if_pos ht, ← replaceEach_eq_replaceAtOnce independent_tagForms,
    (replaceEach_eq_self_iff separating_tagForms).2 hc, htext, hsource]

end Span

/-! ## Braces in text position -/

/-- An opening brace stands at a position where every `<` before it has its `>`: outside complete
markup tags, and before any `<` that never ends. -/
def BraceInText (text : Text) (position : Nat) : Prop :=
  ∃ front rest, text = front ++ '{' :: rest ∧ position = front.length ∧ ClosesTags front

section

variable {text front back : Text} {position : Nat}

theorem BraceInText.lt_length (h : BraceInText text position) : position < text.length := by
  obtain ⟨front, rest, rfl, rfl, -⟩ := h
  simp

theorem not_braceInText_of_notMem (h : '{' ∉ text) : ¬ BraceInText text position := by
  rintro ⟨front, rest, rfl, -, -⟩
  exact h (List.mem_append_right _ List.mem_cons_self)

theorem braceInText_singleton : BraceInText ['{'] position ↔ position = 0 := by
  constructor
  · intro h
    exact Nat.lt_one_iff.1 h.lt_length
  · rintro rfl
    exact ⟨[], [], rfl, rfl, closesTags_of_notMem List.not_mem_nil⟩

/-- A `<` that never ends has no brace in text position behind it. -/
theorem not_braceInText_remainder (h : '>' ∉ text) : ¬ BraceInText ('<' :: text) position := by
  rintro ⟨front, rest, he, -, hclose⟩
  cases front with
  | nil => cases he
  | cons c front =>
    obtain ⟨rfl, rfl⟩ := List.cons.inj he
    exact h (List.mem_append_left _ (hclose [] front rfl))

/-- Nor has a markup tag in it. -/
theorem IsTag.not_braceInText (h : IsTag text) : ¬ BraceInText text position := by
  obtain ⟨body, rfl, hbody⟩ := h
  rintro ⟨front, rest, he, -, hclose⟩
  cases front with
  | nil => cases he
  | cons c front =>
    obtain ⟨rfl, hbrace⟩ : '<' = c ∧ body ++ ['>'] = front ++ '{' :: rest := List.cons.inj he
    -- The last character of the tag is behind the brace, so what is before it is in the body.
    obtain ⟨middle, hmiddle⟩ : ∃ middle, body = front ++ middle := by
      rcases List.append_eq_append_iff.1 hbrace with ⟨middle, rfl, hm⟩ | ⟨middle, rfl, -⟩
      · cases middle with
        | nil => exact ⟨[], by simp⟩
        | cons d middle => simp_all
      · exact ⟨middle, rfl⟩
    exact hbody (hmiddle ▸ List.mem_append_left _ (hclose [] front rfl))

/-- The braces of a text and, if it closes its tags, of what follows it. -/
theorem braceInText_append (h : ClosesTags front) :
    BraceInText (front ++ back) position ↔
      BraceInText front position ∨
        ∃ offset, position = front.length + offset ∧ BraceInText back offset := by
  constructor
  · rintro ⟨before, rest, he, rfl, hclose⟩
    rcases List.append_eq_append_iff.1 he with ⟨middle, rfl, hm⟩ | ⟨middle, rfl, hm⟩
    · exact Or.inr ⟨middle.length, List.length_append, middle, rest, hm, rfl,
        (closesTags_append h).1 hclose⟩
    · cases middle with
      | nil =>
        rw [List.append_nil] at h ⊢
        exact Or.inr ⟨0, rfl, [], rest, hm.symm, rfl, closesTags_of_notMem List.not_mem_nil⟩
      | cons d middle =>
        obtain ⟨rfl, rfl⟩ := List.cons.inj hm
        exact Or.inl ⟨before, middle, rfl, rfl, hclose⟩
  · rintro (⟨before, rest, rfl, rfl, hclose⟩ | ⟨_, rfl, before, rest, rfl, rfl, hclose⟩)
    · exact ⟨before, rest ++ back, by simp, rfl, hclose⟩
    · exact ⟨front ++ before, rest, (List.append_assoc _ _ _).symm, List.length_append.symm,
        (closesTags_append h).2 hclose⟩

end

/-! ## Positions of a cut -/

namespace Cut

/-- A position of the markup lies between the braces of a span, or holds one of them. -/
def Covers (cut : Cut) (position : Nat) : Prop :=
  ∃ front span text back, cut.more = front ++ (span, text) :: back ∧
    ((⟨cut.first, front⟩ : Cut).written Span.source).length ≤ position ∧
    position < ((⟨cut.first, front⟩ : Cut).written Span.source).length + span.source.length + 2

/-- An opening brace in text position that no span covers. -/
def LeavesAlone (cut : Cut) (markup : Text) (position : Nat) : Prop :=
  BraceInText markup position ∧ ¬ cut.Covers position

variable {cut : Cut} {piece back : Text} {span : Span} {position : Nat}

theorem covers_behind :
    (cut.behind piece).Covers position ↔
      ∃ offset, position = piece.length + offset ∧ cut.Covers offset := by
  have hlen (front : List (Span × Text)) :
      ((⟨piece ++ cut.first, front⟩ : Cut).written Span.source).length =
        piece.length + ((⟨cut.first, front⟩ : Cut).written Span.source).length := by
    rw [show (⟨piece ++ cut.first, front⟩ : Cut) = (⟨cut.first, front⟩ : Cut).behind piece from rfl,
      written_behind, List.length_append]
  constructor
  · rintro ⟨front, inner, text, more, he, h1, h2⟩
    rw [behind, hlen] at h1 h2
    exact ⟨position - piece.length, by omega, front, inner, text, more, he, by omega, by omega⟩
  · rintro ⟨offset, rfl, front, inner, text, more, he, h1, h2⟩
    refine ⟨front, inner, text, more, he, ?_, ?_⟩
    · rw [behind, hlen]
      omega
    · rw [behind, hlen]
      omega

theorem covers_behindSpan :
    (cut.behindSpan span).Covers position ↔
      position < span.source.length + 2 ∨
        ∃ offset, position = span.source.length + 2 + offset ∧ cut.Covers offset := by
  have hlen (front : List (Span × Text)) :
      ((⟨[], (span, cut.first) :: front⟩ : Cut).written Span.source).length =
        span.source.length + 2 + ((⟨cut.first, front⟩ : Cut).written Span.source).length := by
    rw [show (⟨[], (span, cut.first) :: front⟩ : Cut) =
      (⟨cut.first, front⟩ : Cut).behindSpan span from rfl, written_behindSpan]
    simp only [List.length_cons, List.length_append]
    omega
  constructor
  · rintro ⟨front, inner, text, more, he, h1, h2⟩
    cases front with
    | nil =>
      cases he
      exact Or.inl (by simpa [written, behindSpan] using h2)
    | cons item front =>
      obtain ⟨rfl, hmore⟩ :
          (span, cut.first) = item ∧ cut.more = front ++ (inner, text) :: more := List.cons.inj he
      rw [behindSpan, hlen] at h1 h2
      exact Or.inr ⟨position - (span.source.length + 2), by omega, front, inner, text, more, hmore,
        by omega, by omega⟩
  · rintro (h | ⟨offset, rfl, front, inner, text, more, he, h1, h2⟩)
    · exact ⟨[], span, cut.first, cut.more, rfl, Nat.zero_le _, by simpa [written, behindSpan]⟩
    · refine ⟨(span, cut.first) :: front, inner, text, more, by rw [behindSpan, he]; rfl, ?_, ?_⟩
      · rw [behindSpan, hlen]
        omega
      · rw [behindSpan, hlen]
        omega

/-- A piece leaves its own braces alone. -/
theorem leavesAlone_behind (h : ClosesTags piece) :
    (cut.behind piece).LeavesAlone (piece ++ back) position ↔
      BraceInText piece position ∨
        ∃ offset, position = piece.length + offset ∧ cut.LeavesAlone back offset := by
  unfold LeavesAlone
  rw [braceInText_append h, covers_behind]
  constructor
  · rintro ⟨hb | ⟨offset, rfl, hb⟩, hc⟩
    · exact Or.inl hb
    · exact Or.inr ⟨offset, rfl, hb, fun h => hc ⟨offset, rfl, h⟩⟩
  · rintro (hb | ⟨offset, rfl, hb, hc⟩)
    · refine ⟨Or.inl hb, ?_⟩
      rintro ⟨offset, rfl, -⟩
      have := hb.lt_length
      omega
    · refine ⟨Or.inr ⟨offset, rfl, hb⟩, ?_⟩
      rintro ⟨other, ho, h⟩
      exact hc (Nat.add_left_cancel ho ▸ h)

/-- A span leaves no brace alone. -/
theorem leavesAlone_behindSpan (h : span.WellRead) :
    (cut.behindSpan span).LeavesAlone ('{' :: (span.source ++ '}' :: back)) position ↔
      ∃ offset, position = span.source.length + 2 + offset ∧ cut.LeavesAlone back offset := by
  have hsplit : '{' :: (span.source ++ '}' :: back) = '{' :: (span.source ++ ['}']) ++ back := by
    simp
  have hlen : ('{' :: (span.source ++ ['}'])).length = span.source.length + 2 := by
    simp
  unfold LeavesAlone
  rw [hsplit, braceInText_append h.closesTags_braces, covers_behindSpan, hlen]
  constructor
  · rintro ⟨hb | ⟨offset, rfl, hb⟩, hc⟩
    · exact absurd (Or.inl (hlen ▸ hb.lt_length)) hc
    · exact ⟨offset, rfl, hb, fun h => hc (Or.inr ⟨offset, rfl, h⟩)⟩
  · rintro ⟨offset, rfl, hb, hc⟩
    refine ⟨Or.inr ⟨offset, rfl, hb⟩, ?_⟩
    rintro (hlt | ⟨other, ho, h⟩)
    · omega
    · exact hc (Nat.add_left_cancel ho ▸ h)

end Cut

/-! ## Braces that are left alone -/

/-- The position of a brace that is reported as left alone. -/
def Finding.abandonedAt? : Finding → Option Nat
  | .abandoned offset _ => some offset
  | _ => none

/-- The positions of the braces that are reported as left alone, in order. -/
def Normal.abandonedAt (normal : Normal) : List Nat :=
  normal.findings.filterMap Finding.abandonedAt?

namespace Normal

@[simp] theorem abandonedAt_behind (piece : Text) (normal : Normal) :
    (normal.behind piece).abandonedAt = normal.abandonedAt := rfl

@[simp] theorem abandonedAt_behindBrace (offset : Nat) (reason : Abandonment) (normal : Normal) :
    (normal.behindBrace offset reason).abandonedAt = offset :: normal.abandonedAt := rfl

@[simp] theorem abandonedAt_behindSpan (offset : Nat) (span : Span) (normal : Normal) :
    (normal.behindSpan offset span).abandonedAt = normal.abandonedAt := by
  unfold abandonedAt behindSpan
  split
  · rfl
  · exact List.filterMap_cons_none rfl

end Normal

section

variable {boundaries : List Text}

/-- A verbatim piece without braces in text position is passed over. -/
theorem mem_abandonedAt_behind {positions : List Nat} {cut : Cut} {piece back : Text}
    {offset position : Nat} (hp : ClosesTags piece) (hb : ∀ index, ¬ BraceInText piece index)
    (h : position ∈ positions ↔
      ∃ index, position = offset + piece.length + index ∧ cut.LeavesAlone back index) :
    position ∈ positions ↔
      ∃ index, position = offset + index ∧ (cut.behind piece).LeavesAlone (piece ++ back) index := by
  rw [h]
  constructor
  · rintro ⟨index, rfl, hi⟩
    exact ⟨piece.length + index, Nat.add_assoc _ _ _,
      (Cut.leavesAlone_behind hp).2 (Or.inr ⟨index, rfl, hi⟩)⟩
  · rintro ⟨index, rfl, hi⟩
    obtain ⟨more, rfl, hm⟩ := ((Cut.leavesAlone_behind hp).1 hi).resolve_left (hb index)
    exact ⟨more, (Nat.add_assoc _ _ _).symm, hm⟩

/-- A brace that is left alone is the first of those that follow it. -/
theorem mem_abandonedAt_behindBrace {positions : List Nat} {cut : Cut} {back : Text}
    {offset position : Nat}
    (h : position ∈ positions ↔
      ∃ index, position = offset + 1 + index ∧ cut.LeavesAlone back index) :
    position ∈ offset :: positions ↔
      ∃ index, position = offset + index ∧ (cut.behind ['{']).LeavesAlone ('{' :: back) index := by
  have hbrace (index : Nat) : (cut.behind ['{']).LeavesAlone ('{' :: back) index ↔
      index = 0 ∨ ∃ more, index = 1 + more ∧ cut.LeavesAlone back more := by
    have hclose : ClosesTags ['{'] := closesTags_singleton (by decide)
    rw [← braceInText_singleton]
    exact Cut.leavesAlone_behind hclose
  simp only [List.mem_cons, h, hbrace]
  constructor
  · rintro (rfl | ⟨more, rfl, hm⟩)
    · exact ⟨0, rfl, Or.inl rfl⟩
    · exact ⟨1 + more, Nat.add_assoc _ _ _, Or.inr ⟨more, rfl, hm⟩⟩
  · rintro ⟨index, rfl, rfl | ⟨more, rfl, hm⟩⟩
    · exact Or.inl rfl
    · exact Or.inr ⟨more, (Nat.add_assoc _ _ _).symm, hm⟩

/-- The braces that are reported as left alone are those in text position outside all spans. -/
theorem mem_abandonedAt_normalizeFrom (boundaries : List Text) (offset : Nat) (exhausted : Bool)
    (text : Text) (position : Nat) :
    position ∈ (normalizeFrom boundaries offset exhausted text).abandonedAt ↔
      ∃ index, position = offset + index ∧
        (cutFrom boundaries exhausted text).LeavesAlone text index := by
  fun_induction normalizeFrom boundaries offset exhausted text with
  | case1 =>
    refine iff_of_false List.not_mem_nil ?_
    rintro ⟨index, -, hb, -⟩
    exact absurd hb.lt_length (Nat.not_lt_zero _)
  | case2 offset exhausted rest h =>
    refine iff_of_false List.not_mem_nil ?_
    rintro ⟨index, -, hb, -⟩
    exact not_braceInText_remainder (notMem_of_takeTag? h) hb
  | case3 offset exhausted rest tag tail h ih =>
    have htag := isTag_of_takeTag? h
    rw [takeTag?_eq_some h, cutFrom_tag htag, Normal.abandonedAt_behind]
    exact mem_abandonedAt_behind htag.closesTags (fun _ => htag.not_braceInText) ih
  | case4 offset rest ih =>
    rw [cutFrom_exhausted, Normal.abandonedAt_behindBrace]
    exact mem_abandonedAt_behindBrace ih
  | case5 offset exhausted rest he span tail h ih =>
    rw [Bool.not_eq_true] at he
    subst he
    have hw := takeSpan_wellRead (readSpan_takeSpan h).1
    rw [cutFrom_span h, Normal.abandonedAt_behindSpan, ih, readSpan_eq_ok h]
    simp only [Cut.leavesAlone_behindSpan hw]
    constructor
    · rintro ⟨index, rfl, hi⟩
      exact ⟨span.source.length + 2 + index, by omega, index, rfl, hi⟩
    · rintro ⟨_, rfl, index, rfl, hi⟩
      exact ⟨index, by omega, hi⟩
  | case6 offset exhausted rest he reason h ih =>
    rw [Bool.not_eq_true] at he
    subst he
    rw [cutFrom_brace h, Normal.abandonedAt_behindBrace]
    exact mem_abandonedAt_behindBrace ih
  | case7 offset exhausted c rest hl hb ih =>
    have hl : c ≠ '<' := hl
    have hb : c ≠ '{' := hb
    rw [cutFrom_char hl hb, Normal.abandonedAt_behind]
    have hnone (index : Nat) : ¬ BraceInText [c] index :=
      not_braceInText_of_notMem (by simpa using hb.symm)
    exact mem_abandonedAt_behind (closesTags_singleton hl) hnone ih

theorem le_of_mem_abandonedAt {offset position : Nat} {exhausted : Bool} {text : Text}
    (h : position ∈ (normalizeFrom boundaries offset exhausted text).abandonedAt) :
    offset ≤ position := by
  obtain ⟨index, rfl, -⟩ := (mem_abandonedAt_normalizeFrom _ _ _ _ _).1 h
  exact Nat.le_add_right _ _

/-- Each brace that is left alone is reported once, in order. -/
theorem abandonedAt_sorted (boundaries : List Text) (offset : Nat) (exhausted : Bool) (text : Text) :
    (normalizeFrom boundaries offset exhausted text).abandonedAt.Pairwise (· < ·) ∧
      (normalizeFrom boundaries offset exhausted text).abandonedAt.length =
        (normalizeFrom boundaries offset exhausted text).abandoned := by
  fun_induction normalizeFrom boundaries offset exhausted text with
  | case1 => exact ⟨.nil, rfl⟩
  | case2 => exact ⟨.nil, rfl⟩
  | case3 offset exhausted rest tag tail h ih => exact ih
  | case4 offset rest ih =>
    rw [Normal.abandonedAt_behindBrace]
    exact ⟨List.pairwise_cons.2 ⟨fun _ hm => le_of_mem_abandonedAt hm, ih.1⟩,
      congrArg (· + 1) ih.2⟩
  | case5 offset exhausted rest he span tail h ih =>
    rw [Normal.abandonedAt_behindSpan]
    exact ih
  | case6 offset exhausted rest he reason h ih =>
    rw [Normal.abandonedAt_behindBrace]
    exact ⟨List.pairwise_cons.2 ⟨fun _ hm => le_of_mem_abandonedAt hm, ih.1⟩,
      congrArg (· + 1) ih.2⟩
  | case7 offset exhausted c rest hl hb ih => exact ih

end

/-! ## The whole account -/

/-- **What is changed.** Markup can be cut at spans, each in its braces, so that normal markup is the
same cut with the spans restored. A span without tags and forms stays as it is; the spans with tags
are the tokens that were put together; and the braces in text position that no span covers are those
that were left alone. -/
theorem restored_normalize (boundaries : List Text) (markup : Text) :
    let normal := normalize boundaries markup
    ∃ cut : Cut,
      cut.written Span.source = markup ∧ cut.written Span.restored = normal.text ∧
      (∀ span ∈ cut.spans, span.WellRead ∧
        (span.tags = [] → Clean tagForms span.text → span.restored = span.source)) ∧
      normal.repaired = cut.spans.countP (fun span => span.tags ≠ []) ∧
      ∃ positions : List Nat, positions.Pairwise (· < ·) ∧ positions.length = normal.abandoned ∧
        ∀ position, position ∈ positions ↔
          BraceInText markup position ∧ ¬ cut.Covers position := by
  intro normal
  have hsteps : normalizeFrom boundaries 0 false markup = normal :=
    (normalize_eq_normalizeFrom boundaries markup).symm
  have hnormal : (cut boundaries markup).written Span.restored = normal.text := by
    rw [← written_content_cut markup]
    exact Cut.written_congr fun span _ => span.content_eq_restored.symm
  obtain ⟨hsorted, hlength⟩ := abandonedAt_sorted boundaries 0 false markup
  rw [hsteps] at hsorted hlength
  refine ⟨cut boundaries markup, written_source_cut markup, hnormal, fun span hs => ?_,
    repaired_normalize markup, normal.abandonedAt, hsorted, hlength, fun position => ?_⟩
  · exact ⟨(wellRead_cut boundaries markup).spans span hs, Span.restored_eq_source⟩
  · have h := mem_abandonedAt_normalizeFrom boundaries 0 false markup position
    simp only [hsteps, Nat.zero_add, exists_eq_left'] at h
    exact h

end FormLetter
