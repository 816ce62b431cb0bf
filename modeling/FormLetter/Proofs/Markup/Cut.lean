import FormLetter.Proofs.Markup.Passage
import Mathlib.Data.List.Basic

/-!
# Markup cut at its spans

Normalizing changes markup nowhere but between the braces of its spans. Cut at the spans, markup and
its normal form are therefore written in the same way, and differ in how a span is written.

* `ClosesTags`: a text behind which no markup tag is open.
* `Cut`, `Cut.written`: verbatim pieces with spans between them.
* `cut`, `written_source_cut`, `written_content_cut`: markup cut at the spans that normalizing finds.
* `Cut.WellRead`, `wellRead_cut`: no markup tag reaches from a piece into a span.
-/

namespace FormLetter

open Text

/-! ## Texts that close their tags -/

/-- Every `<` of a text has a `>` behind it. -/
def ClosesTags (text : Text) : Prop :=
  ∀ before within, text = before ++ '<' :: within → '>' ∈ within

theorem closesTags_of_notMem {text : Text} (h : '<' ∉ text) : ClosesTags text := by
  rintro before within rfl
  exact absurd (List.mem_append_right _ List.mem_cons_self) h

theorem IsTag.closesTags {tag : Text} (h : IsTag tag) : ClosesTags tag := by
  obtain ⟨body, rfl, -⟩ := h
  intro before within he
  rcases List.eq_nil_or_concat within with rfl | ⟨init, last, rfl⟩
  · obtain ⟨-, hlast⟩ := List.append_inj' he rfl
    cases hlast
  · rw [List.concat_eq_append] at he ⊢
    rw [← List.cons_append, ← List.append_assoc] at he
    obtain ⟨-, hlast⟩ := List.append_inj' he rfl
    cases hlast
    exact List.mem_append_right _ List.mem_cons_self

/-- Behind a text that closes its tags only the text that follows matters. -/
theorem closesTags_append {front back : Text} (h : ClosesTags front) :
    ClosesTags (front ++ back) ↔ ClosesTags back := by
  constructor
  · rintro hb before within rfl
    exact hb (front ++ before) within (List.append_assoc _ _ _).symm
  · intro hb before within he
    rcases List.append_eq_append_iff.1 he with ⟨middle, rfl, hm⟩ | ⟨middle, hf, hm⟩
    · exact hb middle within hm
    · cases middle with
      | nil => exact hb [] within hm.symm
      | cons c middle =>
        obtain ⟨rfl, rfl⟩ := List.cons.inj hm
        exact List.mem_append_left _ (h before middle hf)

theorem closesTags_singleton {c : Char} (hc : c ≠ '<') : ClosesTags [c] :=
  closesTags_of_notMem (by simpa using hc.symm)

theorem closesTags_cons {c : Char} {text : Text} (hc : c ≠ '<') :
    ClosesTags (c :: text) ↔ ClosesTags text :=
  closesTags_append (closesTags_singleton hc)

/-- A span closes its tags. -/
theorem Span.WellRead.closesTags {span : Span} (h : span.WellRead) : ClosesTags span.source := by
  obtain ⟨first, more⟩ := span
  induction more generalizing first with
  | nil =>
    rw [source, List.flatMap_nil, List.append_nil]
    exact closesTags_of_notMem (h.notMem_lt first List.mem_cons_self)
  | cons piece more ih =>
    obtain ⟨hfirst, -, htag, hw⟩ := h.of_cons
    rw [source_cons, closesTags_append (closesTags_of_notMem hfirst),
      closesTags_append htag.closesTags]
    exact ih piece.2 hw

/-- So does a span in its braces. -/
theorem Span.WellRead.closesTags_braces {span : Span} (h : span.WellRead) :
    ClosesTags ('{' :: (span.source ++ ['}'])) := by
  rw [closesTags_cons (by decide), closesTags_append h.closesTags]
  exact closesTags_of_notMem (by decide)

/-! ## Cuts -/

/-- Markup cut at spans. -/
structure Cut where
  /-- The markup in front of the first span. -/
  first : Text
  /-- Each span with the markup that follows it, up to the next span. -/
  more : List (Span × Text)
  deriving Repr, DecidableEq

namespace Cut

/-- The spans of a cut, in order. -/
def spans (cut : Cut) : List Span := cut.more.map (·.1)

/-- The markup of a cut with each span written in some way, in its braces. -/
def written (cut : Cut) (write : Span → Text) : Text :=
  cut.first ++ cut.more.flatMap fun item => '{' :: (write item.1 ++ '}' :: item.2)

/-- A cut behind a piece of verbatim markup. -/
def behind (piece : Text) (cut : Cut) : Cut := { cut with first := piece ++ cut.first }

/-- A cut behind a span. -/
def behindSpan (span : Span) (cut : Cut) : Cut := ⟨[], (span, cut.first) :: cut.more⟩

@[simp] theorem spans_behind (piece : Text) (cut : Cut) : (cut.behind piece).spans = cut.spans :=
  rfl

@[simp] theorem spans_behindSpan (span : Span) (cut : Cut) :
    (cut.behindSpan span).spans = span :: cut.spans := rfl

@[simp] theorem written_behind (piece : Text) (cut : Cut) (write : Span → Text) :
    (cut.behind piece).written write = piece ++ cut.written write :=
  List.append_assoc _ _ _

@[simp] theorem written_behindSpan (span : Span) (cut : Cut) (write : Span → Text) :
    (cut.behindSpan span).written write =
      '{' :: (write span ++ '}' :: cut.written write) := by
  simp [written, behindSpan]

theorem written_congr {cut : Cut} {write other : Span → Text}
    (h : ∀ span ∈ cut.spans, write span = other span) : cut.written write = cut.written other := by
  refine congrArg (cut.first ++ ·) (List.flatMap_congr fun item hi => ?_)
  rw [h item.1 (List.mem_map_of_mem hi)]

/-- The spans of a cut were read from markup, and each verbatim piece in front of a span closes its
tags. -/
structure WellRead (cut : Cut) : Prop where
  /-- The spans were read from markup. -/
  spans : ∀ span ∈ cut.spans, span.WellRead
  /-- The pieces in front of spans close their tags. -/
  pieces : ∀ piece ∈ (cut.first :: cut.more.map (·.2)).dropLast, ClosesTags piece

theorem WellRead.behind {cut : Cut} (h : cut.WellRead) {piece : Text} (hp : ClosesTags piece) :
    (cut.behind piece).WellRead := by
  refine ⟨h.spans, ?_⟩
  have hpieces := h.pieces
  rcases hmore : cut.more with _ | ⟨item, more⟩
  · simp [Cut.behind, hmore]
  · rw [hmore, List.map_cons, List.dropLast_cons_cons] at hpieces
    obtain ⟨hfirst, hrest⟩ := List.forall_mem_cons.1 hpieces
    rw [Cut.behind, hmore, List.map_cons, List.dropLast_cons_cons]
    exact List.forall_mem_cons.2 ⟨(closesTags_append hp).2 hfirst, hrest⟩

theorem WellRead.behindSpan {cut : Cut} (h : cut.WellRead) {span : Span} (hs : span.WellRead) :
    (cut.behindSpan span).WellRead := by
  refine ⟨List.forall_mem_cons.2 ⟨hs, h.spans⟩, ?_⟩
  rw [Cut.behindSpan, List.map_cons, List.dropLast_cons_cons]
  exact List.forall_mem_cons.2 ⟨closesTags_of_notMem List.not_mem_nil, h.pieces⟩

/-- The cut of passages at the spans among them. -/
def ofPassages : List Passage → Cut
  | [] => ⟨[], []⟩
  | .span span :: passages => (ofPassages passages).behindSpan span
  | passage :: passages => (ofPassages passages).behind passage.source

theorem mem_spans_ofPassages {passages : List Passage} {span : Span} :
    span ∈ (ofPassages passages).spans ↔ .span span ∈ passages := by
  induction passages with
  | nil => simp [ofPassages, spans]
  | cons passage passages ih =>
    cases passage <;> simp [ofPassages, ih]

theorem written_source_ofPassages (passages : List Passage) :
    (ofPassages passages).written Span.source = Passage.sources passages := by
  induction passages with
  | nil => rfl
  | cons passage passages ih =>
    cases passage <;> simp [ofPassages, Passage.source, ih]

theorem written_content_ofPassages (passages : List Passage) :
    (ofPassages passages).written Span.content = Passage.normals passages := by
  induction passages with
  | nil => rfl
  | cons passage passages ih =>
    cases passage <;> simp [ofPassages, Passage.normal, Passage.source, Span.token_eq, ih]

end Cut

/-! ## The cut of markup -/

section

variable {boundaries : List Text}

/-- The markup that starts here, cut at its spans; once `exhausted` holds there are none. -/
def cutFrom (boundaries : List Text) (exhausted : Bool) (text : Text) : Cut :=
  Cut.ofPassages (passagesFrom boundaries exhausted text)

/-- Markup cut at its spans. -/
def cut (boundaries : List Text) (markup : Text) : Cut := cutFrom boundaries false markup

theorem cutFrom_nil (exhausted : Bool) : cutFrom boundaries exhausted [] = ⟨[], []⟩ := by
  simp [cutFrom, passagesFrom, Cut.ofPassages]

theorem cutFrom_tag {tag : Text} (h : IsTag tag) (exhausted : Bool) (tail : Text) :
    cutFrom boundaries exhausted (tag ++ tail) =
      (cutFrom boundaries exhausted tail).behind tag := by
  rw [cutFrom, passagesFrom_tag h]
  rfl

theorem cutFrom_remainder {rest : Text} (h : takeTag? rest = none) (exhausted : Bool) :
    cutFrom boundaries exhausted ('<' :: rest) = ⟨'<' :: rest, []⟩ := by
  simp [cutFrom, passagesFrom_remainder h, Cut.ofPassages, Cut.behind, Passage.source]

theorem cutFrom_span {rest : Text} {span : Span} {tail : Text}
    (h : readSpan boundaries rest = .ok (span, tail)) :
    cutFrom boundaries false ('{' :: rest) = (cutFrom boundaries false tail).behindSpan span := by
  rw [cutFrom, passagesFrom_span h]
  rfl

theorem cutFrom_brace {rest : Text} {reason : Abandonment}
    (h : readSpan boundaries rest = .error reason) :
    cutFrom boundaries false ('{' :: rest) =
      (cutFrom boundaries reason.isFinal rest).behind ['{'] := by
  rw [cutFrom, passagesFrom_brace h]
  rfl

theorem cutFrom_exhausted (rest : Text) :
    cutFrom boundaries true ('{' :: rest) = (cutFrom boundaries true rest).behind ['{'] := by
  rw [cutFrom, passagesFrom, if_pos rfl]
  rfl

theorem cutFrom_char {c : Char} (hl : c ≠ '<') (hb : c ≠ '{') (exhausted : Bool) (rest : Text) :
    cutFrom boundaries exhausted (c :: rest) = (cutFrom boundaries exhausted rest).behind [c] := by
  rw [cutFrom, passagesFrom_char hl hb]
  rfl

/-- The spans as they are written give the markup back. -/
theorem written_source_cut (markup : Text) :
    (cut boundaries markup).written Span.source = markup := by
  rw [cut, cutFrom, Cut.written_source_ofPassages, sources_passagesFrom]

/-- The contents of the tokens in place of the spans give its normal form. -/
theorem written_content_cut (markup : Text) :
    (cut boundaries markup).written Span.content = (normalize boundaries markup).text := by
  rw [cut, cutFrom, Cut.written_content_ofPassages, ← passages, text_normalize]

/-- Normalizing reads pieces and spans one behind the other, so none ends inside a markup tag. -/
theorem wellRead_cutFrom (exhausted : Bool) (text : Text) :
    (cutFrom boundaries exhausted text).WellRead := by
  fun_induction passagesFrom boundaries exhausted text with
  | case1 exhausted =>
    rw [cutFrom_nil]
    exact ⟨by simp [Cut.spans], by simp⟩
  | case2 exhausted rest h =>
    rw [cutFrom_remainder h]
    exact ⟨by simp [Cut.spans], by simp⟩
  | case3 exhausted rest tag tail h ih =>
    have htag := isTag_of_takeTag? h
    rw [takeTag?_eq_some h, cutFrom_tag htag]
    exact ih.behind htag.closesTags
  | case4 rest ih =>
    rw [cutFrom_exhausted]
    exact ih.behind (closesTags_singleton (by decide))
  | case5 exhausted rest he span tail h ih =>
    rw [Bool.not_eq_true] at he
    subst he
    rw [cutFrom_span h]
    exact ih.behindSpan (takeSpan_wellRead (readSpan_takeSpan h).1)
  | case6 exhausted rest he reason h ih =>
    rw [Bool.not_eq_true] at he
    subst he
    rw [cutFrom_brace h]
    exact ih.behind (closesTags_singleton (by decide))
  | case7 exhausted c rest hl hb ih =>
    rw [cutFrom_char hl hb]
    exact ih.behind (closesTags_singleton hl)

theorem wellRead_cut (boundaries : List Text) (markup : Text) : (cut boundaries markup).WellRead :=
  wellRead_cutFrom false markup

/-- The spans of a cut can be read. -/
theorem exists_readSpan_of_mem_spans {exhausted : Bool} {text : Text} {span : Span}
    (h : span ∈ (cutFrom boundaries exhausted text).spans) :
    ∃ rest tail, readSpan boundaries rest = .ok (span, tail) := by
  rw [cutFrom, Cut.mem_spans_ofPassages] at h
  fun_induction passagesFrom boundaries exhausted text with
  | case1 => cases h
  | case2 => simp at h
  | case3 exhausted rest tag tail _ ih => exact ih (by simpa using h)
  | case4 rest ih => exact ih (by simpa using h)
  | case5 exhausted rest he found tail hr ih =>
    rcases List.mem_cons.1 h with h | h
    · cases h
      exact ⟨rest, tail, hr⟩
    · exact ih h
  | case6 exhausted rest he reason _ ih => exact ih (by simpa using h)
  | case7 exhausted c rest _ _ ih => exact ih (by simpa using h)

/-- The spans that hold markup tags are the tokens that were put together. -/
theorem repaired_normalizeFrom (offset : Nat) (exhausted : Bool) (text : Text) :
    (normalizeFrom boundaries offset exhausted text).repaired =
      (cutFrom boundaries exhausted text).spans.countP fun span => span.tags ≠ [] := by
  fun_induction normalizeFrom boundaries offset exhausted text with
  | case1 =>
    rw [cutFrom_nil]
    rfl
  | case2 offset exhausted rest h =>
    rw [cutFrom_remainder h]
    rfl
  | case3 offset exhausted rest tag tail h ih =>
    rw [takeTag?_eq_some h, cutFrom_tag (isTag_of_takeTag? h)]
    exact ih
  | case4 offset rest ih =>
    rw [cutFrom_exhausted]
    exact ih
  | case5 offset exhausted rest he span tail h ih =>
    rw [Bool.not_eq_true] at he
    subst he
    rw [cutFrom_span h, Cut.spans_behindSpan, List.countP_cons, ← ih]
    by_cases hm : span.more = [] <;> simp [Normal.behindSpan, Span.tags, hm]
  | case6 offset exhausted rest he reason h ih =>
    rw [Bool.not_eq_true] at he
    subst he
    rw [cutFrom_brace h]
    exact ih
  | case7 offset exhausted c rest hl hb ih =>
    rw [cutFrom_char hl hb]
    exact ih

theorem repaired_normalize (markup : Text) :
    (normalize boundaries markup).repaired =
      (cut boundaries markup).spans.countP fun span => span.tags ≠ [] := by
  rw [normalize_eq_normalizeFrom]
  exact repaired_normalizeFrom 0 false markup

end

end FormLetter
