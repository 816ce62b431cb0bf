import FormLetter.Proofs.Markup.Cut

/-!
# Element nesting

A span that becomes a token loses its markup tags. They may close elements that were opened long
before the span, if they open the same elements again behind it; so taking them out leaves the open
elements everywhere else as they were.

* `markupTags`: the markup tags of a text.
* `eq_of_balanced`: balanced tags leave any stack of open elements as it is.
* `markupTags_written`: the tags of a cut.
* `nesting_normalize`: what normalizing does to the tags of markup.
-/

namespace FormLetter

open Text

/-! ## The tags of markup -/

/-- The complete markup tags of a text, in order. -/
def markupTags (text : Text) : List Text :=
  match text with
  | [] => []
  | '<' :: rest =>
    match _h : takeTag? rest with
    | some (tag, tail) => tag :: markupTags tail
    | none => []
  | _ :: rest => markupTags rest
  termination_by text.length
  decreasing_by
    · have := length_takeTag?_lt _h
      simp only [List.length_cons]
      omega
    · simp

theorem markupTags_nil : markupTags [] = [] := by
  rw [markupTags]

theorem markupTags_tag {tag : Text} (h : IsTag tag) (tail : Text) :
    markupTags (tag ++ tail) = tag :: markupTags tail := by
  obtain ⟨rest, he, ht⟩ := h.exists_takeTag? tail
  rw [he, markupTags]
  split <;> simp_all

theorem markupTags_cons {c : Char} (hc : c ≠ '<') (rest : Text) :
    markupTags (c :: rest) = markupTags rest := by
  rw [markupTags]
  exact hc

theorem markupTags_of_notMem {text : Text} (h : '<' ∉ text) : markupTags text = [] := by
  induction text with
  | nil => exact markupTags_nil
  | cons c rest ih =>
    rw [List.mem_cons, not_or] at h
    rw [markupTags_cons (Ne.symm h.1), ih h.2]

/-- A text that closes its tags shares none with the text behind it. -/
theorem markupTags_append {front : Text} (h : ClosesTags front) (back : Text) :
    markupTags (front ++ back) = markupTags front ++ markupTags back := by
  fun_induction markupTags front with
  | case1 => rfl
  | case2 rest tag tail ht ih =>
    have htag := isTag_of_takeTag? ht
    rw [takeTag?_eq_some ht] at h ⊢
    rw [List.append_assoc, markupTags_tag htag, ih ((closesTags_append htag.closesTags).1 h)]
    rfl
  | case3 rest ht => exact absurd (h [] rest rfl) (notMem_of_takeTag? ht)
  | case4 c rest hc ih =>
    have hc : c ≠ '<' := hc
    rw [List.cons_append, markupTags_cons hc, ih ((closesTags_cons hc).1 h)]

/-- The tags of a span are the markup tags it was read with. -/
theorem Span.WellRead.markupTags_source {span : Span} (h : span.WellRead) :
    markupTags span.source = span.tags := by
  obtain ⟨first, more⟩ := span
  induction more generalizing first with
  | nil =>
    rw [source, List.flatMap_nil, List.append_nil]
    exact markupTags_of_notMem (h.notMem_lt first List.mem_cons_self)
  | cons piece more ih =>
    obtain ⟨hfirst, -, htag, hw⟩ := h.of_cons
    rw [source_cons, markupTags_append (closesTags_of_notMem hfirst), markupTags_of_notMem hfirst,
      List.nil_append, markupTags_tag htag, ih piece.2 hw]
    rfl

/-- The tags of a cut are those of its pieces and of what is written for its spans. -/
theorem Cut.WellRead.markupTags_written {cut : Cut} (h : cut.WellRead) {write : Span → Text}
    (hw : ∀ span ∈ cut.spans, ClosesTags (write span)) :
    markupTags (cut.written write) =
      markupTags cut.first ++
        cut.more.flatMap fun item => markupTags (write item.1) ++ markupTags item.2 := by
  obtain ⟨first, more⟩ := cut
  have hpieces := h.pieces
  clear h
  unfold Cut.written
  induction more generalizing first with
  | nil => simp
  | cons item more ih =>
    rw [List.map_cons, List.dropLast_cons_cons] at hpieces
    obtain ⟨hfirst, hpieces⟩ := List.forall_mem_cons.1 hpieces
    obtain ⟨hitem, hitems⟩ := List.forall_mem_cons.1 hw
    rw [markupTags_append hfirst, List.flatMap_cons, List.flatMap_cons, List.cons_append,
      markupTags_cons (by decide), List.append_assoc, markupTags_append hitem, List.cons_append,
      markupTags_cons (by decide), ih item.2 hitems hpieces, List.append_assoc]

/-! ## Balanced tags -/

/-- A balance describes what tags did to a stack of open elements: below `outer` the stack is as it
was, and above it the elements that were closed are replaced by those that are open now. -/
def Balance.Tracks (balance : Balance) (before after : List Text) : Prop :=
  ∃ outer, before = balance.closed.reverse ++ outer ∧ after = balance.stack ++ outer

theorem Balance.Tracks.step {balance next : Balance} {before stack after : List Text} {tag : Text}
    (h : balance.Tracks before stack) (hs : balance.step tag = some next)
    (hr : runTag stack tag = some after) : next.Tracks before after := by
  obtain ⟨outer, hbefore, rfl⟩ := h
  unfold Balance.step at hs
  unfold runTag at hr
  cases hrole : tagRole tag with
  | opening =>
    simp only [hrole, Option.some.injEq] at hs hr
    subst hs hr
    exact ⟨outer, hbefore, rfl⟩
  | closing =>
    simp only [hrole] at hs hr
    cases hstack : balance.stack with
    | cons innermost more =>
      simp only [hstack, List.cons_append] at hs hr
      split at hs
      · rename_i hname
        simp only [hname, ↓reduceIte, Option.some.injEq] at hs hr
        subst hs hr
        exact ⟨outer, hbefore, rfl⟩
      · cases hs
    | nil =>
      -- The element was opened in front of all these tags.
      simp only [hstack, List.nil_append] at hs hr
      split at hs
      · cases hs
      · simp only [Option.some.injEq] at hs
        subst hs
        cases outer with
        | nil => cases hr
        | cons name outer =>
          simp only [Option.ite_none_right_eq_some, Option.some.injEq] at hr
          obtain ⟨rfl, rfl⟩ := hr
          exact ⟨outer, by rw [hbefore]; simp, rfl⟩
  | empty =>
    simp only [hrole, Option.some.injEq] at hs hr
    subst hs hr
    exact ⟨outer, hbefore, rfl⟩
  | aside =>
    simp only [hrole, Option.some.injEq] at hs hr
    subst hs hr
    exact ⟨outer, hbefore, rfl⟩

theorem Balance.Tracks.run {balance last : Balance} {before stack after : List Text}
    {tags : List Text} (h : balance.Tracks before stack)
    (hs : tags.foldlM Balance.step balance = some last) (hr : runTags stack tags = some after) :
    last.Tracks before after := by
  unfold runTags at hr
  induction tags generalizing balance stack with
  | nil =>
    cases hs
    cases hr
    exact h
  | cons tag tags ih =>
    obtain ⟨next, hnext, hs⟩ := Option.bind_eq_some_iff.1 hs
    obtain ⟨between, hbetween, hr⟩ := Option.bind_eq_some_iff.1 hr
    exact ih (h.step hnext hbetween) hs hr

/-- Balanced tags that run from a stack of open elements leave it as it was, whatever is open. -/
theorem eq_of_balanced {before after tags : List Text} (hb : balanced tags = true)
    (hr : runTags before tags = some after) : after = before := by
  unfold balanced at hb
  split at hb
  · rename_i last hlast
    have hstart : Balance.Tracks ⟨[], [], false⟩ before before := ⟨before, rfl, rfl⟩
    obtain ⟨outer, hbefore, hafter⟩ := hstart.run hlast hr
    rw [decide_eq_true_eq] at hb
    rw [hafter, hbefore, ← hb, List.reverse_reverse]
  · cases hb

theorem runTags_append (before front back : List Text) :
    runTags before (front ++ back) = (runTags before front).bind (runTags · back) :=
  List.foldlM_append

/-- Where balanced tags stood between others, the others run without them. -/
theorem runTags_flatMap {α : Type} {items : List α} {removed kept : α → List Text}
    (hb : ∀ item ∈ items, balanced (removed item) = true) {before after : List Text}
    (hr : runTags before (items.flatMap fun item => removed item ++ kept item) = some after) :
    runTags before (items.flatMap kept) = some after := by
  induction items generalizing before with
  | nil => exact hr
  | cons item items ih =>
    obtain ⟨hitem, hitems⟩ := List.forall_mem_cons.1 hb
    rw [List.flatMap_cons, runTags_append, runTags_append] at hr
    obtain ⟨stack, hstack, hr⟩ := Option.bind_eq_some_iff.1 hr
    obtain ⟨same, hsame, hstack⟩ := Option.bind_eq_some_iff.1 hstack
    rw [eq_of_balanced hitem hsame] at hstack
    rw [List.flatMap_cons, runTags_append, hstack]
    exact ih hitems hr

/-! ## Hard boundaries -/

/-- Whether a tag belongs to an element that no token may cross. -/
def isHard (boundaries : List Text) (tag : Text) : Bool :=
  tagRole tag ≠ .aside && boundaries.contains (tagName tag)

variable {boundaries : List Text}

/-- No span crosses a hard boundary. -/
theorem isHard_of_mem_tags {text : Text} {span : Span} {rest : Text}
    (h : takeSpan boundaries text = .ok (span, rest)) :
    ∀ tag ∈ span.tags, isHard boundaries tag = false := by
  fun_induction takeSpan boundaries text generalizing span rest with
  | case1 => cases h
  | case2 =>
    cases h
    exact fun _ hm => absurd hm List.not_mem_nil
  | case3 => cases h
  | case4 => cases h
  | case5 tail tag more htag hsoft inner after hs ih =>
    cases h
    refine List.forall_mem_cons.2 ⟨?_, ih hs⟩
    simpa [isHard] using hsoft
  | case6 => cases h
  | case7 c tail hb hl inner after hs ih =>
    cases h
    have htags : (inner.push c).tags = inner.tags := rfl
    rw [htags]
    exact ih hs
  | case8 => cases h

theorem filter_flatMap_of_forall {α : Type} {items : List α} {removed kept : α → List Text}
    {p : Text → Bool} (h : ∀ item ∈ items, ∀ tag ∈ removed item, p tag = false) :
    (items.flatMap fun item => removed item ++ kept item).filter p =
      (items.flatMap kept).filter p := by
  induction items with
  | nil => rfl
  | cons item items ih =>
    obtain ⟨hitem, hitems⟩ := List.forall_mem_cons.1 h
    have hnone : (removed item).filter p = [] :=
      List.filter_eq_nil_iff.2 fun tag ht => by simp [hitem tag ht]
    rw [List.flatMap_cons, List.flatMap_cons, List.filter_append, List.filter_append,
      List.filter_append, hnone, ih hitems, List.nil_append]

/-! ## Normal markup -/

theorem markupTags_source_cut (boundaries : List Text) (markup : Text) :
    markupTags markup = markupTags (cut boundaries markup).first ++
      (cut boundaries markup).more.flatMap fun item =>
        markupTags item.1.source ++ markupTags item.2 := by
  have hcut := wellRead_cut boundaries markup
  rw [← hcut.markupTags_written fun span hs => (hcut.spans span hs).closesTags,
    written_source_cut]

theorem markupTags_normalize (boundaries : List Text) (markup : Text) :
    markupTags (normalize boundaries markup).text = markupTags (cut boundaries markup).first ++
      (cut boundaries markup).more.flatMap fun item => markupTags item.2 := by
  have hcut := wellRead_cut boundaries markup
  have hcontent (span) (hs : span ∈ (cut boundaries markup).spans) : '<' ∉ span.content :=
    (hcut.spans span hs).notMem_content.1
  rw [← written_content_cut, hcut.markupTags_written fun span hs =>
    closesTags_of_notMem (hcontent span hs)]
  refine congrArg (markupTags _ ++ ·) (List.flatMap_congr fun item hi => ?_)
  rw [markupTags_of_notMem (hcontent item.1 (List.mem_map_of_mem hi)), List.nil_append]

/-- **Nesting is kept.** The tags of normal markup are those of the markup without one contiguous
run for each token that was put together: the tags inside that token. They run from a stack of open
elements to the same stack as before, and those of hard boundaries are all left, in order. -/
theorem nesting_normalize (boundaries : List Text) (markup : Text) :
    let normal := normalize boundaries markup
    (∃ cut : Cut, cut.written Span.source = markup ∧ cut.written Span.content = normal.text ∧
      markupTags markup = markupTags cut.first ++
        cut.more.flatMap (fun item => markupTags item.1.source ++ markupTags item.2) ∧
      markupTags normal.text = markupTags cut.first ++
        cut.more.flatMap (fun item => markupTags item.2) ∧
      normal.repaired = cut.spans.countP fun span => markupTags span.source ≠ []) ∧
    (∀ before after, runTags before (markupTags markup) = some after →
      runTags before (markupTags normal.text) = some after) ∧
    (markupTags normal.text).filter (isHard boundaries) =
      (markupTags markup).filter (isHard boundaries) := by
  intro normal
  have hcut := wellRead_cut boundaries markup
  have hsource := markupTags_source_cut boundaries markup
  have hnormal : markupTags normal.text = _ := markupTags_normalize boundaries markup
  have htags (span) (hs : span ∈ (cut boundaries markup).spans) :
      markupTags span.source = span.tags := (hcut.spans span hs).markupTags_source
  have hread (item) (hi : item ∈ (cut boundaries markup).more) :
      ∃ rest tail, readSpan boundaries rest = .ok (item.1, tail) :=
    exists_readSpan_of_mem_spans (List.mem_map_of_mem hi)
  refine ⟨⟨cut boundaries markup, written_source_cut markup, written_content_cut markup, hsource,
    hnormal, ?_⟩, ?_, ?_⟩
  · rw [show normal.repaired = _ from repaired_normalize markup]
    exact List.countP_congr fun span hs => by rw [htags span hs]
  · intro before after hr
    rw [hsource, runTags_append] at hr
    obtain ⟨stack, hfirst, hr⟩ := Option.bind_eq_some_iff.1 hr
    rw [hnormal, runTags_append, hfirst]
    refine runTags_flatMap (fun item hi => ?_) hr
    obtain ⟨rest, tail, hspan⟩ := hread item hi
    rw [htags item.1 (List.mem_map_of_mem hi)]
    exact (readSpan_takeSpan hspan).2
  · rw [hsource, hnormal, List.filter_append, List.filter_append]
    refine congrArg (_ ++ ·) (filter_flatMap_of_forall fun item hi => ?_).symm
    obtain ⟨rest, tail, hspan⟩ := hread item hi
    rw [htags item.1 (List.mem_map_of_mem hi)]
    exact isHard_of_mem_tags (readSpan_takeSpan hspan).1

/-- A merge tag over two runs: the first run is closed inside it, and the second is opened. -/
theorem nesting_normalize_runs :
    let markup := "<p><r>\x7b$A</r><r>B\x7d</r></p>".toList
    runTags [] (markupTags markup) = some [] ∧
      runTags [] (markupTags (normalize ["p".toList] markup).text) = some [] :=
  ⟨by decide +kernel, (nesting_normalize ["p".toList] _).2.1 [] [] (by decide +kernel)⟩

end FormLetter
