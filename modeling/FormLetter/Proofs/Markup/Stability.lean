import FormLetter.Proofs.Markup.Passage
import FormLetter.Settings.Basic

/-!
# Normalizing twice

Normal markup is read a second time passage by passage. Tags and tokens are read as before; only a
brace that was left alone for unbalanced markup may be read differently, because a span behind it
has lost its tags in the meantime.

* `ClosesBalanced`: the next closing brace ends a span, and the tags in front of that are balanced.
* `Revives`: some brace was left alone for unbalanced markup although what follows closes balanced.
* `normalize_normalize_iff`: a second pass changes something exactly when a brace is revived.
* `normalize_normalize_ne`: markup with a revived brace.
-/

namespace FormLetter

open Text

variable {boundaries : List Text}

/-! ## Reading spans, step by step -/

theorem takeSpan_char {c : Char} (hb : c ≠ '}') (hl : c ≠ '<') (rest : Text) :
    takeSpan boundaries (c :: rest) =
      (takeSpan boundaries rest).map fun found => (found.1.push c, found.2) := by
  rw [takeSpan]
  · cases takeSpan boundaries rest <;> rfl
  · exact hb
  · exact hl

theorem takeSpan_tag {tag : Text} (h : IsTag tag) (tail : Text) :
    takeSpan boundaries (tag ++ tail) =
      if tagRole tag ≠ .aside ∧ tagName tag ∈ boundaries then .error (.hardBoundary (tagName tag))
      else (takeSpan boundaries tail).map fun found => (found.1.pushTag tag, found.2) := by
  obtain ⟨rest, he, ht⟩ := h.exists_takeTag? tail
  rw [he, takeSpan]
  split
  · rename_i hn
    rw [ht] at hn
    cases hn
  · rename_i found more hf
    rw [ht] at hf
    cases hf
    split
    · rfl
    · cases takeSpan boundaries tail <;> rfl

theorem takeSpan_eq_error_of_isFinal {rest : Text} {reason : Abandonment}
    (h : readSpan boundaries rest = .error reason) (hf : reason.isFinal = true) :
    takeSpan boundaries rest = .error reason := by
  unfold readSpan at h
  split at h
  · cases h
    assumption
  · split at h
    · cases h
    · cases h
      cases hf

theorem takeSpan_ne_unbalanced (text : Text) :
    takeSpan boundaries text ≠ .error .unbalancedMarkup := by
  fun_induction takeSpan boundaries text <;> simp_all

theorem map_eq_error {ε α β : Type} {f : α → β} {x : Except ε α} {e : ε} :
    x.map f = .error e ↔ x = .error e := by
  cases x <;> simp [Except.map]

theorem map_eq_ok {ε α β : Type} {f : α → β} {x : Except ε α} {b : β} :
    x.map f = .ok b ↔ ∃ a, x = .ok a ∧ f a = b := by
  cases x <;> simp [Except.map]

/-! ## Reading a span again -/

/-- What stood in the way of a span still does once the passages are in their normal form. -/
theorem takeSpan_normals_of_error {text : Text} {reason : Abandonment}
    (h : takeSpan boundaries text = .error reason) :
    takeSpan boundaries (Passage.normals (passages boundaries text)) = .error reason := by
  revert h
  refine passages_induction boundaries
    (motive := fun text passages => takeSpan boundaries text = .error reason →
      takeSpan boundaries (Passage.normals passages) = .error reason) ?_ ?_ ?_ ?_ ?_ ?_ ?_ text
  · exact fun h => h
  · intro rest _ h
    rwa [Passage.normals_remainder]
  · intro tag tail ht ih h
    rw [Passage.normals_tag, takeSpan_tag ht]
    rw [takeSpan_tag ht] at h
    split at h
    · rename_i hb
      rw [if_pos hb, h]
    · rename_i hb
      rw [if_neg hb, map_eq_error]
      exact ih (map_eq_error.1 h)
  · intro rest span tail hr _ h
    rw [takeSpan_char (by decide) (by decide), (readSpan_takeSpan hr).1] at h
    cases h
  · intro rest found _ _ h
    rwa [Passage.normals_brace, normals_passagesFrom_exhausted]
  · intro rest found _ _ ih h
    rw [takeSpan_char (by decide) (by decide), map_eq_error] at h
    rw [Passage.normals_brace, takeSpan_char (by decide) (by decide), map_eq_error]
    exact ih h
  · intro c rest hl _ ih h
    by_cases hc : c = '}'
    · subst hc
      simp [takeSpan] at h
    · rw [takeSpan_char hc hl, map_eq_error] at h
      rw [Passage.normals_char, takeSpan_char hc hl, map_eq_error]
      exact ih h

/-- The markup tags inside the braces of a passage. -/
def Passage.innerTags : Passage → List Text
  | .span inner => inner.tags
  | _ => []

/-- A second reading of passages, up to the passage with the first closing brace: of the tags of the
span that was read first, those in front of that passage are left. -/
def Rereads (boundaries : List Text) (span : Span) (passages : List Passage) : Prop :=
  ∃ middle closing back again,
    passages = middle ++ closing :: back ∧ (∀ passage ∈ middle, passage.closes = false) ∧
    closing.closes = true ∧
    takeSpan boundaries (Passage.normals passages) = .ok (again, Passage.normals back) ∧
    again.tags = Passage.tags middle ∧
    span.tags = Passage.tags middle ++ closing.innerTags

/-- A passage without a closing brace in front changes both readings alike. -/
theorem Rereads.cons {span : Span} {passages : List Passage} (h : Rereads boundaries span passages)
    (passage : Passage) (hp : passage.closes = false) (extend : Span → Span)
    (ht : ∀ span, (extend span).tags = passage.tag?.toList ++ span.tags)
    (hs : ∀ again rest, takeSpan boundaries (Passage.normals passages) = .ok (again, rest) →
      takeSpan boundaries (Passage.normals (passage :: passages)) = .ok (extend again, rest)) :
    Rereads boundaries (extend span) (passage :: passages) := by
  obtain ⟨middle, closing, back, again, rfl, hm, hc, hread, htags, hspan⟩ := h
  have hcons : Passage.tags (passage :: middle) = passage.tag?.toList ++ Passage.tags middle := by
    cases passage <;> rfl
  refine ⟨passage :: middle, closing, back, extend again, rfl, ?_, hc, hs _ _ hread, ?_, ?_⟩
  · exact List.forall_mem_cons.2 ⟨hp, hm⟩
  · rw [ht, htags, hcons]
  · rw [ht, hspan, hcons, List.append_assoc]

theorem rereads_of_takeSpan {text : Text} {span : Span} {rest : Text}
    (h : takeSpan boundaries text = .ok (span, rest)) :
    Rereads boundaries span (passages boundaries text) := by
  revert h
  refine passages_induction boundaries
    (motive := fun text passages => ∀ span rest, takeSpan boundaries text = .ok (span, rest) →
      Rereads boundaries span passages) ?_ ?_ ?_ ?_ ?_ ?_ ?_ text span rest
  · intro span rest h
    simp [takeSpan] at h
  · intro tail ht span rest h
    rw [takeSpan] at h
    split at h
    · cases h
    · rename_i hn
      rw [ht] at hn
      cases hn
  · intro tag tail ht ih span rest h
    rw [takeSpan_tag ht] at h
    split at h
    · cases h
    · rename_i hb
      obtain ⟨⟨inner, after⟩, hi, heq⟩ := map_eq_ok.1 h
      cases heq
      refine (ih inner after hi).cons (.tag tag) rfl (Span.pushTag tag) (fun _ => rfl) ?_
      intro again more hread
      rw [Passage.normals_tag, takeSpan_tag ht, if_neg hb, hread]
      rfl
  · intro tail inner more hr _ span rest h
    obtain ⟨ht, -⟩ := readSpan_takeSpan hr
    rw [takeSpan_char (by decide) (by decide), ht] at h
    cases h
    obtain ⟨hl, hb⟩ := (takeSpan_wellRead ht).notMem_content
    refine ⟨[], .span inner, passages boundaries more, ⟨'{' :: inner.content, []⟩, rfl,
      fun _ hm => absurd hm List.not_mem_nil, rfl, ?_, rfl, rfl⟩
    rw [Passage.normals_span, ← List.cons_append]
    exact takeSpan_append (by simpa using hl) (by simpa using hb) _ _
  · intro tail reason hr hf span rest h
    rw [takeSpan_char (by decide) (by decide), takeSpan_eq_error_of_isFinal hr hf] at h
    cases h
  · intro tail reason _ _ ih span rest h
    rw [takeSpan_char (by decide) (by decide)] at h
    obtain ⟨⟨inner, after⟩, hi, heq⟩ := map_eq_ok.1 h
    cases heq
    refine (ih inner after hi).cons (.brace reason) rfl (Span.push '{') (fun _ => rfl) ?_
    intro again more hread
    rw [Passage.normals_brace, takeSpan_char (by decide) (by decide), hread]
    rfl
  · intro c tail hl _ ih span rest h
    by_cases hc : c = '}'
    · subst hc
      simp only [takeSpan, Except.ok.injEq, Prod.mk.injEq] at h
      obtain ⟨rfl, rfl⟩ := h
      refine ⟨[], .char '}', passages boundaries tail, ⟨[], []⟩, rfl,
        fun _ hm => absurd hm List.not_mem_nil, rfl, ?_, rfl, rfl⟩
      rw [Passage.normals_char, takeSpan]
    · rw [takeSpan_char hc hl] at h
      obtain ⟨⟨inner, after⟩, hi, heq⟩ := map_eq_ok.1 h
      cases heq
      refine (ih inner after hi).cons (.char c) (decide_eq_false hc) (Span.push c)
        (fun _ => rfl) ?_
      intro again more hread
      rw [Passage.normals_char, takeSpan_char hc hl, hread]
      rfl

/-! ## Revived braces -/

/-- The next closing brace behind passages ends a span, and the tags in front of that span are
balanced. -/
def ClosesBalanced (passages : List Passage) : Prop :=
  ∃ middle span back, passages = middle ++ .span span :: back ∧
    (∀ passage ∈ middle, passage.closes = false) ∧ balanced (Passage.tags middle) = true

/-- A brace among the passages was left alone for unbalanced markup, although the tags between it
and a later span with the same closing brace are balanced. -/
def Revives (passages : List Passage) : Prop :=
  ∃ front back, passages = front ++ .brace .unbalancedMarkup :: back ∧ ClosesBalanced back

theorem revives_cons {passage : Passage} {passages : List Passage} :
    Revives (passage :: passages) ↔
      passage = .brace .unbalancedMarkup ∧ ClosesBalanced passages ∨ Revives passages := by
  constructor
  · rintro ⟨front, back, he, hc⟩
    cases front with
    | nil =>
      cases he
      exact Or.inl ⟨rfl, hc⟩
    | cons first front =>
      cases he
      exact Or.inr ⟨front, back, rfl, hc⟩
  · rintro (⟨rfl, hc⟩ | ⟨front, back, rfl, hc⟩)
    · exact ⟨[], passages, rfl, hc⟩
    · exact ⟨passage :: front, back, rfl, hc⟩

theorem not_revives_of_span_notMem {passages : List Passage} (h : ∀ span, .span span ∉ passages) :
    ¬ Revives passages := by
  rintro ⟨front, back, rfl, middle, span, after, rfl, -, -⟩
  exact h span (by simp)

/-- The passages in front of the first closing brace are determined. -/
theorem closesBalanced_append_iff {middle back : List Passage} {closing : Passage}
    (hm : ∀ passage ∈ middle, passage.closes = false) (hc : closing.closes = true) :
    ClosesBalanced (middle ++ closing :: back) ↔
      (∃ span, closing = .span span) ∧ balanced (Passage.tags middle) = true := by
  have key (middle back : List Passage) (closing : Passage)
      (hm : ∀ passage ∈ middle, passage.closes = false) (hc : closing.closes = true) :
      (middle ++ closing :: back).takeWhile (fun passage => !passage.closes) = middle ∧
      (middle ++ closing :: back).dropWhile (fun passage => !passage.closes) = closing :: back := by
    rw [List.takeWhile_append_of_pos (by simpa using hm),
      List.dropWhile_append_of_pos (by simpa using hm)]
    simp [hc]
  constructor
  · rintro ⟨front, span, after, he, hf, hb⟩
    obtain ⟨h1, h2⟩ := key middle back closing hm hc
    obtain ⟨h3, h4⟩ := key front after (.span span) hf rfl
    rw [he, h3] at h1
    rw [he, h4] at h2
    cases h2
    exact ⟨⟨span, rfl⟩, h1 ▸ hb⟩
  · rintro ⟨⟨span, rfl⟩, hb⟩
    exact ⟨middle, span, back, rfl, hm, hb⟩

/-! ## A second pass -/

/-- A brace that was left alone is left alone again, unless it is revived; then the second pass
takes tags out. -/
theorem readSpan_normals {rest : Text} {reason : Abandonment}
    (h : readSpan boundaries rest = .error reason) (hf : reason.isFinal = false) :
    (¬ (reason = .unbalancedMarkup ∧ ClosesBalanced (passages boundaries rest)) ∧
      ∃ found, readSpan boundaries (Passage.normals (passages boundaries rest)) = .error found ∧
        found.isFinal = false) ∨
    ((reason = .unbalancedMarkup ∧ ClosesBalanced (passages boundaries rest)) ∧
      ∃ again tail, readSpan boundaries (Passage.normals (passages boundaries rest)) =
        .ok (again, tail) ∧ again.tags ≠ []) := by
  unfold readSpan at h
  split at h
  · rename_i found hs
    cases h
    refine Or.inl ⟨?_, reason, by rw [readSpan, takeSpan_normals_of_error hs], hf⟩
    rintro ⟨rfl, -⟩
    exact takeSpan_ne_unbalanced rest hs
  · rename_i span tail hs
    split at h
    · cases h
    · rename_i hb
      cases h
      obtain ⟨middle, closing, back, again, hp, hm, hc, hread, htags, hspan⟩ :=
        rereads_of_takeSpan hs
      rw [hp, closesBalanced_append_iff hm hc, ← hp]
      by_cases hclose : (∃ span, closing = .span span) ∧ balanced (Passage.tags middle) = true
      · refine Or.inr ⟨⟨rfl, hclose⟩, again, Passage.normals back, ?_, ?_⟩
        · rw [readSpan, hread]
          simp [htags, hclose.2]
        · intro hnil
          obtain ⟨⟨inner, rfl⟩, -⟩ := hclose
          have hmem : .span inner ∈ passages boundaries rest := by rw [hp]; simp
          rw [hspan, ← htags, hnil] at hb
          exact hb (wellRead_of_mem_passagesFrom hmem).2
      · refine Or.inl ⟨fun h => hclose h.2, .unbalancedMarkup, ?_, rfl⟩
        rw [readSpan, hread]
        have hbal : balanced again.tags = false := by
          rw [htags]
          cases closing with
          | span inner => simpa using hclose
          | _ => simpa [hspan, Passage.innerTags] using hb
        simp [hbal]

/-- A second pass over normal markup changes something exactly when a brace is revived. -/
theorem normals_passages_normals_iff (text : Text) :
    Passage.normals (passages boundaries (Passage.normals (passages boundaries text))) =
        Passage.normals (passages boundaries text) ↔
      ¬ Revives (passages boundaries text) := by
  refine passages_induction boundaries
    (motive := fun _ read => Passage.normals (passages boundaries (Passage.normals read)) =
      Passage.normals read ↔ ¬ Revives read) ?_ ?_ ?_ ?_ ?_ ?_ ?_ text
  · simp [passages, passagesFrom, Passage.normals, not_revives_of_span_notMem]
  · intro rest hr
    rw [Passage.normals_remainder, passages, passagesFrom_remainder hr, Passage.normals_remainder]
    simp [not_revives_of_span_notMem]
  · intro tag tail ht ih
    rw [Passage.normals_tag, passages, passagesFrom_tag ht, ← passages, Passage.normals_tag,
      revives_cons, List.append_cancel_left_eq, ih]
    simp
  · intro rest span tail hr ih
    have hw := takeSpan_wellRead (readSpan_takeSpan hr).1
    have hagain := readSpan_content hw boundaries (Passage.normals (passages boundaries tail))
    have hcontent : (⟨span.content, []⟩ : Span).content = span.content := by
      simpa [Span.token_eq] using span.token_content_eq
    rw [Passage.normals_span, passages, passagesFrom_span hagain, ← passages,
      Passage.normals_span, hcontent, revives_cons]
    simp [ih]
  · intro rest reason hr hf
    have hd : passages boundaries ('{' :: rest) =
        .brace reason :: passagesFrom boundaries true rest := by
      rw [passages, passagesFrom_brace hr, hf]
    rw [Passage.normals_brace, normals_passagesFrom_exhausted, hd, Passage.normals_brace,
      normals_passagesFrom_exhausted]
    refine iff_of_true rfl (not_revives_of_span_notMem fun span hm => ?_)
    rcases List.mem_cons.1 hm with hm | hm
    · cases hm
    · exact span_notMem_passagesFrom_exhausted rest span hm
  · intro rest reason hr hf ih
    rw [Passage.normals_brace, revives_cons, Passage.brace.injEq]
    rcases readSpan_normals hr hf with ⟨hno, found, hread, hfound⟩ | ⟨hyes, again, tail, hread, hne⟩
    · rw [passages, passagesFrom_brace hread, hfound, ← passages, Passage.normals_brace]
      simp [ih, hno]
    · refine iff_of_false (fun h => ?_) fun h => h (Or.inl hyes)
      rw [passages, passagesFrom_span hread, ← passages, Passage.normals_cons] at h
      have hw := takeSpan_wellRead (readSpan_takeSpan hread).1
      have hlt := Span.length_token_lt hw hne
      have hle : (Passage.normals (passages boundaries tail)).length ≤ tail.length :=
        length_normals_passagesFrom_le false tail
      have hlen := congrArg List.length (readSpan_eq_ok hread)
      have heq := congrArg List.length h
      simp only [List.length_append, List.length_cons, Passage.normal] at heq hlen
      omega
  · intro c rest hl hb ih
    rw [Passage.normals_char, passages, passagesFrom_char hl hb, ← passages,
      Passage.normals_char, revives_cons]
    simp [ih]

/-- **Normalizing twice.** For all markup and all boundaries, normal markup stays as it is under a
second pass exactly when the first revived no brace. -/
theorem normalize_normalize_iff (boundaries : List Text) (markup : Text) :
    (normalize boundaries (normalize boundaries markup).text).text =
        (normalize boundaries markup).text ↔
      ¬ Revives (passages boundaries markup) := by
  rw [text_normalize, text_normalize]
  exact normals_passages_normals_iff markup

/-- The first brace stands before balanced markup and a span that closes an element around both;
without the tags of that span it is a tag of the template. -/
theorem normalize_normalize_ne :
    (normalize defaultBoundaries
        (normalize defaultBoundaries "\x7b<b></b>\x7bx</a><a>y\x7d".toList).text).text ≠
      (normalize defaultBoundaries "\x7b<b></b>\x7bx</a><a>y\x7d".toList).text := by
  decide +kernel

end FormLetter
