import FormLetter.Markup.Normal
import FormLetter.Proofs.Text.Cutting
import FormLetter.Proofs.Text.Replacement

/-!
# Spans and their tokens

What a span keeps of the text it was read from, and what its token looks like to a second reading.

* `IsTag`: a complete markup tag, from `<` to the next `>`.
* `takeSpan_wellRead`: the stretches of a span hold no delimiter, and its tags are complete.
* `length_token_lt`: taking tags out makes a span shorter.
* `readSpan_content`: a token is read back as a span without tags.
* `token_content_eq`: and that span has the same token.
-/

namespace FormLetter

open Text

/-! ## Complete tags -/

/-- A complete markup tag: it starts with `<` and ends with the first `>`. -/
def IsTag (tag : Text) : Prop := ∃ body, tag = '<' :: body ++ ['>'] ∧ '>' ∉ body

theorem takeTag?_append {body : Text} (h : '>' ∉ body) (tail : Text) :
    takeTag? (body ++ '>' :: tail) = some ('<' :: body ++ ['>'], tail) := by
  simp [takeTag?, cutAt_append h]

theorem notMem_of_takeTag? {rest : Text} (h : takeTag? rest = none) : '>' ∉ rest := by
  intro hm
  obtain ⟨body, tail, rfl, hbody⟩ := List.eq_append_cons_of_mem hm
  rw [takeTag?_append hbody] at h
  cases h

theorem isTag_of_takeTag? {rest tag tail : Text} (h : takeTag? rest = some (tag, tail)) :
    IsTag tag := by
  unfold takeTag? at h
  split at h
  · rename_i body more hc
    simp only [Option.some.injEq, Prod.mk.injEq] at h
    exact ⟨body, h.1.symm, notMem_of_cutAt hc⟩
  · cases h

theorem IsTag.length_pos {tag : Text} (h : IsTag tag) : 0 < tag.length := by
  obtain ⟨body, rfl, -⟩ := h
  simp

/-- A complete tag and what follows it are read as that tag. -/
theorem IsTag.exists_takeTag? {tag : Text} (h : IsTag tag) (tail : Text) :
    ∃ rest, tag ++ tail = '<' :: rest ∧ takeTag? rest = some (tag, tail) := by
  obtain ⟨body, rfl, hb⟩ := h
  exact ⟨body ++ '>' :: tail, by simp, takeTag?_append hb tail⟩

namespace Span

/-! ## Joints -/

theorem mem_joint {left right : Text} {c : Char} (h : c ∈ joint left right) :
    c = ' ' ∨ c ∈ left ∨ c ∈ right := by
  unfold joint at h
  split at h
  · rcases List.mem_append.1 h with h | h
    · exact Or.inr (Or.inl ((stripRight_isPrefixOf left).subset h))
    · rcases List.mem_cons.1 h with h | h
      · exact Or.inl h
      · exact Or.inr (Or.inr ((List.dropWhile_suffix isBlank).subset h))
  · exact Or.inr (List.mem_append.1 h)

/-- A joint is no longer than what it joins: its space stands for at least one blank. -/
theorem length_joint_le (left right : Text) :
    (joint left right).length ≤ left.length + right.length := by
  have hl := length_stripRight_le left
  have hr := length_stripLeft_le right
  unfold joint
  split
  · rename_i h
    simp only [List.length_append, List.length_cons]
    rcases Bool.or_eq_true_iff.1 h with h | h
    · have := length_stripRight_lt h
      omega
    · have := length_stripLeft_lt h
      omega
  · simp

theorem count_joint_le {c : Char} (hc : c ≠ ' ') (left right : Text) :
    (joint left right).count c ≤ left.count c + right.count c := by
  have hl := (stripRight_isPrefixOf left).sublist.count_le c
  have hr : (stripLeft right).count c ≤ right.count c :=
    (List.dropWhile_suffix isBlank).sublist.count_le c
  unfold joint
  split
  · rw [List.count_append, List.count_cons_of_ne (Ne.symm hc)]
    omega
  · exact Nat.le_of_eq List.count_append

/-! ## Spans as they are read -/

/-- A span as it is read from a text: no delimiter in its stretches, and complete tags. -/
structure WellRead (span : Span) : Prop where
  /-- The stretches hold no `<`. -/
  notMem_lt : ∀ stretch ∈ span.stretches, '<' ∉ stretch
  /-- The stretches hold no `}`. -/
  notMem_brace : ∀ stretch ∈ span.stretches, '}' ∉ stretch
  /-- The tags are complete. -/
  isTag : ∀ tag ∈ span.tags, IsTag tag

/-- What follows the first tag of a span is a span again. -/
theorem WellRead.of_cons {first : Text} {piece : Text × Text} {more : List (Text × Text)}
    (h : (⟨first, piece :: more⟩ : Span).WellRead) :
    '<' ∉ first ∧ '}' ∉ first ∧ IsTag piece.1 ∧ (⟨piece.2, more⟩ : Span).WellRead := by
  obtain ⟨hl, hls⟩ := List.forall_mem_cons.1 h.notMem_lt
  obtain ⟨hb, hbs⟩ := List.forall_mem_cons.1 h.notMem_brace
  obtain ⟨htag, htags⟩ := List.forall_mem_cons.1 h.isTag
  exact ⟨hl, hb, htag, hls, hbs, htags⟩

theorem source_cons (first : Text) (piece : Text × Text) (more : List (Text × Text)) :
    (⟨first, piece :: more⟩ : Span).source =
      first ++ (piece.1 ++ (⟨piece.2, more⟩ : Span).source) := by
  simp [source]

theorem WellRead.push {span : Span} (h : span.WellRead) {c : Char} (hl : c ≠ '<') (hb : c ≠ '}') :
    (span.push c).WellRead := by
  refine ⟨?_, ?_, h.isTag⟩
  · intro stretch hs
    rcases List.mem_cons.1 hs with rfl | hs
    · exact List.not_mem_cons_of_ne_of_not_mem (Ne.symm hl)
        (h.notMem_lt span.first List.mem_cons_self)
    · exact h.notMem_lt stretch (List.mem_cons_of_mem _ hs)
  · intro stretch hs
    rcases List.mem_cons.1 hs with rfl | hs
    · exact List.not_mem_cons_of_ne_of_not_mem (Ne.symm hb)
        (h.notMem_brace span.first List.mem_cons_self)
    · exact h.notMem_brace stretch (List.mem_cons_of_mem _ hs)

theorem WellRead.pushTag {span : Span} (h : span.WellRead) {tag : Text} (ht : IsTag tag) :
    (span.pushTag tag).WellRead := by
  have hs (stretch : Text) (hm : stretch ∈ (span.pushTag tag).stretches) :
      stretch = [] ∨ stretch ∈ span.stretches := by
    simpa [stretches, Span.pushTag] using hm
  refine ⟨?_, ?_, ?_⟩
  · intro stretch hm
    rcases hs stretch hm with rfl | hm
    · exact List.not_mem_nil
    · exact h.notMem_lt stretch hm
  · intro stretch hm
    rcases hs stretch hm with rfl | hm
    · exact List.not_mem_nil
    · exact h.notMem_brace stretch hm
  · intro other ho
    rcases List.mem_cons.1 ho with rfl | ho
    · exact ht
    · exact h.isTag other ho

end Span

theorem takeSpan_wellRead {boundaries : List Text} {text : Text} {span : Span} {rest : Text}
    (h : takeSpan boundaries text = .ok (span, rest)) : span.WellRead := by
  fun_induction takeSpan boundaries text generalizing span rest with
  | case1 => cases h
  | case2 =>
    cases h
    exact ⟨by simp [Span.stretches], by simp [Span.stretches], by simp [Span.tags]⟩
  | case3 => cases h
  | case4 => cases h
  | case5 tail tag more htag _ inner after hs ih =>
    cases h
    exact (ih hs).pushTag (isTag_of_takeTag? htag)
  | case6 => cases h
  | case7 c tail hb hl inner after hs ih =>
    cases h
    exact (ih hs).push hl hb
  | case8 => cases h

theorem readSpan_takeSpan {boundaries : List Text} {text : Text} {span : Span} {rest : Text}
    (h : readSpan boundaries text = .ok (span, rest)) :
    takeSpan boundaries text = .ok (span, rest) ∧ balanced span.tags = true := by
  unfold readSpan at h
  split at h
  · cases h
  · rename_i s r hs
    split at h
    · cases h
      exact ⟨hs, by assumption⟩
    · cases h

namespace Span

/-! ## The text of a span -/

theorem mem_foldl_joint {more : List (Text × Text)} {text : Text} {c : Char}
    (h : c ∈ more.foldl (fun text piece => joint text piece.2) text) :
    c = ' ' ∨ ∃ stretch ∈ text :: more.map (·.2), c ∈ stretch := by
  induction more generalizing text with
  | nil => exact Or.inr ⟨text, List.mem_cons_self, h⟩
  | cons piece more ih =>
    rcases ih h with h | ⟨stretch, hs, hc⟩
    · exact Or.inl h
    · rcases List.mem_cons.1 hs with rfl | hs
      · rcases mem_joint hc with h | h | h
        · exact Or.inl h
        · exact Or.inr ⟨text, List.mem_cons_self, h⟩
        · exact Or.inr ⟨piece.2, by simp, h⟩
      · exact Or.inr ⟨stretch, List.mem_cons_of_mem _ (List.mem_cons_of_mem _ hs), hc⟩

theorem length_foldl_joint_le (more : List (Text × Text)) (text : Text) :
    (more.foldl (fun text piece => joint text piece.2) text).length +
        (more.map (·.1)).flatten.length ≤
      text.length + (more.flatMap fun piece => piece.1 ++ piece.2).length := by
  induction more generalizing text with
  | nil => simp
  | cons piece more ih =>
    have hj := length_joint_le text piece.2
    have := ih (joint text piece.2)
    simp only [List.foldl_cons, List.map_cons, List.flatten_cons, List.flatMap_cons,
      List.length_append] at this ⊢
    omega

theorem count_foldl_joint_le {c : Char} (hc : c ≠ ' ') (more : List (Text × Text)) (text : Text) :
    (more.foldl (fun text piece => joint text piece.2) text).count c ≤
      text.count c + (more.flatMap fun piece => piece.1 ++ piece.2).count c := by
  induction more generalizing text with
  | nil => simp
  | cons piece more ih =>
    have hj := count_joint_le hc text piece.2
    have := ih (joint text piece.2)
    simp only [List.foldl_cons, List.flatMap_cons, List.count_append] at this ⊢
    omega

theorem mem_joined {span : Span} {c : Char} (h : c ∈ span.joined) :
    c = ' ' ∨ ∃ stretch ∈ span.stretches, c ∈ stretch := by
  unfold joined at h
  split at h
  · exact Or.inr ⟨span.first, List.mem_cons_self, h⟩
  · exact mem_foldl_joint ((strip_sublist _).subset h)

theorem length_joined_le (span : Span) :
    span.joined.length + span.tags.flatten.length ≤ span.source.length := by
  have h := length_foldl_joint_le span.more span.first
  unfold joined source tags
  rw [List.length_append]
  split
  · rename_i hm
    simp [hm]
  · exact Nat.le_trans (Nat.add_le_add_right (strip_sublist _).length_le _) h

theorem count_joined_le {c : Char} (hc : c ≠ ' ') (span : Span) :
    span.joined.count c ≤ span.source.count c := by
  have h := count_foldl_joint_le hc span.more span.first
  unfold joined source
  rw [List.count_append]
  split
  · exact Nat.le_add_right _ _
  · exact Nat.le_trans ((strip_sublist _).count_le c) h

/-! ## Tokens -/

/-- The text between the braces of the token of a span. -/
def content (span : Span) : Text := replaceEach tagForms span.joined

theorem token_eq (span : Span) : span.token = '{' :: (span.content ++ ['}']) := rfl

theorem separating_tagForms : Separating tagForms := by
  decide

theorem length_content_le (span : Span) : span.content.length ≤ span.joined.length :=
  length_replaceEach_le (by decide) _

theorem length_token_le (span : Span) : span.token.length ≤ span.source.length + 2 := by
  have h1 := span.length_content_le
  have h2 := span.length_joined_le
  simp only [token_eq, List.length_cons, List.length_append, List.length_nil]
  omega

/-- Taking tags out makes a span shorter. -/
theorem length_token_lt {span : Span} (hw : span.WellRead) (ht : span.tags ≠ []) :
    span.token.length < span.source.length + 2 := by
  obtain ⟨tag, others, hcons⟩ := List.exists_cons_of_ne_nil ht
  have hpos : 0 < tag.length := (hw.isTag tag (by rw [hcons]; exact List.mem_cons_self)).length_pos
  have h1 := span.length_content_le
  have h2 := span.length_joined_le
  rw [hcons, List.flatten_cons, List.length_append] at h2
  simp only [token_eq, List.length_cons, List.length_append, List.length_nil]
  omega

theorem count_token_le (span : Span) : span.token.count '{' ≤ span.source.count '{' + 1 := by
  have h : span.joined.count '{' ≤ span.source.count '{' := span.count_joined_le (by decide)
  have hc : span.content.count '{' = span.joined.count '{' := count_replaceEach (by decide) _
  simp only [token_eq, List.count_cons_self, List.count_append, hc]
  simpa using h

/-- No character of a token's content ends the token or opens a markup tag. -/
theorem WellRead.notMem_content {span : Span} (h : span.WellRead) :
    '<' ∉ span.content ∧ '}' ∉ span.content := by
  have hc (c : Char) (hf : ∀ entry ∈ tagForms, c ∉ entry.2) (hs : c ≠ ' ')
      (hw : ∀ stretch ∈ span.stretches, c ∉ stretch) : c ∉ span.content := by
    intro hm
    rcases mem_replaceEach (by decide) hm with ⟨entry, he, hm⟩ | hm
    · exact hf entry he hm
    · rcases mem_joined hm with hm | ⟨stretch, hs, hm⟩
      · exact hs hm
      · exact hw stretch hs hm
  exact ⟨hc '<' (by decide) (by decide) h.notMem_lt, hc '}' (by decide) (by decide) h.notMem_brace⟩

/-- The token of a span without tags whose text is already decoded. -/
theorem token_plain {text : Text} (h : Clean tagForms text) :
    (⟨text, []⟩ : Span).token = '{' :: (text ++ ['}']) := by
  simp only [token_eq, content, joined, ↓reduceIte,
    (replaceEach_eq_self_iff separating_tagForms).2 h]

/-- A span that is its own token: it has no tags, and its text is decoded. -/
def IsPlain (span : Span) : Prop := span.more = [] ∧ Clean tagForms span.first

theorem clean_content (span : Span) : Clean tagForms span.content :=
  clean_replaceEach separating_tagForms _

/-- A token stands for itself: the span of its content has the same token. -/
theorem token_content_eq (span : Span) : (⟨span.content, []⟩ : Span).token = span.token := by
  rw [token_plain span.clean_content, token_eq]

end Span

/-! ## Reading a token back -/

/-- A text without delimiters in front of a closing brace is read as a span without tags. -/
theorem takeSpan_append {content : Text} (hl : '<' ∉ content) (hb : '}' ∉ content)
    (boundaries : List Text) (rest : Text) :
    takeSpan boundaries (content ++ '}' :: rest) = .ok (⟨content, []⟩, rest) := by
  induction content with
  | nil => simp [takeSpan]
  | cons c content ih =>
    rw [List.mem_cons, not_or] at hl hb
    rw [List.cons_append, takeSpan, ih hl.2 hb.2]
    · rfl
    · exact fun h => hb.1 h.symm
    · exact fun h => hl.1 h.symm

theorem readSpan_append {content : Text} (hl : '<' ∉ content) (hb : '}' ∉ content)
    (boundaries : List Text) (rest : Text) :
    readSpan boundaries (content ++ '}' :: rest) = .ok (⟨content, []⟩, rest) := by
  simp only [readSpan, takeSpan_append hl hb]
  rfl

/-- The token of a span is read back as a span without tags. -/
theorem readSpan_content {span : Span} (h : span.WellRead) (boundaries : List Text) (rest : Text) :
    readSpan boundaries (span.content ++ '}' :: rest) = .ok (⟨span.content, []⟩, rest) :=
  readSpan_append h.notMem_content.1 h.notMem_content.2 boundaries rest

end FormLetter
