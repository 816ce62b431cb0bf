import FormLetter.Proofs.Markup.Stepwise

/-!
# Passages of markup

Normalizing reads markup as a list of passages: characters and tags that are copied, braces that are
left alone, spans that become tokens, and a last tag that never ends.

* `Passage`, `passages`: the passages of markup.
* `sources_passages`: the passages make up the markup.
* `text_normalize`: their normal forms make up the normal form of the markup.
* `Passage.normals_eq_sources_iff`: passages are normal if all spans among them are plain.
* `count_normalize_le`, `normalize_eq_self_iff`: the same for markup.
-/

namespace FormLetter

open Text

/-! ## Passages -/

/-- A passage of markup. -/
inductive Passage where
  /-- A character between tags that opens nothing. -/
  | char (c : Char)
  /-- A markup tag. -/
  | tag (tag : Text)
  /-- An opening brace that is left alone. -/
  | brace (reason : Abandonment)
  /-- A pair of braces with the span between them. -/
  | span (span : Span)
  /-- A markup tag that never ends, with everything behind it. -/
  | remainder (text : Text)
  deriving Repr, DecidableEq

namespace Passage

/-- A passage as it is written. -/
def source : Passage → Text
  | .char c => [c]
  | .tag text => text
  | .brace _ => ['{']
  | .span inner => '{' :: (inner.source ++ ['}'])
  | .remainder text => text

/-- A passage in its normal form: a span becomes its token. -/
def normal : Passage → Text
  | .span inner => inner.token
  | passage => passage.source

/-- Whether a passage holds a closing brace in text position. -/
def closes : Passage → Bool
  | .char c => c = '}'
  | .span _ => true
  | _ => false

/-- The markup tag that a passage leaves between the braces around it. -/
def tag? : Passage → Option Text
  | .tag text => some text
  | _ => none

/-- Passages as they are written. -/
def sources (passages : List Passage) : Text := passages.flatMap source

/-- Passages in their normal form. -/
def normals (passages : List Passage) : Text := passages.flatMap normal

/-- The markup tags among passages. -/
def tags (passages : List Passage) : List Text := passages.filterMap tag?

@[simp] theorem sources_cons (passage : Passage) (passages : List Passage) :
    sources (passage :: passages) = passage.source ++ sources passages := rfl

@[simp] theorem normals_cons (passage : Passage) (passages : List Passage) :
    normals (passage :: passages) = passage.normal ++ normals passages := rfl

@[simp] theorem normals_char (c : Char) (passages : List Passage) :
    normals (.char c :: passages) = c :: normals passages := rfl

@[simp] theorem normals_tag (text : Text) (passages : List Passage) :
    normals (.tag text :: passages) = text ++ normals passages := rfl

@[simp] theorem normals_brace (reason : Abandonment) (passages : List Passage) :
    normals (.brace reason :: passages) = '{' :: normals passages := rfl

@[simp] theorem normals_span (inner : Span) (passages : List Passage) :
    normals (.span inner :: passages) = '{' :: (inner.content ++ '}' :: normals passages) := by
  simp [normal, Span.token_eq]

@[simp] theorem normals_remainder (text : Text) : normals [.remainder text] = text :=
  List.append_nil text

/-! ### Sizes -/

theorem length_normal_le (passage : Passage) : passage.normal.length ≤ passage.source.length := by
  cases passage with
  | span span =>
    have := span.length_token_le
    simp only [normal, source, List.length_cons, List.length_append, List.length_nil]
    omega
  | _ => exact Nat.le_refl _

theorem length_normals_le (passages : List Passage) :
    (normals passages).length ≤ (sources passages).length := by
  induction passages with
  | nil => exact Nat.le_refl _
  | cons passage passages ih =>
    have := passage.length_normal_le
    simp only [normals_cons, sources_cons, List.length_append]
    omega

theorem count_normal_le (passage : Passage) :
    passage.normal.count '{' ≤ passage.source.count '{' := by
  cases passage with
  | span span =>
    have := span.count_token_le
    simp only [normal, source, List.count_cons_self, List.count_append]
    omega
  | _ => exact Nat.le_refl _

theorem count_normals_le (passages : List Passage) :
    (normals passages).count '{' ≤ (sources passages).count '{' := by
  induction passages with
  | nil => exact Nat.le_refl _
  | cons passage passages ih =>
    have := passage.count_normal_le
    simp only [normals_cons, sources_cons, List.count_append]
    omega

/-! ### Passages that are normal -/

/-- The spans among passages were read from a text. -/
def WellRead (passages : List Passage) : Prop := ∀ span, .span span ∈ passages → span.WellRead

theorem normal_eq_source_iff {passage : Passage} (hw : WellRead [passage]) :
    passage.normal = passage.source ↔ ∀ inner, passage = .span inner → inner.IsPlain := by
  cases passage with
  | span inner =>
    have hlt := inner.length_token_lt (hw inner List.mem_cons_self)
    rw [show (∀ other, Passage.span inner = .span other → other.IsPlain) ↔ inner.IsPlain by simp]
    constructor
    · intro h
      have htags : inner.tags = [] := by
        refine Decidable.byContradiction fun ht => ?_
        have hlen := congrArg List.length h
        have := hlt ht
        simp only [normal, source, List.length_cons, List.length_append, List.length_nil] at hlen
        omega
      have hmore : inner.more = [] := List.map_eq_nil_iff.1 htags
      simp only [normal, source, Span.token_eq, Span.content, Span.joined, Span.source, hmore,
        ↓reduceIte, List.flatMap_nil, List.append_nil, List.cons.injEq, List.append_cancel_right_eq,
        true_and] at h
      exact ⟨hmore, (replaceEach_eq_self_iff Span.separating_tagForms).1 h⟩
    · rintro ⟨hmore, hclean⟩
      obtain ⟨first, more⟩ := inner
      subst hmore
      simp [normal, source, Span.token_plain hclean, Span.source]
  | _ => simp [normal]

/-- Passages are normal as they are written if all spans among them are plain. -/
theorem normals_eq_sources_iff {passages : List Passage} (hw : WellRead passages) :
    normals passages = sources passages ↔ ∀ inner, .span inner ∈ passages → inner.IsPlain := by
  induction passages with
  | nil => simp [normals, sources]
  | cons passage passages ih =>
    have hfirst : WellRead [passage] := fun inner hm =>
      hw inner (List.mem_singleton.1 hm ▸ List.mem_cons_self)
    have hrest : WellRead passages := fun inner hm => hw inner (List.mem_cons_of_mem _ hm)
    have hle := passage.length_normal_le
    have hles := length_normals_le passages
    rw [normals_cons, sources_cons]
    constructor
    · intro h
      -- Neither part can be longer, so the two sides agree part by part.
      have hlen := congrArg List.length h
      simp only [List.length_append] at hlen
      obtain ⟨h1, h2⟩ := List.append_inj h (by omega)
      intro inner hm
      rcases List.mem_cons.1 hm with hm | hm
      · exact (normal_eq_source_iff hfirst).1 h1 inner hm.symm
      · exact (ih hrest).1 h2 inner hm
    · intro h
      rw [(normal_eq_source_iff hfirst).2 fun inner he => h inner (he ▸ List.mem_cons_self),
        (ih hrest).2 fun inner hm => h inner (List.mem_cons_of_mem _ hm)]

/-- Without a span everything is in its normal form. -/
theorem normals_eq_sources {passages : List Passage} (h : ∀ inner, .span inner ∉ passages) :
    normals passages = sources passages :=
  (normals_eq_sources_iff fun inner hm => absurd hm (h inner)).2 fun inner hm => absurd hm (h inner)

end Passage

/-- The passages of the markup that starts here; once `exhausted` holds no brace is tried. -/
def passagesFrom (boundaries : List Text) (exhausted : Bool) (text : Text) : List Passage :=
  match text with
  | [] => []
  | '<' :: rest =>
    match _h : takeTag? rest with
    | none => [.remainder ('<' :: rest)]
    | some (tag, tail) => .tag tag :: passagesFrom boundaries exhausted tail
  | '{' :: rest =>
    if exhausted then .brace .noClosingBrace :: passagesFrom boundaries true rest
    else
      match _h : readSpan boundaries rest with
      | .ok (span, tail) => .span span :: passagesFrom boundaries false tail
      | .error reason => .brace reason :: passagesFrom boundaries reason.isFinal rest
  | c :: rest => .char c :: passagesFrom boundaries exhausted rest
  termination_by text.length
  decreasing_by
    · have := length_takeTag?_lt _h
      simp only [List.length_cons]
      omega
    · simp
    · have := length_readSpan_lt _h
      simp only [List.length_cons]
      omega
    · simp
    · simp

/-- The passages of markup. -/
def passages (boundaries : List Text) (markup : Text) : List Passage :=
  passagesFrom boundaries false markup

section

variable {boundaries : List Text}

/-! ## The reading, case by case -/

theorem passagesFrom_tag {tag : Text} (h : IsTag tag) (exhausted : Bool) (tail : Text) :
    passagesFrom boundaries exhausted (tag ++ tail) =
      .tag tag :: passagesFrom boundaries exhausted tail := by
  obtain ⟨rest, he, ht⟩ := h.exists_takeTag? tail
  rw [he, passagesFrom]
  split
  · rename_i hn
    rw [ht] at hn
    cases hn
  · rename_i found more hf
    rw [ht] at hf
    cases hf
    rfl

theorem passagesFrom_remainder {rest : Text} (h : takeTag? rest = none) (exhausted : Bool) :
    passagesFrom boundaries exhausted ('<' :: rest) = [.remainder ('<' :: rest)] := by
  rw [passagesFrom]
  split
  · rfl
  · rename_i hf
    rw [h] at hf
    cases hf

theorem passagesFrom_span {rest : Text} {span : Span} {tail : Text}
    (h : readSpan boundaries rest = .ok (span, tail)) :
    passagesFrom boundaries false ('{' :: rest) =
      .span span :: passagesFrom boundaries false tail := by
  rw [passagesFrom, if_neg Bool.false_ne_true]
  split
  · rename_i hf
    rw [h] at hf
    cases hf
    rfl
  · rename_i hf
    rw [h] at hf
    cases hf

theorem passagesFrom_brace {rest : Text} {reason : Abandonment}
    (h : readSpan boundaries rest = .error reason) :
    passagesFrom boundaries false ('{' :: rest) =
      .brace reason :: passagesFrom boundaries reason.isFinal rest := by
  rw [passagesFrom, if_neg Bool.false_ne_true]
  split
  · rename_i hf
    rw [h] at hf
    cases hf
  · rename_i hf
    rw [h] at hf
    cases hf
    rfl

theorem passagesFrom_char {c : Char} (hl : c ≠ '<') (hb : c ≠ '{') (exhausted : Bool)
    (rest : Text) :
    passagesFrom boundaries exhausted (c :: rest) =
      .char c :: passagesFrom boundaries exhausted rest := by
  rw [passagesFrom]
  · exact hl
  · exact hb

/-! ## Sources and normal forms -/

theorem sources_passagesFrom (exhausted : Bool) (text : Text) :
    Passage.sources (passagesFrom boundaries exhausted text) = text := by
  fun_induction passagesFrom boundaries exhausted text with
  | case1 => rfl
  | case2 => simp [Passage.source, Passage.sources]
  | case3 exhausted rest tag tail h ih =>
    rw [Passage.sources_cons, ih]
    exact (takeTag?_eq_some h).symm
  | case4 rest ih => simp [Passage.source, ih]
  | case5 exhausted rest he span tail h ih =>
    simp [Passage.source, ih, readSpan_eq_ok h]
  | case6 exhausted rest he reason h ih => simp [Passage.source, ih]
  | case7 exhausted c rest _ _ ih => simp [Passage.source, ih]

/-- The passages make up the markup. -/
theorem sources_passages (markup : Text) :
    Passage.sources (passages boundaries markup) = markup :=
  sources_passagesFrom false markup

theorem text_normalizeFrom (offset : Nat) (exhausted : Bool) (text : Text) :
    (normalizeFrom boundaries offset exhausted text).text =
      Passage.normals (passagesFrom boundaries exhausted text) := by
  fun_induction normalizeFrom boundaries offset exhausted text with
  | case1 => simp [passagesFrom, Passage.normals]
  | case2 offset exhausted rest h =>
    simp [passagesFrom_remainder h, Passage.normals, Passage.normal, Passage.source]
  | case3 offset exhausted rest tag tail h ih =>
    rw [takeTag?_eq_some h, passagesFrom_tag (isTag_of_takeTag? h), Passage.normals_tag, ← ih]
    rfl
  | case4 offset rest ih =>
    rw [passagesFrom, if_pos rfl, Passage.normals_brace, ← ih]
    rfl
  | case5 offset exhausted rest he span tail h ih =>
    rw [Bool.not_eq_true] at he
    subst he
    rw [passagesFrom_span h, Passage.normals_cons, ← ih]
    rfl
  | case6 offset exhausted rest he reason h ih =>
    rw [Bool.not_eq_true] at he
    subst he
    rw [passagesFrom_brace h, Passage.normals_brace, ← ih]
    rfl
  | case7 offset exhausted c rest hl hb ih =>
    rw [passagesFrom_char hl hb, Passage.normals_char, ← ih]
    rfl

/-- The normal forms of the passages make up the normal form of the markup. -/
theorem text_normalize (markup : Text) :
    (normalize boundaries markup).text = Passage.normals (passages boundaries markup) := by
  rw [normalize_eq_normalizeFrom]
  exact text_normalizeFrom 0 false markup

theorem span_notMem_passagesFrom_exhausted (text : Text) (span : Span) :
    .span span ∉ passagesFrom boundaries true text := by
  generalize h : true = exhausted
  fun_induction passagesFrom boundaries exhausted text with
  | case1 => exact List.not_mem_nil
  | case2 => simp
  | case3 exhausted rest tag tail _ ih => simpa using ih h
  | case4 rest ih => simpa using ih rfl
  | case5 exhausted rest he => exact absurd h.symm he
  | case6 exhausted rest he => exact absurd h.symm he
  | case7 exhausted c rest _ _ ih => simpa using ih h

/-- Once no brace is tried everything is copied. -/
theorem normals_passagesFrom_exhausted (text : Text) :
    Passage.normals (passagesFrom boundaries true text) = text := by
  rw [Passage.normals_eq_sources (span_notMem_passagesFrom_exhausted text), sources_passagesFrom]

/-- Reading follows the text as long as braces are tried: a brace that fails for a final reason ends
that. -/
theorem passages_induction (boundaries : List Text) {motive : Text → List Passage → Prop}
    (nil : motive [] [])
    (remainder : ∀ rest, takeTag? rest = none →
      motive ('<' :: rest) [.remainder ('<' :: rest)])
    (tag : ∀ tag tail, IsTag tag → motive tail (passages boundaries tail) →
      motive (tag ++ tail) (.tag tag :: passages boundaries tail))
    (span : ∀ rest span tail, readSpan boundaries rest = .ok (span, tail) →
      motive tail (passages boundaries tail) →
      motive ('{' :: rest) (.span span :: passages boundaries tail))
    (dead : ∀ rest reason, readSpan boundaries rest = .error reason → reason.isFinal = true →
      motive ('{' :: rest) (.brace reason :: passagesFrom boundaries true rest))
    (brace : ∀ rest reason, readSpan boundaries rest = .error reason → reason.isFinal = false →
      motive rest (passages boundaries rest) →
      motive ('{' :: rest) (.brace reason :: passages boundaries rest))
    (char : ∀ c rest, c ≠ '<' → c ≠ '{' → motive rest (passages boundaries rest) →
      motive (c :: rest) (.char c :: passages boundaries rest)) (text : Text) :
    motive text (passages boundaries text) := by
  suffices h : ∀ exhausted, exhausted = false →
      motive text (passagesFrom boundaries exhausted text) from h false rfl
  intro exhausted he
  fun_induction passagesFrom boundaries exhausted text with
  | case1 => exact nil
  | case2 exhausted rest h => exact remainder rest h
  | case3 exhausted rest found tail h ih =>
    subst he
    rw [takeTag?_eq_some h]
    exact tag found tail (isTag_of_takeTag? h) (ih rfl)
  | case4 => cases he
  | case5 exhausted rest hx found tail h ih => exact span rest found tail h (ih rfl)
  | case6 exhausted rest hx reason h ih =>
    cases hf : reason.isFinal with
    | true => exact dead rest reason h hf
    | false =>
      rw [hf] at ih
      exact brace rest reason h hf (ih rfl)
  | case7 exhausted c rest hl hb ih =>
    subst he
    exact char c rest hl hb (ih rfl)

/-- The spans among the passages are read from the text. -/
theorem wellRead_of_mem_passagesFrom {exhausted : Bool} {text : Text} {span : Span}
    (h : .span span ∈ passagesFrom boundaries exhausted text) :
    span.WellRead ∧ balanced span.tags = true := by
  fun_induction passagesFrom boundaries exhausted text with
  | case1 => cases h
  | case2 => simp at h
  | case3 exhausted rest tag tail ht ih => exact ih (by simpa using h)
  | case4 rest ih => exact ih (by simpa using h)
  | case5 exhausted rest he found tail hr ih =>
    rcases List.mem_cons.1 h with h | h
    · cases h
      obtain ⟨ht, hb⟩ := readSpan_takeSpan hr
      exact ⟨takeSpan_wellRead ht, hb⟩
    · exact ih h
  | case6 exhausted rest he reason hr ih => exact ih (by simpa using h)
  | case7 exhausted c rest _ _ ih => exact ih (by simpa using h)

/-! ## Normal markup -/

/-- Normalizing adds no opening brace. -/
theorem count_normalize_le (markup : Text) :
    (normalize boundaries markup).text.count '{' ≤ markup.count '{' := by
  calc (normalize boundaries markup).text.count '{'
      = (Passage.normals (passages boundaries markup)).count '{' := by rw [text_normalize]
    _ ≤ (Passage.sources (passages boundaries markup)).count '{' := Passage.count_normals_le _
    _ = markup.count '{' := by rw [sources_passages]

/-- Markup is in its normal form exactly if all spans in it are plain. -/
theorem normalize_eq_self_iff (markup : Text) :
    (normalize boundaries markup).text = markup ↔
      ∀ span, .span span ∈ passages boundaries markup → span.IsPlain := by
  have hw : Passage.WellRead (passages boundaries markup) :=
    fun _ hm => (wellRead_of_mem_passagesFrom hm).1
  rw [← Passage.normals_eq_sources_iff hw, text_normalize, sources_passages]

theorem length_normals_passagesFrom_le (exhausted : Bool) (text : Text) :
    (Passage.normals (passagesFrom boundaries exhausted text)).length ≤ text.length := by
  have := Passage.length_normals_le (passagesFrom boundaries exhausted text)
  rwa [sources_passagesFrom] at this

end

end FormLetter
