import FormLetter.Proofs.Markup.Span

/-!
# Normalizing step by step

The scan copies text that opens nothing in one piece, and markup without a brace is not scanned at
all. Both come to the same as a scan that takes one character, one markup tag or one span at a time.

* `normalizeFrom`: the scan step by step.
* `normalizeFrom_append_piece`: characters that open nothing are copied.
* `normalize_eq_normalizeFrom`: the normal form of markup is what the steps make of it.
-/

namespace FormLetter

open Text

variable {boundaries : List Text}

/-! ## The steps -/

/-- Normalizes the text that starts at an offset, step by step: each character that opens nothing
is a step of its own. -/
def normalizeFrom (boundaries : List Text) (offset : Nat) (exhausted : Bool) (text : Text) :
    Normal :=
  match text with
  | [] => { text := [] }
  | '<' :: rest =>
    match _h : takeTag? rest with
    | none => { text := '<' :: rest }
    | some (tag, tail) => (normalizeFrom boundaries (offset + tag.length) exhausted tail).behind tag
  | '{' :: rest =>
    if exhausted then
      (normalizeFrom boundaries (offset + 1) true rest).behindBrace offset .noClosingBrace
    else
      match _h : readSpan boundaries rest with
      | .ok (span, tail) =>
        (normalizeFrom boundaries (offset + span.source.length + 2) false tail).behindSpan
          offset span
      | .error reason =>
        (normalizeFrom boundaries (offset + 1) reason.isFinal rest).behindBrace offset reason
  | c :: rest => (normalizeFrom boundaries (offset + 1) exhausted rest).behind [c]
  termination_by text.length
  decreasing_by
    · have := length_takeTag?_lt _h
      simp only [List.length_cons]
      omega
    · simp
    · have := length_readSpan_lt _h
      simp only [List.length_cons]
      omega
    · simp
    · simp

theorem Normal.behind_behind (front back : Text) (normal : Normal) :
    (normal.behind back).behind front = normal.behind (front ++ back) := by
  simp [Normal.behind]

theorem normalizeFrom_remainder {rest : Text} (h : takeTag? rest = none) (offset : Nat)
    (exhausted : Bool) :
    normalizeFrom boundaries offset exhausted ('<' :: rest) = { text := '<' :: rest } := by
  rw [normalizeFrom]
  split <;> simp_all

theorem normalizeFrom_tag {tag : Text} (h : IsTag tag) (offset : Nat) (exhausted : Bool)
    (tail : Text) :
    normalizeFrom boundaries offset exhausted (tag ++ tail) =
      (normalizeFrom boundaries (offset + tag.length) exhausted tail).behind tag := by
  obtain ⟨rest, he, ht⟩ := h.exists_takeTag? tail
  rw [he, normalizeFrom]
  split <;> simp_all

theorem normalizeFrom_exhausted (offset : Nat) (rest : Text) :
    normalizeFrom boundaries offset true ('{' :: rest) =
      (normalizeFrom boundaries (offset + 1) true rest).behindBrace offset .noClosingBrace := by
  rw [normalizeFrom, if_pos rfl]

theorem normalizeFrom_span {rest : Text} {span : Span} {tail : Text}
    (h : readSpan boundaries rest = .ok (span, tail)) (offset : Nat) :
    normalizeFrom boundaries offset false ('{' :: rest) =
      (normalizeFrom boundaries (offset + span.source.length + 2) false tail).behindSpan
        offset span := by
  rw [normalizeFrom, if_neg Bool.false_ne_true]
  split <;> simp_all

theorem normalizeFrom_brace {rest : Text} {reason : Abandonment}
    (h : readSpan boundaries rest = .error reason) (offset : Nat) :
    normalizeFrom boundaries offset false ('{' :: rest) =
      (normalizeFrom boundaries (offset + 1) reason.isFinal rest).behindBrace offset reason := by
  rw [normalizeFrom, if_neg Bool.false_ne_true]
  split <;> simp_all

theorem normalizeFrom_char {c : Char} (hl : c ≠ '<') (hb : c ≠ '{') (offset : Nat)
    (exhausted : Bool) (rest : Text) :
    normalizeFrom boundaries offset exhausted (c :: rest) =
      (normalizeFrom boundaries (offset + 1) exhausted rest).behind [c] := by
  rw [normalizeFrom]
  · exact hl
  · exact hb

/-- Without an opening brace everything is copied. -/
theorem normalizeFrom_of_notMem {offset : Nat} {exhausted : Bool} {text : Text} (h : '{' ∉ text) :
    normalizeFrom boundaries offset exhausted text = { text := text } := by
  fun_induction normalizeFrom boundaries offset exhausted text with
  | case1 => rfl
  | case2 => rfl
  | case3 offset exhausted rest tag tail htag ih =>
    have e := takeTag?_eq_some htag
    rw [e] at h ⊢
    rw [ih fun hm => h (List.mem_append_right _ hm)]
    rfl
  | case4 => simp at h
  | case5 => simp at h
  | case6 => simp at h
  | case7 offset exhausted c rest _ _ ih =>
    rw [ih fun hm => h (List.mem_cons_of_mem _ hm)]
    rfl

/-! ## Pieces -/

/-- Characters that open nothing are copied together. -/
theorem normalizeFrom_append_piece {piece : Text} (h : ∀ c ∈ piece, opensNothing c = true)
    (offset : Nat) (exhausted : Bool) (rest : Text) :
    normalizeFrom boundaries offset exhausted (piece ++ rest) =
      (normalizeFrom boundaries (offset + piece.length) exhausted rest).behind piece := by
  induction piece generalizing offset with
  | nil => rfl
  | cons c piece ih =>
    obtain ⟨hc, hpiece⟩ := List.forall_mem_cons.1 h
    obtain ⟨hl, hb⟩ : c ≠ '<' ∧ c ≠ '{' := by simpa [opensNothing] using hc
    rw [List.cons_append, normalizeFrom_char hl hb, ih hpiece, Normal.behind_behind,
      List.length_cons, Nat.add_assoc, Nat.add_comm 1]
    rfl

/-- Copying in pieces comes to the same as copying character by character. -/
theorem scanFrom_eq_normalizeFrom (offset : Nat) (exhausted : Bool) (text : Text) :
    scanFrom boundaries offset exhausted text = normalizeFrom boundaries offset exhausted text := by
  fun_induction scanFrom boundaries offset exhausted text with
  | case1 => rw [normalizeFrom]
  | case2 offset exhausted rest h => rw [normalizeFrom_remainder h]
  | case3 offset exhausted rest tag tail h ih =>
    rw [takeTag?_eq_some h, normalizeFrom_tag (isTag_of_takeTag? h), ih]
  | case4 offset rest ih => rw [normalizeFrom_exhausted, ih]
  | case5 offset exhausted rest he span tail h ih =>
    rw [Bool.not_eq_true] at he
    subst he
    rw [normalizeFrom_span h, ih]
  | case6 offset exhausted rest he reason h ih =>
    rw [Bool.not_eq_true] at he
    subst he
    rw [normalizeFrom_brace h, ih]
  | case7 offset exhausted c rest hl hb piece ih =>
    have hpiece : ∀ c ∈ piece, opensNothing c = true :=
      List.forall_mem_cons.2 ⟨by simpa [opensNothing] using ⟨hl, hb⟩, fun c hc =>
        List.all_eq_true.1 List.all_takeWhile c hc⟩
    have htext : c :: rest = piece ++ rest.dropWhile opensNothing := by
      rw [List.cons_append, List.takeWhile_append_dropWhile]
    rw [htext, normalizeFrom_append_piece hpiece, ih]

/-- The normal form of markup is what the steps make of it. -/
theorem normalize_eq_normalizeFrom (boundaries : List Text) (markup : Text) :
    normalize boundaries markup = normalizeFrom boundaries 0 false markup := by
  by_cases h : '{' ∈ markup
  · rw [normalize, if_pos h, scanFrom_eq_normalizeFrom]
  · rw [normalize_of_notMem h, normalizeFrom_of_notMem h]

end FormLetter
