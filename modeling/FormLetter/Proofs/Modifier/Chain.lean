import FormLetter.Proofs.Modifier.Written

/-!
# Cutting chains

The segments of a chain stand behind one another with a bar between them. A bar behind a quote that
is still open does not cut. Where an argument begins with its quote this keeps a bar inside the
argument; but an apostrophe anywhere else in a segment opens a quote too, and so does a quote that
is never closed, and then the segment takes in the one that follows it.

* `ClosesQuotes`: a text that leaves no quote open.
* `cutChain`: the pieces that a chain of segments is cut into.
* `cutChain_eq_self`, `closesQuotes_of_length_cutChain`: the pieces are the segments if every
  segment but the last closes its quotes, and otherwise they are fewer.
-/

namespace FormLetter

open Text

/-! ## Open quotes -/

/-- The quote that is open behind a text, given the one that is open in front of it. -/
def quoteBehind (quote : Option Char) (text : Text) : Option Char := text.foldl quoteAfter quote

/-- A text that leaves no quote open. -/
def ClosesQuotes (text : Text) : Prop := quoteBehind none text = none

instance : DecidablePred ClosesQuotes := fun text =>
  inferInstanceAs (Decidable (quoteBehind none text = none))

/-- A text without the separator is not cut, whatever quote is open in front of it. -/
theorem unsplit_of_notMem {separator : Char} {text : Text} (h : separator ∉ text)
    (quote : Option Char) : Unsplit separator quote (quoteBehind quote text) text := by
  induction text generalizing quote with
  | nil => exact unsplit_nil
  | cons c rest ih =>
    rw [List.mem_cons, not_or] at h
    exact (unsplit_singleton fun _ => Ne.symm h.1).append (ih h.2 _)

/-! ## Pieces of a chain -/

theorem length_glue (text : Text) {segments : List Text} (h : segments ≠ []) :
    (glue text segments).length = segments.length := by
  cases segments with
  | nil => exact absurd rfl h
  | cons => rfl

/-- The pieces that a chain of segments is cut into. -/
def cutChain : List Text → List Text
  | [] => []
  | segment :: segments => splitUnquoted '|' (segment ++ segments.flatMap ('|' :: ·))

section

variable {segment next : Text} {segments : List Text}

theorem cutChain_singleton (h : '|' ∉ segment) : cutChain [segment] = [segment] := by
  have hcut := unsplit_of_notMem h none []
  rw [List.append_nil] at hcut
  simp [cutChain, splitUnquoted, hcut, splitUnquotedFrom, glue]

/-- Outside quotes a bar cuts. -/
theorem splitUnquotedFrom_bar {quote : Option Char} (h : '|' ∉ segment)
    (hq : quoteBehind quote segment = none) (rest : Text) :
    splitUnquotedFrom '|' quote (segment ++ '|' :: rest) =
      segment :: splitUnquotedFrom '|' none rest := by
  have hcut := unsplit_of_notMem h quote ('|' :: rest)
  rw [hq] at hcut
  rw [hcut]
  simp [splitUnquotedFrom, quoteAfter, glue]

/-- Inside quotes a bar stays in its piece. -/
theorem splitUnquotedFrom_quotedBar {quote : Option Char} (h : '|' ∉ segment)
    (hq : quoteBehind quote segment ≠ none) (rest : Text) :
    splitUnquotedFrom '|' quote (segment ++ '|' :: rest) =
      glue (segment ++ ['|'])
        (splitUnquotedFrom '|' (quoteAfter (quoteBehind quote segment) '|') rest) := by
  have hbar : Unsplit '|' (quoteBehind quote segment) _ ['|'] :=
    unsplit_singleton fun hn => absurd hn hq
  have hcut := (unsplit_of_notMem h quote).append hbar rest
  rwa [List.append_assoc] at hcut

theorem length_splitUnquotedFrom_le (h : ∀ text ∈ segment :: segments, '|' ∉ text)
    (quote : Option Char) :
    (splitUnquotedFrom '|' quote (segment ++ segments.flatMap ('|' :: ·))).length ≤
      segments.length + 1 := by
  induction segments generalizing segment quote with
  | nil =>
    have hcut := unsplit_of_notMem (h segment List.mem_cons_self) quote []
    rw [List.flatMap_nil, hcut, length_glue _ (splitUnquotedFrom_ne_nil _ _ _)]
    exact Nat.le_refl 1
  | cons next segments ih =>
    obtain ⟨hsegment, hrest⟩ := List.forall_mem_cons.1 h
    rw [List.flatMap_cons, List.cons_append]
    by_cases hq : quoteBehind quote segment = none
    · rw [splitUnquotedFrom_bar hsegment hq]
      exact Nat.succ_le_succ (ih hrest none)
    · rw [splitUnquotedFrom_quotedBar hsegment hq, length_glue _ (splitUnquotedFrom_ne_nil _ _ _)]
      exact Nat.le_succ_of_le (ih hrest _)

theorem cutChain_of_closesQuotes (h : '|' ∉ segment) (hc : ClosesQuotes segment) :
    cutChain (segment :: next :: segments) = segment :: cutChain (next :: segments) :=
  splitUnquotedFrom_bar h hc _

/-- A segment that leaves a quote open takes in the one behind it. -/
theorem length_cutChain_lt (h : ∀ text ∈ segment :: next :: segments, '|' ∉ text)
    (ho : ¬ ClosesQuotes segment) :
    (cutChain (segment :: next :: segments)).length < (segment :: next :: segments).length := by
  obtain ⟨hsegment, hrest⟩ := List.forall_mem_cons.1 h
  have hcut : cutChain (segment :: next :: segments) = _ :=
    splitUnquotedFrom_quotedBar hsegment ho (next ++ segments.flatMap ('|' :: ·))
  rw [hcut, length_glue _ (splitUnquotedFrom_ne_nil _ _ _)]
  exact Nat.lt_succ_of_le (length_splitUnquotedFrom_le hrest _)

end

/-- Segments that close their quotes are the pieces of their chain. -/
theorem cutChain_eq_self {segments : List Text} (h : ∀ segment ∈ segments, '|' ∉ segment)
    (hc : ∀ segment ∈ segments.dropLast, ClosesQuotes segment) : cutChain segments = segments := by
  induction segments with
  | nil => rfl
  | cons segment segments ih =>
    obtain ⟨hsegment, hrest⟩ := List.forall_mem_cons.1 h
    cases segments with
    | nil => exact cutChain_singleton hsegment
    | cons next segments =>
      rw [List.dropLast_cons_cons] at hc
      obtain ⟨hfirst, hothers⟩ := List.forall_mem_cons.1 hc
      rw [cutChain_of_closesQuotes hsegment hfirst, ih hrest hothers]

/-- A chain with as many pieces as segments was cut at every bar. -/
theorem closesQuotes_of_length_cutChain {segments : List Text}
    (h : ∀ segment ∈ segments, '|' ∉ segment)
    (hl : (cutChain segments).length = segments.length) :
    ∀ segment ∈ segments.dropLast, ClosesQuotes segment := by
  induction segments with
  | nil => exact fun _ hm => absurd hm List.not_mem_nil
  | cons segment segments ih =>
    obtain ⟨hsegment, hrest⟩ := List.forall_mem_cons.1 h
    cases segments with
    | nil => exact fun _ hm => absurd hm List.not_mem_nil
    | cons next segments =>
      have hfirst : ClosesQuotes segment :=
        Decidable.byContradiction fun ho => absurd hl (Nat.ne_of_lt (length_cutChain_lt h ho))
      rw [cutChain_of_closesQuotes hsegment hfirst] at hl
      rw [List.dropLast_cons_cons]
      exact List.forall_mem_cons.2 ⟨hfirst, ih hrest (Nat.succ.inj hl)⟩

end FormLetter
