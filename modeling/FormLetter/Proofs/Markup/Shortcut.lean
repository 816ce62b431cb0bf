import FormLetter.Proofs.Markup.Stability
import Mathlib.Data.List.Forall2

/-!
# The shortcuts of normalizing

Normalizing takes three shortcuts: markup without an opening brace is not scanned, characters that
open nothing are copied together, and once a brace failed for a final reason no later brace is
tried. None of them shows in the normal form; only the reason why a brace was left alone may be
another one.

* `plainFrom`, `normalizePlainly`: normalizing without shortcuts.
* `Finding.StandsFor`, `Normal.StandsFor`: what the shortcuts may change.
* `FailsAlways`: where no brace can be completed; a brace that failed for a final reason is
  followed by such a text.
* `normalize_eq_normalizePlainly`: the shortcuts change nothing but reasons.
-/

namespace FormLetter

open Text

/-! ## Without shortcuts -/

/-- Normalizes the text that starts at an offset without shortcuts: characters are copied one by
one, and every brace is tried. -/
def plainFrom (boundaries : List Text) (offset : Nat) (text : Text) : Normal :=
  match text with
  | [] => { text := [] }
  | '<' :: rest =>
    match _h : takeTag? rest with
    | none => { text := '<' :: rest }
    | some (tag, tail) => (plainFrom boundaries (offset + tag.length) tail).behind tag
  | '{' :: rest =>
    match _h : readSpan boundaries rest with
    | .ok (span, tail) =>
      (plainFrom boundaries (offset + span.source.length + 2) tail).behindSpan offset span
    | .error reason => (plainFrom boundaries (offset + 1) rest).behindBrace offset reason
  | c :: rest => (plainFrom boundaries (offset + 1) rest).behind [c]
  termination_by text.length
  decreasing_by
    · have := length_takeTag?_lt _h
      simp only [List.length_cons]
      omega
    · have := length_readSpan_lt _h
      simp only [List.length_cons]
      omega
    · simp
    · simp

/-- The normal form of markup, found without shortcuts. -/
def normalizePlainly (boundaries : List Text) (markup : Text) : Normal :=
  plainFrom boundaries 0 markup

/-- A finding stands for one without shortcuts: it is the same, or of a brace that was not tried it
says that the text ends where a markup tag never does. -/
def Finding.StandsFor (finding plain : Finding) : Prop :=
  finding = plain ∨ ∃ offset,
    finding = .abandoned offset .noClosingBrace ∧ plain = .abandoned offset .unterminatedMarkup

/-- Normal markup stands for that found without shortcuts: all is the same but for findings that
stand for those without shortcuts, one for one. -/
structure Normal.StandsFor (normal plain : Normal) : Prop where
  /-- The markup is the same. -/
  text_eq : normal.text = plain.text
  /-- As many tags were put together. -/
  repaired_eq : normal.repaired = plain.repaired
  /-- As many braces were left alone. -/
  abandoned_eq : normal.abandoned = plain.abandoned
  /-- The findings are those without shortcuts but for reasons. -/
  findings : List.Forall₂ Finding.StandsFor normal.findings plain.findings

theorem Finding.standsFor_untried {reason : Abandonment} (h : reason.isFinal = true)
    (offset : Nat) :
    (Finding.abandoned offset .noClosingBrace).StandsFor (.abandoned offset reason) := by
  cases reason with
  | noClosingBrace => exact Or.inl rfl
  | unterminatedMarkup => exact Or.inr ⟨offset, rfl, rfl⟩
  | _ => cases h

namespace Normal.StandsFor

variable {normal plain : Normal}

theorem copied (text : Text) : StandsFor { text } { text } := ⟨rfl, rfl, rfl, .nil⟩

theorem behind (h : normal.StandsFor plain) (piece : Text) :
    (normal.behind piece).StandsFor (plain.behind piece) :=
  ⟨congrArg (piece ++ ·) h.text_eq, h.repaired_eq, h.abandoned_eq, h.findings⟩

theorem behindBrace (h : normal.StandsFor plain) {offset : Nat} {one other : Abandonment}
    (hr : (Finding.abandoned offset one).StandsFor (.abandoned offset other)) :
    (normal.behindBrace offset one).StandsFor (plain.behindBrace offset other) :=
  ⟨congrArg ('{' :: ·) h.text_eq, h.repaired_eq, congrArg (· + 1) h.abandoned_eq,
    .cons hr h.findings⟩

theorem behindSpan (h : normal.StandsFor plain) (offset : Nat) (span : Span) :
    (normal.behindSpan offset span).StandsFor (plain.behindSpan offset span) := by
  refine ⟨congrArg (span.token ++ ·) h.text_eq, ?_, h.abandoned_eq, ?_⟩
  · simp only [Normal.behindSpan, h.repaired_eq]
  · unfold Normal.behindSpan
    split
    · exact h.findings
    · exact .cons (Or.inl rfl) h.findings

end Normal.StandsFor

section

variable {boundaries : List Text}

/-! ## Braces that are not tried -/

/-- A text in which no brace can be completed: its end, or a markup tag that never ends, comes
before every closing brace and every hard boundary. -/
def FailsAlways (boundaries : List Text) (text : Text) : Prop :=
  ∃ reason : Abandonment, reason.isFinal = true ∧ takeSpan boundaries text = .error reason

theorem FailsAlways.of_tag {tag tail : Text} (ht : IsTag tag)
    (h : FailsAlways boundaries (tag ++ tail)) : FailsAlways boundaries tail := by
  obtain ⟨reason, hf, htake⟩ := h
  rw [takeSpan_tag ht] at htake
  split at htake
  · cases htake
    cases hf
  · exact ⟨reason, hf, map_eq_error.1 htake⟩

theorem FailsAlways.of_char {c : Char} {rest : Text} (hl : c ≠ '<')
    (h : FailsAlways boundaries (c :: rest)) : FailsAlways boundaries rest := by
  obtain ⟨reason, hf, htake⟩ := h
  by_cases hb : c = '}'
  · subst hb
    simp [takeSpan] at htake
  · rw [takeSpan_char hb hl] at htake
    exact ⟨reason, hf, map_eq_error.1 htake⟩

/-- A brace in front of such a text is left alone, for a final reason. -/
theorem FailsAlways.exists_readSpan {rest : Text} (h : FailsAlways boundaries rest) :
    ∃ reason : Abandonment, reason.isFinal = true ∧
      readSpan boundaries rest = .error reason := by
  obtain ⟨reason, hf, htake⟩ := h
  exact ⟨reason, hf, by rw [readSpan, htake]⟩

/-- A brace that is left alone for a final reason is followed by such a text. -/
theorem failsAlways_of_isFinal {rest : Text} {reason : Abandonment}
    (hr : readSpan boundaries rest = .error reason) (hf : reason.isFinal = true) :
    FailsAlways boundaries rest :=
  ⟨reason, hf, takeSpan_eq_error_of_isFinal hr hf⟩

/-! ## The whole text -/

/-- The steps stand for those without shortcuts if braces are tried wherever one could be
completed; each step keeps that. -/
theorem standsFor_normalizeFrom {exhausted : Bool} {text : Text}
    (h : exhausted = true → FailsAlways boundaries text) (offset : Nat) :
    (normalizeFrom boundaries offset exhausted text).StandsFor
      (plainFrom boundaries offset text) := by
  fun_induction plainFrom boundaries offset text generalizing exhausted with
  | case1 =>
    rw [normalizeFrom]
    exact .copied []
  | case2 offset rest ht =>
    rw [normalizeFrom_remainder ht]
    exact .copied _
  | case3 offset rest tag tail ht ih =>
    have htag := isTag_of_takeTag? ht
    rw [takeTag?_eq_some ht] at h ⊢
    rw [normalizeFrom_tag htag]
    exact (ih fun he => (h he).of_tag htag).behind tag
  | case4 offset rest span tail hr ih =>
    cases exhausted with
    | false =>
      rw [normalizeFrom_span hr]
      exact (ih fun he => absurd he Bool.false_ne_true).behindSpan offset span
    | true =>
      obtain ⟨reason, -, hfail⟩ := ((h rfl).of_char (by decide)).exists_readSpan
      rw [hr] at hfail
      cases hfail
  | case5 offset rest reason hr ih =>
    cases exhausted with
    | false =>
      rw [normalizeFrom_brace hr]
      exact (ih (failsAlways_of_isFinal hr)).behindBrace (Or.inl rfl)
    | true =>
      -- The brace would be tried in vain.
      have hrest := (h rfl).of_char (by decide)
      obtain ⟨found, hf, hfail⟩ := hrest.exists_readSpan
      rw [hr] at hfail
      cases hfail
      rw [normalizeFrom_exhausted]
      exact (ih fun _ => hrest).behindBrace (Finding.standsFor_untried hf offset)
  | case6 offset c rest hl hb ih =>
    rw [normalizeFrom_char hl hb]
    exact (ih fun he => (h he).of_char hl).behind [c]

end

/-- **The shortcuts do not show.** For all markup and all boundaries, normalizing with shortcuts
gives the markup and the counts that it gives without them, and the same findings in the same order,
except that of a brace that was not tried it may say that the text ends where a markup tag never
does. -/
theorem normalize_eq_normalizePlainly (boundaries : List Text) (markup : Text) :
    let normal := normalize boundaries markup
    let plain := normalizePlainly boundaries markup
    normal.text = plain.text ∧ normal.repaired = plain.repaired ∧
      normal.abandoned = plain.abandoned ∧
      List.Forall₂ Finding.StandsFor normal.findings plain.findings := by
  intro normal plain
  have hsteps : normal = normalizeFrom boundaries 0 false markup :=
    normalize_eq_normalizeFrom boundaries markup
  have h : normal.StandsFor plain :=
    hsteps ▸ standsFor_normalizeFrom (fun he => absurd he Bool.false_ne_true) 0
  exact ⟨h.text_eq, h.repaired_eq, h.abandoned_eq, h.findings⟩

/-- The second brace is not tried, and only that shows. -/
example :
    (normalize [] "\x7b\x7b<a".toList).findings =
        [.abandoned 0 .unterminatedMarkup, .abandoned 1 .noClosingBrace] ∧
      (normalizePlainly [] "\x7b\x7b<a".toList).findings =
        [.abandoned 0 .unterminatedMarkup, .abandoned 1 .unterminatedMarkup] := by
  decide +kernel

end FormLetter
