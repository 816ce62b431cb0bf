import FormLetter.Merge.Basic
import FormLetter.Proofs.Markup.Passage
import FormLetter.Proofs.Render.Kept

/-!
# Merging merged text

Values bring no opening brace into merged text, so only braces that the template itself left there
can be read by a second merge. A merge changes nothing exactly if it finds nothing to do: no tag to
put together or decode, no merge tag, no block.

* `Settled`: markup in which a merge finds nothing to do.
* `mergePart_eq_self_iff`: merging changes exactly the markup that is not settled.
* `mergePart_mergePart`: when a second merge changes nothing.
-/

namespace FormLetter

open Text

/-- Markup in which a merge finds nothing to do. -/
structure Settled (settings : Settings) (text : Text) : Prop where
  /-- Its spans are tokens as they stand. -/
  isPlain : ∀ span, .span span ∈ passages settings.boundaries text → span.IsPlain
  /-- It holds no merge tag and no block. -/
  literal : ∀ token ∈ (Template.parse settings.limits text).tokens,
    ∃ source, token = .literal source

/-- The template that a merge reads from the markup of a part. -/
def templateOf (settings : Settings) (markup : Text) : List Token :=
  (Template.parse settings.limits (normalize settings.boundaries markup).text).tokens

section

variable {settings : Settings}

theorem mergePart_text (part : String) (markup : Text) (context : Context) :
    (mergePart settings part markup context).1 =
      (Scope.render ⟨settings, context⟩ (templateOf settings markup)).text := rfl

theorem sources_templateOf (markup : Text) :
    Token.sources (templateOf settings markup) = (normalize settings.boundaries markup).text :=
  Template.sources_tokens _ _

theorem templateOf_of_normal {text : Text} (h : (normalize settings.boundaries text).text = text) :
    templateOf settings text = (Template.parse settings.limits text).tokens := by
  rw [templateOf, h]

theorem isBraced_templateOf (markup : Text) :
    ∀ token ∈ templateOf settings markup, token.IsBraced :=
  isBraced_parse settings.limits _

theorem count_mergePart (he : settings.escapeBraces = true) (part : String) (markup : Text)
    (context : Context) :
    (mergePart settings part markup context).1.count '{' =
      (Scope.kept ⟨settings, context⟩ (templateOf settings markup)).count '{' := by
  have hdelimiter : isDelimiter '{' = true := rfl
  rw [mergePart_text, ← List.count_filter hdelimiter, Scope.filter_render he,
    List.count_filter hdelimiter]

/-! ## What a merge leaves alone -/

theorem mergePart_of_literal {text : Text}
    (hn : (normalize settings.boundaries text).text = text)
    (hl : ∀ token ∈ templateOf settings text, ∃ source, token = .literal source)
    (part : String) (context : Context) : (mergePart settings part text context).1 = text := by
  rw [mergePart_text, Scope.text_render_of_literal _ hl, sources_templateOf, hn]

/-- A merge changes exactly the markup that is not settled. -/
theorem mergePart_eq_self_iff (he : settings.escapeBraces = true) (part : String) (text : Text)
    (context : Context) :
    (mergePart settings part text context).1 = text ↔ Settled settings text := by
  constructor
  · intro h
    -- No brace is lost on the way, so the template has neither tags nor blocks.
    have hkept := count_mergePart he part text context
    have hnormal : (Token.sources (templateOf settings text)).count '{' ≤ text.count '{' := by
      rw [sources_templateOf]
      exact count_normalize_le text
    rw [h] at hkept
    have hl := Scope.literal_of_count_le ⟨settings, context⟩ (isBraced_templateOf text)
      (Nat.le_trans hnormal (Nat.le_of_eq hkept))
    have hn : (normalize settings.boundaries text).text = text := by
      rw [← sources_templateOf, ← Scope.text_render_of_literal ⟨settings, context⟩ hl]
      exact h
    exact ⟨(normalize_eq_self_iff text).1 hn, templateOf_of_normal hn ▸ hl⟩
  · intro h
    have hn := (normalize_eq_self_iff text).2 h.isPlain
    exact mergePart_of_literal hn ((templateOf_of_normal hn).symm ▸ h.literal) part context

/-- Markup without an opening brace is settled. -/
theorem settled_of_notMem {text : Text} (h : '{' ∉ text) : Settled settings text := by
  have hn : (normalize settings.boundaries text).text = text := by
    rw [normalize_of_notMem h]
  refine ⟨(normalize_eq_self_iff text).1 hn, ?_⟩
  have hcount : (Token.sources (Template.parse settings.limits text).tokens).count '{' = 0 := by
    rw [Template.sources_tokens]
    exact List.count_eq_zero.2 h
  exact Scope.literal_of_count_le ⟨settings, .empty⟩ (isBraced_parse settings.limits text)
    (hcount ▸ Nat.zero_le _)

/-! ## A second merge -/

/-- **Merging twice.** With braces escaped and a nesting limit of at least one, both merges of a
part are carried out; the second changes nothing exactly if the first left settled markup, and the
first does so whenever it keeps no literal with an opening brace. -/
theorem mergePart_mergePart (he : settings.escapeBraces = true)
    (hd : 1 ≤ settings.maxNestingDepth) (part : String) (markup : Text) (context : Context) :
    let merged := (mergePart settings part markup context).1
    refusesPart settings markup = false ∧ refusesPart settings merged = false ∧
      ((mergePart settings part merged context).1 = merged ↔ Settled settings merged) ∧
      ('{' ∉ Scope.kept ⟨settings, context⟩ (templateOf settings markup) →
        (mergePart settings part merged context).1 = merged) := by
  intro merged
  refine ⟨Template.isRefused_of_one_le hd _, Template.isRefused_of_one_le hd _,
    mergePart_eq_self_iff he part merged context, fun hkept => ?_⟩
  have hmerged : '{' ∉ merged := by
    rw [← List.count_eq_zero, count_mergePart he]
    exact List.count_eq_zero.2 hkept
  exact (mergePart_eq_self_iff he part merged context).2 (settled_of_notMem hmerged)

end

/-- A value that looks like a merge tag stays a value. -/
theorem mergePart_mergePart_note :
    let settings : Settings := {}
    let context : Context :=
      .ofList [("Note".toList, "{$Secret}".toList), ("Secret".toList, "hidden".toList)]
    let merged := (mergePart settings "body" "{$Note}".toList context).1
    settings.escapeBraces = true ∧ 1 ≤ settings.maxNestingDepth ∧
      (mergePart settings "body" merged context).1 = merged :=
  ⟨rfl, by decide, (mergePart_mergePart rfl (by decide) "body" _ _).2.2.2 (by decide +kernel)⟩

/-- An empty value moves the brace in front of it next to text that completes a merge tag. -/
theorem mergePart_mergePart_ne :
    let settings : Settings := {}
    let context : Context := .ofList [("A".toList, []), ("B".toList, "x".toList)]
    let merged := (mergePart settings "body" "{{$A}$B}".toList context).1
    settings.escapeBraces = true ∧ 1 ≤ settings.maxNestingDepth ∧
      (mergePart settings "body" merged context).1 ≠ merged := by
  decide +kernel

end FormLetter
