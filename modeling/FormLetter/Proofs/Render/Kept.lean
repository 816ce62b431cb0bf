import FormLetter.Proofs.Template.Assembly
import FormLetter.Proofs.Template.Piece
import FormLetter.Render

/-!
# What rendering keeps of a template

With escaped braces a value holds no delimiter. The delimiters of rendered text are therefore those
of the literals on the branches that are taken, and there are fewer of them than in the template as
soon as a tag is replaced or a block is decided.

* `bare_escapeValue`: an escaped value holds no delimiter.
* `Scope.kept`: the literals that are rendered.
* `Scope.filter_render`: they hold the delimiters of the rendered text.
* `Scope.literal_of_count_le`: a template that loses no brace is a list of literals.
-/

namespace FormLetter

open Text

/-! ## Escaped values -/

/-- An escaped value holds no brace and no angle bracket. -/
theorem bare_escapeValue (value : Text) : Bare (escapeValue true value) := by
  -- The ampersand is in every reference, so only the table behind it is separating.
  have hmarkup : Clean markupEscapes.tail (replaceEach markupEscapes value) :=
    clean_replaceEach (by decide) (replaceAll ['&'] "&amp;".toList value)
  have hbrace : Clean braceEscapes (escapeValue true value) :=
    clean_replaceEach (by decide) _
  have hold (c : Char) (hn : ∀ entry ∈ braceEscapes, c ∉ entry.2)
      (hm : c ∉ replaceEach markupEscapes value) : c ∉ escapeValue true value := by
    intro h
    rcases mem_replaceEach (by decide) h with ⟨entry, he, hc⟩ | h
    · exact hn entry he hc
    · exact hm h
  intro c hm
  rw [← Bool.not_eq_true]
  intro hc
  rcases eq_of_isDelimiter hc with rfl | rfl | rfl | rfl
  · exact notMem_of_clean hbrace (by decide) hm
  · exact notMem_of_clean hbrace (by decide) hm
  · exact hold '<' (by decide) (notMem_of_clean hmarkup (by decide)) hm
  · exact hold '>' (by decide) (notMem_of_clean hmarkup (by decide)) hm

namespace Rendered

theorem text_append (front back : Rendered) : (front ++ back).text = front.text ++ back.text := rfl

end Rendered

namespace Scope

theorem bare_tag {scope : Scope} (h : scope.settings.escapeBraces = true) (mergeTag : MergeTag) :
    Bare (scope.tag mergeTag).text := by
  unfold Scope.tag
  split
  · exact bare_nil
  · rw [h]
    exact bare_escapeValue _

/-! ## Kept literals -/

mutual

/-- The text of a token that is rendered as it stands. -/
def keptToken (scope : Scope) : Token → Text
  | .literal source => source
  | .tag _ => []
  | .block kind branches _ => scope.keptBranches kind branches

/-- The literals of tokens and of the branches that are taken in them, in order. -/
def kept (scope : Scope) : List Token → Text
  | [] => []
  | token :: tokens => scope.keptToken token ++ scope.kept tokens

/-- The literals of the branch that is taken. -/
def keptBranches (scope : Scope) (kind : BlockKind) : List Branch → Text
  | [] => []
  | .mk none _ content :: _ => scope.kept content
  | .mk (some condition) _ content :: branches =>
    if (condition.evaluate scope.valueOf).1 then scope.kept content
    else if kind = .listIf then []
    else scope.keptBranches kind branches

end

mutual

theorem filter_renderToken {scope : Scope} (h : scope.settings.escapeBraces = true) :
    (token : Token) →
      (scope.renderToken token).text.filter isDelimiter =
        (scope.keptToken token).filter isDelimiter
  | .literal source => by
    rw [renderToken, keptToken]
  | .tag mergeTag => by
    rw [renderToken, keptToken, List.filter_nil, List.filter_eq_nil_iff]
    intro c hc
    rw [bare_tag h mergeTag c hc]
    exact Bool.false_ne_true
  | .block kind branches _ => by
    rw [renderToken, keptToken, Rendered.text_append]
    exact filter_renderBranches h kind branches

/-- The delimiters of rendered text are those of the literals that are kept. -/
theorem filter_render {scope : Scope} (h : scope.settings.escapeBraces = true) :
    (tokens : List Token) →
      (scope.render tokens).text.filter isDelimiter = (scope.kept tokens).filter isDelimiter
  | [] => by
    rw [render, kept]
    rfl
  | token :: tokens => by
    rw [render, kept, Rendered.text_append, List.filter_append, List.filter_append,
      filter_renderToken h token, filter_render h tokens]

theorem filter_renderBranches {scope : Scope} (h : scope.settings.escapeBraces = true)
    (kind : BlockKind) :
    (branches : List Branch) →
      (scope.renderBranches kind branches).text.filter isDelimiter =
        (scope.keptBranches kind branches).filter isDelimiter
  | [] => by
    rw [renderBranches, keptBranches]
    rfl
  | .mk none _ content :: _ => by
    rw [renderBranches, keptBranches]
    exact filter_render h content
  | .mk (some condition) _ content :: branches => by
    rw [renderBranches, keptBranches]
    rcases condition.evaluate scope.valueOf with ⟨holds, findings⟩
    cases holds with
    | true => exact filter_render h content
    | false =>
      by_cases hk : kind = .listIf
      · simp [hk]
      · simp only [hk, Bool.false_eq_true, ↓reduceIte, Rendered.text_append]
        exact filter_renderBranches h kind branches

end

/-! ## Braces that are lost -/

mutual

theorem count_keptToken_le (scope : Scope) (c : Char) :
    (token : Token) → (scope.keptToken token).count c ≤ token.source.count c
  | .literal source => Nat.le_of_eq (congrArg _ (by rw [keptToken, Token.source]))
  | .tag mergeTag => by
    rw [keptToken]
    exact Nat.zero_le _
  | .block kind branches close => by
    have := count_keptBranches_le scope c kind branches
    rw [keptToken, Token.source, List.count_append]
    omega

/-- Rendering keeps no more of a character than the template has. -/
theorem count_kept_le (scope : Scope) (c : Char) :
    (tokens : List Token) → (scope.kept tokens).count c ≤ (Token.sources tokens).count c
  | [] => by
    rw [kept]
    exact Nat.zero_le _
  | token :: tokens => by
    have h1 := count_keptToken_le scope c token
    have h2 := count_kept_le scope c tokens
    rw [kept, Token.sources_cons, List.count_append, List.count_append]
    omega

theorem count_keptBranches_le (scope : Scope) (c : Char) (kind : BlockKind) :
    (branches : List Branch) →
      (scope.keptBranches kind branches).count c ≤ (Branch.sources branches).count c
  | [] => by
    rw [keptBranches]
    exact Nat.zero_le _
  | .mk none marker content :: branches => by
    have := count_kept_le scope c content
    rw [keptBranches, Branch.sources, Branch.source, List.count_append, List.count_append]
    omega
  | .mk (some condition) marker content :: branches => by
    have h1 := count_kept_le scope c content
    have h2 := count_keptBranches_le scope c kind branches
    rw [keptBranches, Branch.sources, Branch.source, List.count_append, List.count_append]
    split
    · omega
    · split
      · exact Nat.zero_le _
      · omega

end

end Scope

/-- A token that is literal, or a tag that is written with a brace, or a block that is closed with
one. -/
def Token.IsBraced : Token → Prop
  | .literal _ => True
  | .tag mergeTag => '{' ∈ mergeTag.source
  | .block _ _ close => '{' ∈ close

/-- The tokens of a template are written with braces. -/
theorem isBraced_parse (limits : Limits) (text : Text) :
    ∀ token ∈ (Template.parse limits text).tokens, token.IsBraced := by
  have hg : Grants (fun _ => Token.IsBraced) (fun source _ => '{' ∈ source) limits.depth
      (lex text).pieces := by
    refine ⟨fun _ _ => trivial, ?_, ?_, fun _ _ h => h, fun _ _ _ _ _ _ hclose _ => hclose⟩
    · exact fun _ mergeTag hp => isBraced_lex text _ hp
    · exact fun marker source hp => isBraced_lex text _ hp
  exact forall_mem_parse hg

namespace Scope

theorem literal_or_count_keptToken_lt (scope : Scope) {token : Token} (h : token.IsBraced) :
    (∃ source, token = .literal source) ∨
      (scope.keptToken token).count '{' < token.source.count '{' := by
  cases token with
  | literal source => exact Or.inl ⟨source, rfl⟩
  | tag mergeTag =>
    rw [keptToken, Token.source_tag]
    exact Or.inr (List.count_pos_iff.2 h)
  | block kind branches close =>
    have h1 := count_keptBranches_le scope '{' kind branches
    have h2 : 0 < close.count '{' := List.count_pos_iff.2 h
    rw [keptToken, Token.source, List.count_append]
    exact Or.inr (by omega)

/-- A template that loses no brace is a list of literals. -/
theorem literal_of_count_le (scope : Scope) {tokens : List Token}
    (hb : ∀ token ∈ tokens, token.IsBraced)
    (h : (Token.sources tokens).count '{' ≤ (scope.kept tokens).count '{') :
    ∀ token ∈ tokens, ∃ source, token = .literal source := by
  induction tokens with
  | nil => exact fun _ hm => absurd hm List.not_mem_nil
  | cons token tokens ih =>
    obtain ⟨ht, hr⟩ := List.forall_mem_cons.1 hb
    have h1 := count_keptToken_le scope '{' token
    have h2 := count_kept_le scope '{' tokens
    rw [kept, Token.sources_cons, List.count_append, List.count_append] at h
    refine List.forall_mem_cons.2 ⟨?_, ih hr (by omega)⟩
    rcases literal_or_count_keptToken_lt scope ht with hl | hlt
    · exact hl
    · omega

/-- Literals are rendered as they stand. -/
theorem text_render_of_literal (scope : Scope) {tokens : List Token}
    (h : ∀ token ∈ tokens, ∃ source, token = .literal source) :
    (scope.render tokens).text = Token.sources tokens := by
  induction tokens with
  | nil =>
    rw [render, Token.sources_nil]
    rfl
  | cons token tokens ih =>
    obtain ⟨⟨source, rfl⟩, hr⟩ := List.forall_mem_cons.1 h
    rw [render, Rendered.text_append, ih hr, Token.sources_cons, renderToken, Token.source_literal]

end Scope

end FormLetter
