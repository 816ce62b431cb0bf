import FormLetter.Template.Token
import Mathlib.Data.List.Chain

/-!
# Literals of a template

Coalescing leaves no empty literal and no two literals next to each other. It may be done part by
part: what comes of a list of tokens depends on its parts only up to coalescing.

* `Token.IsCoalesced`: no literal is empty, and no two are neighbours.
* `Token.isCoalesced_coalesce`: coalescing leads there.
* `Token.coalesce_append`: coalescing part by part.
-/

namespace FormLetter

namespace Token

/-- Whether a token is a literal. -/
def isLiteral : Token → Bool
  | literal _ => true
  | _ => false

/-- No literal is empty, and no two are neighbours. -/
structure IsCoalesced (tokens : List Token) : Prop where
  /-- No literal is empty. -/
  ne_nil : ∀ source, literal source ∈ tokens → source ≠ []
  /-- No two literals are neighbours. -/
  apart : tokens.IsChain fun token next => ¬ (token.isLiteral = true ∧ next.isLiteral = true)

theorem isCoalesced_nil : IsCoalesced [] := ⟨fun _ h => absurd h List.not_mem_nil, .nil⟩

/-- A literal in front of coalesced tokens joins a literal that follows. -/
theorem IsCoalesced.consLiteral {tokens : List Token} (h : IsCoalesced tokens) (source : Text) :
    IsCoalesced (consLiteral source tokens) := by
  unfold Token.consLiteral
  split
  · exact h
  · rename_i _ _ next rest hne
    obtain ⟨hfirst, hrest⟩ := List.isChain_cons.1 h.apart
    refine ⟨fun other ho => ?_, List.isChain_cons.2 ⟨hfirst, hrest⟩⟩
    rcases List.mem_cons.1 ho with heq | ho
    · cases heq
      exact fun hnil => hne (List.append_eq_nil_iff.1 hnil).1
    · exact h.ne_nil other (List.mem_cons_of_mem _ ho)
  · rename_i hnil hliteral
    refine ⟨fun other ho => ?_, List.isChain_cons.2 ⟨?_, h.apart⟩⟩
    · rcases List.mem_cons.1 ho with heq | ho
      · cases heq
        exact hnil
      · exact h.ne_nil other ho
    · rintro next hn ⟨-, hl⟩
      cases next with
      | literal found =>
        obtain ⟨rest, rfl⟩ := List.head?_eq_some_iff.1 hn
        exact hliteral found rest rfl
      | tag => cases hl
      | block => cases hl

/-- A token other than a literal may stand in front of coalesced tokens. -/
theorem IsCoalesced.cons {token : Token} {tokens : List Token} (h : IsCoalesced tokens)
    (ht : token.isLiteral = false) : IsCoalesced (token :: tokens) := by
  refine ⟨fun source hs => ?_, List.isChain_cons.2 ⟨fun next _ hboth => ?_, h.apart⟩⟩
  · rcases List.mem_cons.1 hs with rfl | hs
    · cases ht
    · exact h.ne_nil source hs
  · rw [ht] at hboth
    exact Bool.false_ne_true hboth.1

theorem isCoalesced_coalesce (tokens : List Token) : IsCoalesced (coalesce tokens) := by
  fun_induction coalesce tokens with
  | case1 => exact isCoalesced_nil
  | case2 source tokens ih => exact ih.consLiteral source
  | case3 token tokens hliteral ih =>
    refine ih.cons ?_
    cases token with
    | literal source => exact absurd rfl (hliteral source)
    | tag => rfl
    | block => rfl

/-! ## Part by part -/

/-- Two literals in front of tokens are one. -/
theorem consLiteral_append (front back : Text) (tokens : List Token) :
    consLiteral (front ++ back) tokens = consLiteral front (consLiteral back tokens) := by
  cases front with
  | nil => rfl
  | cons c front =>
    cases back with
    | nil => rw [List.append_nil]; rfl
    | cons c' back =>
      cases tokens with
      | nil => rfl
      | cons token tokens => cases token <;> simp [consLiteral]

theorem coalesce_consLiteral_append (source : Text) (tokens others : List Token) :
    coalesce (consLiteral source tokens ++ others) =
      consLiteral source (coalesce (tokens ++ others)) := by
  unfold consLiteral
  split
  · rfl
  · rename_i next rest _
    rw [List.cons_append, coalesce, List.cons_append, coalesce, consLiteral_append]
    rfl
  · rw [List.cons_append, coalesce]
    rfl

/-- Tokens in front may be coalesced first. -/
theorem coalesce_coalesce_append (tokens others : List Token) :
    coalesce (coalesce tokens ++ others) = coalesce (tokens ++ others) := by
  fun_induction coalesce tokens with
  | case1 => rfl
  | case2 source tokens ih =>
    rw [coalesce_consLiteral_append, ih, List.cons_append, coalesce]
  | case3 token tokens hliteral ih =>
    rw [List.cons_append, List.cons_append, coalesce, coalesce, ih] <;> exact hliteral

/-- What follows may be coalesced first. -/
theorem coalesce_append_coalesce (tokens others : List Token) :
    coalesce (tokens ++ coalesce others) = coalesce (tokens ++ others) := by
  fun_induction coalesce tokens with
  | case1 => simpa using coalesce_coalesce_append others []
  | case2 source tokens ih => rw [List.cons_append, List.cons_append, coalesce, coalesce, ih]
  | case3 token tokens hliteral ih =>
    rw [List.cons_append, List.cons_append, coalesce, coalesce, ih] <;> exact hliteral

theorem coalesce_coalesce (tokens : List Token) : coalesce (coalesce tokens) = coalesce tokens := by
  simpa using coalesce_coalesce_append tokens []

/-- What comes of tokens depends on the parts only up to coalescing. -/
theorem coalesce_append {front front' back back' : List Token}
    (hf : coalesce front = coalesce front') (hb : coalesce back = coalesce back') :
    coalesce (front ++ back) = coalesce (front' ++ back') := by
  calc coalesce (front ++ back)
      = coalesce (coalesce front ++ coalesce back) := by
        rw [coalesce_coalesce_append, coalesce_append_coalesce]
    _ = coalesce (coalesce front' ++ coalesce back') := by rw [hf, hb]
    _ = coalesce (front' ++ back') := by rw [coalesce_coalesce_append, coalesce_append_coalesce]

theorem coalesce_cons {tokens others : List Token} (token : Token)
    (h : coalesce tokens = coalesce others) :
    coalesce (token :: tokens) = coalesce (token :: others) :=
  @coalesce_append [token] [token] tokens others rfl h

end Token

end FormLetter
