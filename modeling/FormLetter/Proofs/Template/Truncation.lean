import FormLetter.Proofs.Template.Literal

/-!
# Truncated templates

A template is truncated to a depth by making each block beyond the depth text: its markers, and
between them its contents, treated the same way. Literals that come next to each other are joined,
and it does not matter whether some of them are joined before.

* `Token.truncate`: tokens with their blocks kept down to a depth.
* `Token.coalesce_truncateEach_coalesce`: literals may be joined before a template is truncated.
* `Branch.truncate_append`, `Branch.asText_append`: branches are truncated one by one.
-/

namespace FormLetter

mutual

/-- A token with the blocks in it kept down to a depth. A block beyond the depth is text. -/
def Token.truncateOne (depth : Nat) : Token → List Token
  | .block kind branches close =>
    match depth with
    | 0 => Branch.asText branches ++ [.literal close]
    | inner + 1 => [.block kind (Branch.truncate inner branches) close]
  | token => [token]

/-- Tokens with the blocks in them kept down to a depth, without joining literals. -/
def Token.truncateEach (depth : Nat) : List Token → List Token
  | [] => []
  | token :: tokens => token.truncateOne depth ++ Token.truncateEach depth tokens

/-- Branches with the blocks in them kept down to a depth. -/
def Branch.truncate (depth : Nat) : List Branch → List Branch
  | [] => []
  | .mk condition marker content :: branches =>
    .mk condition marker (Token.coalesce (Token.truncateEach depth content)) ::
      Branch.truncate depth branches

/-- Branches as text: the marker of each in front of its content, in which no block is kept. -/
def Branch.asText : List Branch → List Token
  | [] => []
  | .mk _ marker content :: branches =>
    .literal marker :: Token.truncateEach 0 content ++ Branch.asText branches

end

/-- Tokens with the blocks in them kept down to a depth. -/
def Token.truncate (depth : Nat) (tokens : List Token) : List Token :=
  Token.coalesce (Token.truncateEach depth tokens)

namespace Token

variable (depth : Nat)

@[simp] theorem truncateEach_nil : truncateEach depth [] = [] := by rw [truncateEach]

theorem truncateEach_cons (token : Token) (tokens : List Token) :
    truncateEach depth (token :: tokens) =
      token.truncateOne depth ++ truncateEach depth tokens := by
  rw [truncateEach]

theorem truncateOne_block_zero (kind : BlockKind) (branches : List Branch) (close : Text) :
    (block kind branches close).truncateOne 0 = Branch.asText branches ++ [literal close] := by
  rw [truncateOne]

theorem truncateOne_block_succ (kind : BlockKind) (branches : List Branch) (close : Text) :
    (block kind branches close).truncateOne (depth + 1) =
      [block kind (Branch.truncate depth branches) close] := by
  rw [truncateOne]

theorem truncateOne_of_not_block {token : Token}
    (h : ∀ kind branches close, token ≠ .block kind branches close) :
    token.truncateOne depth = [token] := by
  cases token with
  | block kind branches close => exact absurd rfl (h kind branches close)
  | literal source => rw [truncateOne]; exact fun _ _ _ => Token.noConfusion
  | tag mergeTag => rw [truncateOne]; exact fun _ _ _ => Token.noConfusion

theorem truncateOne_literal (source : Text) :
    (literal source).truncateOne depth = [literal source] :=
  truncateOne_of_not_block depth fun _ _ _ => Token.noConfusion

/-- Text stays as it is. -/
theorem truncateEach_of_not_block {tokens : List Token}
    (h : ∀ token ∈ tokens, ∀ kind branches close, token ≠ .block kind branches close) :
    truncateEach depth tokens = tokens := by
  induction tokens with
  | nil => rw [truncateEach]
  | cons token tokens ih =>
    obtain ⟨hfirst, hrest⟩ := List.forall_mem_cons.1 h
    rw [truncateEach, truncateOne_of_not_block depth hfirst, ih hrest]
    rfl

theorem truncateEach_singleton_literal (source : Text) :
    truncateEach depth [literal source] = [literal source] := by
  rw [truncateEach_cons, truncateOne_literal, truncateEach_nil]
  rfl

theorem truncateEach_append (front back : List Token) :
    truncateEach depth (front ++ back) = truncateEach depth front ++ truncateEach depth back := by
  induction front with
  | nil => rw [truncateEach_nil]; rfl
  | cons token front ih =>
    rw [List.cons_append, truncateEach_cons, ih, truncateEach_cons, List.append_assoc]

theorem coalesce_truncateEach_consLiteral (source : Text) (tokens : List Token) :
    coalesce (truncateEach depth (consLiteral source tokens)) =
      consLiteral source (coalesce (truncateEach depth tokens)) := by
  have hcons (source : Text) (tokens : List Token) :
      coalesce (truncateEach depth (literal source :: tokens)) =
        consLiteral source (coalesce (truncateEach depth tokens)) := by
    rw [truncateEach_cons, truncateOne_literal, List.singleton_append, coalesce]
  unfold consLiteral
  split
  · rfl
  · rw [hcons, hcons, consLiteral_append]
    rfl
  · rw [hcons]
    rfl

/-- Literals may be joined before a template is truncated. -/
theorem coalesce_truncateEach_coalesce (tokens : List Token) :
    coalesce (truncateEach depth (coalesce tokens)) = coalesce (truncateEach depth tokens) := by
  fun_induction coalesce tokens with
  | case1 => rfl
  | case2 source tokens ih =>
    rw [coalesce_truncateEach_consLiteral, ih, truncateEach_cons, truncateOne_literal,
      List.singleton_append, coalesce]
  | case3 token tokens _ ih =>
    rw [truncateEach_cons, truncateEach_cons]
    exact coalesce_append rfl ih

end Token

namespace Branch

theorem truncate_append (depth : Nat) (front back : List Branch) :
    truncate depth (front ++ back) = truncate depth front ++ truncate depth back := by
  induction front with
  | nil => rw [truncate]; rfl
  | cons branch front ih =>
    obtain ⟨condition, marker, content⟩ := branch
    rw [List.cons_append, truncate, ih, truncate, List.cons_append]

theorem truncate_reverse (depth : Nat) (branches : List Branch) :
    truncate depth branches.reverse = (truncate depth branches).reverse := by
  induction branches with
  | nil => simp only [List.reverse_nil, truncate]
  | cons branch branches ih =>
    obtain ⟨condition, marker, content⟩ := branch
    rw [List.reverse_cons, truncate_append, ih, truncate, truncate, truncate, List.reverse_cons]

theorem asText_append (front back : List Branch) :
    asText (front ++ back) = asText front ++ asText back := by
  induction front with
  | nil => rw [asText]; rfl
  | cons branch front ih =>
    obtain ⟨condition, marker, content⟩ := branch
    rw [List.cons_append, asText, ih, asText, List.append_assoc]

theorem asText_singleton (condition : Option Condition) (marker : Text) (content : List Token) :
    asText [.mk condition marker content] = .literal marker :: Token.truncateEach 0 content := by
  rw [asText, asText, List.append_nil]

end Branch

end FormLetter
