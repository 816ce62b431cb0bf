import FormLetter.Proofs.Render.Kept

/-!
# The skeleton of rendered text

The braces and angle brackets of a text are its skeleton: they decide where tags, blocks and markup
begin and end. With escaped braces a value adds nothing to it, so the skeleton of rendered text
depends on the values only through the branches that they select.

* `skeleton`: the delimiters of a text.
* `Scope.path`: the tokens that are reached through the branches that are taken.
* `Scope.path_congr`: scopes that agree on every condition take the same path.
* `Scope.skeleton_render`: the skeleton of rendered text is that of the literals on the path.
-/

namespace FormLetter

open Text

/-- The braces and angle brackets of a text, in order. -/
def skeleton (text : Text) : Text := text.filter isDelimiter

/-! ## Conditions -/

/-- The conditions on the branches of a token. -/
def Token.ownConditions : Token → List Condition
  | .block _ branches _ => branches.filterMap Branch.condition
  | _ => []

/-- The conditions of tokens and of all branches inside them, whether taken or not. -/
def Token.conditions (tokens : List Token) : List Condition :=
  (Token.walk tokens).flatMap Token.ownConditions

/-- The text of the literals among tokens, one behind the other. -/
def Token.literalText (tokens : List Token) : Text :=
  tokens.flatMap fun
    | .literal source => source
    | _ => []

theorem Token.literalText_append (front back : List Token) :
    Token.literalText (front ++ back) = Token.literalText front ++ Token.literalText back :=
  List.flatMap_append

namespace Scope

/-- Whether a condition holds. -/
def holds (scope : Scope) (condition : Condition) : Bool := (condition.evaluate scope.valueOf).1

/-! ## The path -/

mutual

/-- A token and, for a block, the tokens on the path through the branch that is taken. -/
def pathToken (scope : Scope) : Token → List Token
  | .block kind branches close => .block kind branches close :: scope.pathBranches kind branches
  | token => [token]

/-- The tokens that are reached when only the branches that are taken are entered, each block in
front of its content. -/
def path (scope : Scope) : List Token → List Token
  | [] => []
  | token :: tokens => scope.pathToken token ++ scope.path tokens

/-- The path through the first branch whose condition holds or that has none. A block that is kept
or left out has only one branch to try. -/
def pathBranches (scope : Scope) (kind : BlockKind) : List Branch → List Token
  | [] => []
  | .mk none _ content :: _ => scope.path content
  | .mk (some condition) _ content :: branches =>
    if scope.holds condition then scope.path content
    else if kind = .listIf then []
    else scope.pathBranches kind branches

end

mutual

theorem keptToken_eq (scope : Scope) :
    (token : Token) → scope.keptToken token = Token.literalText (scope.pathToken token)
  | .literal source => by simp [keptToken, pathToken, Token.literalText]
  | .tag mergeTag => by simp [keptToken, pathToken, Token.literalText]
  | .block kind branches close => by
    rw [keptToken, pathToken, keptBranches_eq scope kind branches]
    rfl

/-- What rendering keeps is the text of the literals on the path. -/
theorem kept_eq (scope : Scope) :
    (tokens : List Token) → scope.kept tokens = Token.literalText (scope.path tokens)
  | [] => by
    rw [kept, path]
    rfl
  | token :: tokens => by
    rw [kept, path, keptToken_eq scope token, kept_eq scope tokens, Token.literalText_append]

theorem keptBranches_eq (scope : Scope) (kind : BlockKind) :
    (branches : List Branch) →
      scope.keptBranches kind branches = Token.literalText (scope.pathBranches kind branches)
  | [] => by
    rw [keptBranches, pathBranches]
    rfl
  | .mk none _ content :: _ => by
    rw [keptBranches, pathBranches, kept_eq scope content]
  | .mk (some condition) _ content :: branches => by
    rw [keptBranches, pathBranches, kept_eq scope content, keptBranches_eq scope kind branches,
      holds]
    split
    · rfl
    · split <;> rfl

end

/-! ## Scopes that agree -/

section

variable {scope other : Scope}

mutual

theorem pathToken_congr :
    (token : Token) →
      (∀ condition ∈ token.walkOne.flatMap Token.ownConditions,
        scope.holds condition = other.holds condition) →
      scope.pathToken token = other.pathToken token
  | .literal _, _ => by rw [pathToken, pathToken] <;> exact fun _ _ _ => Token.noConfusion
  | .tag _, _ => by rw [pathToken, pathToken] <;> exact fun _ _ _ => Token.noConfusion
  | .block kind branches close, h => by
    rw [Token.walkOne, List.flatMap_cons] at h
    obtain ⟨hown, hinner⟩ := List.forall_mem_append.1 h
    rw [pathToken, pathToken, pathBranches_congr kind branches hown hinner]

/-- Scopes that agree on every condition take the same path. -/
theorem path_congr :
    (tokens : List Token) →
      (∀ condition ∈ Token.conditions tokens, scope.holds condition = other.holds condition) →
      scope.path tokens = other.path tokens
  | [], _ => by rw [path, path]
  | token :: tokens, h => by
    rw [Token.conditions, Token.walk, List.flatMap_append] at h
    obtain ⟨hfirst, hrest⟩ := List.forall_mem_append.1 h
    rw [path, path, pathToken_congr token hfirst, path_congr tokens hrest]

theorem pathBranches_congr (kind : BlockKind) :
    (branches : List Branch) →
      (∀ condition ∈ branches.filterMap Branch.condition,
        scope.holds condition = other.holds condition) →
      (∀ condition ∈ (Branch.walk branches).flatMap Token.ownConditions,
        scope.holds condition = other.holds condition) →
      scope.pathBranches kind branches = other.pathBranches kind branches
  | [], _, _ => by rw [pathBranches, pathBranches]
  | .mk none _ content :: branches, _, h => by
    rw [Branch.walk, Branch.walkOne, List.flatMap_append] at h
    rw [pathBranches, pathBranches, path_congr content (List.forall_mem_append.1 h).1]
  | .mk (some condition) _ content :: branches, hown, h => by
    rw [Branch.walk, Branch.walkOne, List.flatMap_append] at h
    obtain ⟨hcontent, hrest⟩ := List.forall_mem_append.1 h
    obtain ⟨hholds, hothers⟩ := List.forall_mem_cons.1 hown
    rw [pathBranches, pathBranches, hholds, path_congr content hcontent,
      pathBranches_congr kind branches hothers hrest]

end

end

/-- **Values add no delimiter.** With escaped braces the skeleton of rendered text is that of the
literals on the path, whatever the values and the modifiers; under another context that gives every
condition the same truth value, the skeleton is the same. -/
theorem skeleton_render {settings : Settings} (h : settings.escapeBraces = true)
    (context : Context) (tokens : List Token) :
    skeleton (Scope.render ⟨settings, context⟩ tokens).text =
        skeleton (Token.literalText (Scope.path ⟨settings, context⟩ tokens)) ∧
      ∀ other : Context,
        (∀ condition ∈ Token.conditions tokens,
          Scope.holds ⟨settings, context⟩ condition = Scope.holds ⟨settings, other⟩ condition) →
        skeleton (Scope.render ⟨settings, context⟩ tokens).text =
          skeleton (Scope.render ⟨settings, other⟩ tokens).text := by
  have hpath (context : Context) : skeleton (Scope.render ⟨settings, context⟩ tokens).text =
      skeleton (Token.literalText (Scope.path ⟨settings, context⟩ tokens)) := by
    rw [← kept_eq]
    exact filter_render h tokens
  refine ⟨hpath context, fun other hagree => ?_⟩
  rw [hpath context, hpath other, path_congr tokens hagree]

/-- A value that modifiers turn into markup and braces, beside an empty one. -/
theorem skeleton_render_note :
    let settings : Settings := {}
    let context : Context := .ofList [("A".toList, "x".toList), ("Note".toList, "(if)".toList)]
    let other : Context := .ofList [("A".toList, "y".toList), ("Note".toList, [])]
    let note : MergeTag := ⟨"Note".toList,
      [.replace "(".toList "<\x7b".toList, .replace ")".toList "\x7d>".toList], "{$Note}".toList⟩
    let tokens : List Token :=
      [.literal "<p>".toList, .block .ifBlock
        [.mk (some (Condition.parse "$A".toList)) "{if $A}".toList
          [.literal "\x7b".toList, .tag note],
          .mk none "{else}".toList [.literal "\x7d".toList]] "{/if}".toList]
    settings.escapeBraces = true ∧
      (∀ condition ∈ Token.conditions tokens,
        Scope.holds ⟨settings, context⟩ condition = Scope.holds ⟨settings, other⟩ condition) ∧
      skeleton (Scope.render ⟨settings, context⟩ tokens).text = "<>\x7b".toList ∧
      skeleton (Scope.render ⟨settings, context⟩ tokens).text =
        skeleton (Scope.render ⟨settings, other⟩ tokens).text := by
  intro settings context other note tokens
  have hagree : ∀ condition ∈ Token.conditions tokens,
      Scope.holds ⟨settings, context⟩ condition = Scope.holds ⟨settings, other⟩ condition := by
    decide +kernel
  have hescape : settings.escapeBraces = true := rfl
  obtain ⟨hpath, hsame⟩ := skeleton_render hescape context tokens
  refine ⟨hescape, hagree, ?_, hsame other hagree⟩
  rw [hpath]
  decide +kernel

end Scope

end FormLetter
