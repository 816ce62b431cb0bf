import FormLetter.Log.Rendering
import FormLetter.Proofs.Render.Dependence

/-!
# Alternatives as blocks of their own

An `elseif` is an `else` that holds another block. A template in which every alternative is moved
into a block of its own is rendered as before, and what is looked up and noticed on the way is the
same; only the number of decided blocks differs.

* `Branch.nest`: the alternatives of one block, each in a block of its own.
* `Token.nestedAll`: the same for all blocks at any depth.
* `Token.LacksElseif`: what a block is like afterwards.
* `Scope.Course`: what a rendering gives, without the count of blocks, and the steps it takes.
* `Scope.branches_append`: nothing behind a branch that is admitted is tried.
* `Scope.render_nestedAll`: both templates are rendered alike.
-/

namespace FormLetter

/-! ## Moving alternatives -/

/-- The branches of a block with each alternative that has a condition moved into an `else` of the
branch in front of it, where it opens a block of its own. -/
def Branch.nest (close : Text) : List Branch → List Branch
  | branch :: next :: branches =>
    if next.condition.isSome then
      [branch, .mk none "{else}".toList [.block .ifBlock (nest close (next :: branches)) close]]
    else branch :: next :: branches
  | branches => branches

mutual

/-- A token in which the alternatives of every block stand in blocks of their own. -/
def Token.nested : Token → Token
  | .literal source => .literal source
  | .tag mergeTag => .tag mergeTag
  | .block .ifBlock branches close =>
    .block .ifBlock (Branch.nest close (Branch.nestedAll branches)) close
  | .block .listIf branches close => .block .listIf (Branch.nestedAll branches) close

/-- Tokens in which the alternatives of every block stand in blocks of their own. -/
def Token.nestedAll : List Token → List Token
  | [] => []
  | token :: tokens => token.nested :: Token.nestedAll tokens

/-- Branches with such contents. -/
def Branch.nestedAll : List Branch → List Branch
  | [] => []
  | .mk condition marker content :: branches =>
    .mk condition marker (Token.nestedAll content) :: Branch.nestedAll branches

end

/-- A token that is no block whose second branch is an `elseif`. -/
def Token.LacksElseif : Token → Prop
  | .block .ifBlock (_ :: next :: _) _ => next.condition = none
  | _ => True

theorem Branch.lacksElseif_nest {branches : List Branch} {close : Text}
    (h : ∀ token ∈ Branch.walk branches, token.LacksElseif) :
    ∀ token ∈ (Token.block .ifBlock (Branch.nest close branches) close).walkOne,
      token.LacksElseif := by
  fun_induction Branch.nest close branches with
  | case1 branch next branches _ ih =>
    rw [Branch.walk, List.forall_mem_append] at h
    rw [Token.walkOne, Branch.walk, Branch.walk, Branch.walk, Branch.walkOne, Token.walk,
      Token.walk, List.append_nil, List.append_nil, List.forall_mem_cons, List.forall_mem_append]
    exact ⟨rfl, h.1, ih h.2⟩
  | case2 branch next branches hnext =>
    rw [Token.walkOne, List.forall_mem_cons]
    exact ⟨Option.not_isSome_iff_eq_none.1 hnext, h⟩
  | case3 branches hshort =>
    rw [Token.walkOne, List.forall_mem_cons]
    refine ⟨?_, h⟩
    match branches, hshort with
    | [], _ => trivial
    | [_], _ => trivial
    | _ :: _ :: _, hshort => exact (hshort _ _ _ rfl).elim

mutual

theorem Token.lacksElseif_nested :
    (token : Token) → ∀ inner ∈ token.nested.walkOne, inner.LacksElseif
  | .literal _ => by simp [Token.nested, Token.walkOne, Token.LacksElseif]
  | .tag _ => by simp [Token.nested, Token.walkOne, Token.LacksElseif]
  | .block .ifBlock branches close => by
    rw [Token.nested]
    exact Branch.lacksElseif_nest (Branch.lacksElseif_nestedAll branches)
  | .block .listIf branches close => by
    rw [Token.nested, Token.walkOne]
    exact List.forall_mem_cons.2 ⟨trivial, Branch.lacksElseif_nestedAll branches⟩

theorem Token.lacksElseif_nestedAll :
    (tokens : List Token) → ∀ token ∈ Token.walk (Token.nestedAll tokens), token.LacksElseif
  | [] => by simp [Token.nestedAll, Token.walk]
  | token :: tokens => by
    rw [Token.nestedAll, Token.walk, List.forall_mem_append]
    exact ⟨Token.lacksElseif_nested token, Token.lacksElseif_nestedAll tokens⟩

theorem Branch.lacksElseif_nestedAll :
    (branches : List Branch) → ∀ token ∈ Branch.walk (Branch.nestedAll branches), token.LacksElseif
  | [] => by simp [Branch.nestedAll, Branch.walk]
  | .mk _ _ content :: branches => by
    rw [Branch.nestedAll, Branch.walk, Branch.walkOne, List.forall_mem_append]
    exact ⟨Token.lacksElseif_nestedAll content, Branch.lacksElseif_nestedAll branches⟩

end

/-! ## The course of a rendering -/

/-- What is rendered, with no block counted. -/
def Rendered.undecided (rendered : Rendered) : Rendered := { rendered with decided := 0 }

namespace Scope

/-- What a rendering gives, without the count of blocks, and the steps it takes. -/
structure Course where
  /-- The result without the count of blocks. -/
  rendered : Rendered
  /-- The steps, in order. -/
  steps : List RenderStep

/-- One course behind another. -/
def Course.append (front back : Course) : Course :=
  ⟨front.rendered ++ back.rendered, front.steps ++ back.steps⟩

instance : Append Course := ⟨Course.append⟩

/-- The course of a rendering of nothing. -/
def Course.empty : Course := ⟨.empty, []⟩

theorem Course.empty_append (course : Course) : Course.empty ++ course = course := by
  show Course.append Course.empty course = course
  rw [Course.append, Course.empty, Rendered.empty_append, List.nil_append]

theorem Course.append_empty (course : Course) : course ++ Course.empty = course := by
  show Course.append course Course.empty = course
  rw [Course.append, Course.empty, Rendered.append_empty, List.append_nil]

/-- The course of rendering a token. -/
def courseToken (scope : Scope) (token : Token) : Course :=
  ⟨(scope.renderToken token).undecided, scope.tokenSteps token⟩

/-- The course of rendering tokens. -/
def course (scope : Scope) (tokens : List Token) : Course :=
  ⟨(scope.render tokens).undecided, scope.steps tokens⟩

/-- The course of choosing and rendering a branch. -/
def courseBranches (scope : Scope) (kind : BlockKind) (branches : List Branch) : Course :=
  ⟨(scope.renderBranches kind branches).undecided, scope.branchSteps kind branches⟩

/-- The steps of trying whether a branch may be rendered. -/
def triedSteps (scope : Scope) (branch : Branch) : List RenderStep :=
  (branch.condition.map (Condition.steps scope.valueOf)).getD []

/-- The course of trying whether a branch may be rendered. -/
def courseTried (scope : Scope) (branch : Branch) : Course :=
  ⟨scope.tried branch, scope.triedSteps branch⟩

section

variable {scope : Scope} {kind : BlockKind} {branch : Branch} {branches : List Branch}

theorem branchSteps_cons_of_admits (h : scope.admits branch = true) :
    scope.branchSteps kind (branch :: branches) =
      scope.triedSteps branch ++ scope.steps branch.content := by
  obtain ⟨condition, marker, content⟩ := branch
  cases condition with
  | none =>
    rw [branchSteps]
    rfl
  | some condition =>
    rw [branchSteps, if_pos (show (condition.evaluate scope.valueOf).1 = true from h)]
    rfl

theorem branchSteps_cons_of_not_admits (h : ¬ scope.admits branch = true) :
    scope.branchSteps kind (branch :: branches) = scope.triedSteps branch ++
      if kind = .listIf then [] else scope.branchSteps kind branches := by
  obtain ⟨condition, marker, content⟩ := branch
  cases condition with
  | none => exact absurd rfl h
  | some condition =>
    rw [branchSteps, if_neg (show ¬ (condition.evaluate scope.valueOf).1 = true from h)]
    rfl

/-- Nothing behind a branch that is admitted is tried or rendered. -/
theorem branches_append (front back : List Branch) (h : scope.admits branch = true) :
    scope.branchSteps kind (front ++ branch :: back) =
        scope.branchSteps kind (front ++ [branch]) ∧
      scope.renderBranches kind (front ++ branch :: back) =
        scope.renderBranches kind (front ++ [branch]) := by
  induction front with
  | nil =>
    rw [List.nil_append, List.nil_append, branchSteps_cons_of_admits h,
      branchSteps_cons_of_admits h, renderBranches_cons_of_admits h,
      renderBranches_cons_of_admits h]
    exact ⟨rfl, rfl⟩
  | cons first front ih =>
    rw [List.cons_append, List.cons_append]
    by_cases hfirst : scope.admits first = true
    · rw [branchSteps_cons_of_admits hfirst, branchSteps_cons_of_admits hfirst,
        renderBranches_cons_of_admits hfirst, renderBranches_cons_of_admits hfirst]
      exact ⟨rfl, rfl⟩
    · rw [branchSteps_cons_of_not_admits hfirst, branchSteps_cons_of_not_admits hfirst,
        renderBranches_cons_of_not_admits hfirst, renderBranches_cons_of_not_admits hfirst, ih.1,
        ih.2]
      exact ⟨rfl, rfl⟩

theorem course_cons (token : Token) (tokens : List Token) :
    scope.course (token :: tokens) = scope.courseToken token ++ scope.course tokens := by
  rw [course, render, steps]
  rfl

theorem courseToken_block (close : Text) :
    scope.courseToken (.block kind branches close) = scope.courseBranches kind branches := by
  rw [courseToken, renderToken, tokenSteps]
  exact congrArg (Course.mk · _)
    (Rendered.empty_append (scope.renderBranches kind branches).undecided)

theorem courseBranches_cons_of_admits (h : scope.admits branch = true) :
    scope.courseBranches kind (branch :: branches) =
      scope.courseTried branch ++ scope.course branch.content := by
  rw [courseBranches, renderBranches_cons_of_admits h, branchSteps_cons_of_admits h]
  rfl

theorem courseBranches_cons_of_not_admits (h : ¬ scope.admits branch = true) :
    scope.courseBranches kind (branch :: branches) = scope.courseTried branch ++
      if kind = .listIf then .empty else scope.courseBranches kind branches := by
  rw [courseBranches, renderBranches_cons_of_not_admits h, branchSteps_cons_of_not_admits h]
  split
  · rfl
  · rfl

/-! ## The same course -/

/-- The alternatives of one block may stand in blocks of their own. -/
theorem courseBranches_nest (close : Text) (branches : List Branch) :
    scope.courseBranches .ifBlock (Branch.nest close branches) =
      scope.courseBranches .ifBlock branches := by
  fun_induction Branch.nest close branches with
  | case1 branch next branches _ ih =>
    by_cases hbranch : scope.admits branch = true
    · rw [courseBranches_cons_of_admits hbranch, courseBranches_cons_of_admits hbranch]
    · -- The `else` is admitted without a step, and the block inside it tries the next branch.
      have helse (content : List Token) :
          scope.courseBranches .ifBlock [.mk none "{else}".toList content] =
            scope.course content :=
        (courseBranches_cons_of_admits rfl).trans (Course.empty_append _)
      rw [courseBranches_cons_of_not_admits hbranch, courseBranches_cons_of_not_admits hbranch,
        helse, course_cons, courseToken_block, ih]
      exact congrArg (_ ++ ·) (Course.append_empty _)
  | case2 branch next branches _ => rfl
  | case3 branches _ => rfl

mutual

theorem courseToken_nested :
    (token : Token) → scope.courseToken token.nested = scope.courseToken token
  | .literal _ => by rw [Token.nested]
  | .tag _ => by rw [Token.nested]
  | .block .ifBlock branches close => by
    rw [Token.nested, courseToken_block, courseToken_block, courseBranches_nest,
      courseBranches_nestedAll .ifBlock branches]
  | .block .listIf branches close => by
    rw [Token.nested, courseToken_block, courseToken_block,
      courseBranches_nestedAll .listIf branches]

theorem course_nestedAll :
    (tokens : List Token) → scope.course (Token.nestedAll tokens) = scope.course tokens
  | [] => by rw [Token.nestedAll]
  | token :: tokens => by
    rw [Token.nestedAll, course_cons, course_cons, courseToken_nested token,
      course_nestedAll tokens]

theorem courseBranches_nestedAll (kind : BlockKind) :
    (branches : List Branch) →
      scope.courseBranches kind (Branch.nestedAll branches) = scope.courseBranches kind branches
  | [] => by rw [Branch.nestedAll]
  | .mk condition marker content :: branches => by
    rw [Branch.nestedAll]
    by_cases h : scope.admits (.mk condition marker content) = true
    · have hnested : scope.admits (.mk condition marker (Token.nestedAll content)) = true := h
      rw [courseBranches_cons_of_admits h, courseBranches_cons_of_admits hnested, Branch.content,
        course_nestedAll content]
      rfl
    · have hnested : ¬ scope.admits (.mk condition marker (Token.nestedAll content)) = true := h
      rw [courseBranches_cons_of_not_admits h, courseBranches_cons_of_not_admits hnested,
        courseBranches_nestedAll kind branches]
      rfl

end

end

/-- **Alternatives as blocks of their own.** With the alternatives of all blocks moved into blocks
of their own no `elseif` follows a first branch any more. The text, the number of values, the
unresolved identifiers and the findings stay as they are, and so does every step on the way: what is
looked up and noticed, and when. Within a block nothing behind a branch that is admitted is looked
up, noticed or rendered. -/
theorem render_nestedAll (scope : Scope) (tokens : List Token) :
    (∀ token ∈ Token.walk (Token.nestedAll tokens), token.LacksElseif) ∧
      (scope.render (Token.nestedAll tokens)).text = (scope.render tokens).text ∧
      (scope.render (Token.nestedAll tokens)).substituted = (scope.render tokens).substituted ∧
      (scope.render (Token.nestedAll tokens)).unresolved = (scope.render tokens).unresolved ∧
      (scope.render (Token.nestedAll tokens)).findings = (scope.render tokens).findings ∧
      scope.steps (Token.nestedAll tokens) = scope.steps tokens ∧
      ∀ (kind : BlockKind) (front back : List Branch) (branch : Branch),
        scope.admits branch = true →
          scope.branchSteps kind (front ++ branch :: back) =
              scope.branchSteps kind (front ++ [branch]) ∧
            scope.renderBranches kind (front ++ branch :: back) =
              scope.renderBranches kind (front ++ [branch]) := by
  have h : scope.course (Token.nestedAll tokens) = scope.course tokens := course_nestedAll tokens
  exact ⟨Token.lacksElseif_nestedAll tokens, congrArg (·.rendered.text) h,
    congrArg (·.rendered.substituted) h, congrArg (·.rendered.unresolved) h,
    congrArg (·.rendered.findings) h, congrArg (·.steps) h,
    fun _ front back _ hadmits => branches_append front back hadmits⟩

/-- A block whose first condition ends at its first operand, whose second holds, and whose third is
no condition. -/
theorem render_nestedAll_third :
    let scope : Scope := ⟨{}, .ofList [("State".toList, "NSW".toList)]⟩
    let branch (word condition : String) (content : List Token) : Branch :=
      .mk (some (Condition.parse condition.toList)) s!"\x7b{word} {condition}\x7d".toList content
    let first := branch "if" "$Fax and maybe" [.literal "fax".toList]
    let second := branch "elseif" "$State and !empty($State)"
      [.literal "in ".toList, .tag ⟨"Town".toList, [], "{$Town}".toList⟩]
    let third := branch "elseif" "maybe" []
    let tokens : List Token := [.block .ifBlock [first, second, third] "{/if}".toList]
    scope.admits second = true ∧
      (scope.render (Token.nestedAll tokens)).text = "in ".toList ∧
      (scope.render (Token.nestedAll tokens)).unresolved = ["Town".toList] ∧
      scope.steps (Token.nestedAll tokens) =
        [.lookedUp "Fax".toList, .lookedUp "State".toList, .lookedUp "State".toList,
          .lookedUp "Town".toList, .noticed (.unresolved "Town".toList "{$Town}".toList)] ∧
      scope.branchSteps .ifBlock [first, second, third] =
        scope.branchSteps .ifBlock [first, second] := by
  intro scope branch first second third tokens
  have hadmits : scope.admits second = true := by decide +kernel
  obtain ⟨-, htext, -, hunresolved, -, hsteps, hbehind⟩ := render_nestedAll scope tokens
  exact ⟨hadmits, htext.trans (by decide +kernel), hunresolved.trans (by decide +kernel),
    hsteps.trans (by decide +kernel), (hbehind .ifBlock [first] [third] second hadmits).1⟩

end Scope

end FormLetter
