import FormLetter.Proofs.Render.Skeleton
import FormLetter.Proofs.Template.Assembly

/-!
# What rendering depends on

A rendering asks a context for the values of the identifiers that its template mentions, and for
nothing else; of each block it reads the branch that is selected, and of the others the conditions.

* `Condition.evaluate_congr`: a condition depends on the identifiers that it asks for.
* `Scope.render_congr`: scopes that agree at every token render alike.
* `Token.identifiers`: the identifiers that a template mentions.
* `Scope.selected?`: the branch of a block that is rendered.
* `Scope.SameSelected`: templates that differ inside branches that are not selected.
* `Scope.render_determined`: what determines a rendering.
-/

namespace FormLetter

/-! ## Conditions -/

section

variable {valueOf other : Text → Text}

theorem Atom.holds_congr {atom : Atom}
    (h : ∀ identifier ∈ atom.identifier?, valueOf identifier = other identifier) :
    atom.holds valueOf = atom.holds other := by
  cases atom with
  | invalid text => rfl
  | _ => simp only [Atom.holds, h _ rfl]

namespace Condition

theorem evaluateOperand_congr {operand : Condition}
    (h : ∀ identifier ∈ operand.identifiers, valueOf identifier = other identifier) :
    operand.evaluateOperand valueOf = operand.evaluateOperand other := by
  cases operand with
  | test atom =>
    rw [identifiers_test] at h
    rw [evaluateOperand, evaluateOperand,
      Atom.holds_congr fun identifier hi => h identifier (Option.mem_toList.2 hi)]
  | all operands => rfl

/-- Operands are tried alike and end at the same one. -/
theorem evaluateOperands_congr {operands : List Condition}
    (h : ∀ identifier ∈ identifiersOfAll operands, valueOf identifier = other identifier) :
    evaluateOperands valueOf operands = evaluateOperands other operands := by
  induction operands with
  | nil => rfl
  | cons operand operands ih =>
    rw [identifiersOfAll] at h
    obtain ⟨hfirst, hrest⟩ := List.forall_mem_append.1 h
    rw [evaluateOperands, evaluateOperands, evaluateOperand_congr hfirst, ih hrest]

/-- A condition depends only on the values of the identifiers that it asks for. -/
theorem evaluate_congr {condition : Condition}
    (h : ∀ identifier ∈ condition.identifiers, valueOf identifier = other identifier) :
    condition.evaluate valueOf = condition.evaluate other := by
  cases condition with
  | test atom => exact evaluateOperand_congr h
  | all operands =>
    rw [identifiers] at h
    exact evaluateOperands_congr fun identifier hi => h identifier (List.mem_eraseDups.2 hi)

end Condition

end

namespace Scope

/-! ## Scopes that agree -/

/-- Under two scopes a token by itself does the same: a tag is replaced by the same, and the
conditions of a block are evaluated alike. -/
def AgreeAt (scope other : Scope) : Token → Prop
  | .literal _ => True
  | .tag mergeTag => scope.tag mergeTag = other.tag mergeTag
  | .block _ branches _ => ∀ condition ∈ branches.filterMap Branch.condition,
    condition.evaluate scope.valueOf = condition.evaluate other.valueOf

section

variable {scope other : Scope}

mutual

theorem renderToken_congr :
    (token : Token) → (∀ inner ∈ token.walkOne, AgreeAt scope other inner) →
      scope.renderToken token = other.renderToken token
  | .literal _, _ => by rw [renderToken, renderToken]
  | .tag mergeTag, h => by
    rw [Token.walkOne] at h
    · rw [renderToken, renderToken]
      exact h _ List.mem_cons_self
    · exact fun _ _ _ => Token.noConfusion
  | .block kind branches close, h => by
    rw [Token.walkOne] at h
    obtain ⟨hown, hinner⟩ := List.forall_mem_cons.1 h
    rw [renderToken, renderToken, renderBranches_congr kind branches hown hinner]

/-- Scopes that agree at every token render alike. -/
theorem render_congr :
    (tokens : List Token) → (∀ token ∈ Token.walk tokens, AgreeAt scope other token) →
      scope.render tokens = other.render tokens
  | [], _ => by rw [render, render]
  | token :: tokens, h => by
    rw [Token.walk] at h
    obtain ⟨hfirst, hrest⟩ := List.forall_mem_append.1 h
    rw [render, render, renderToken_congr token hfirst, render_congr tokens hrest]

theorem renderBranches_congr (kind : BlockKind) :
    (branches : List Branch) →
      (∀ condition ∈ branches.filterMap Branch.condition,
        condition.evaluate scope.valueOf = condition.evaluate other.valueOf) →
      (∀ token ∈ Branch.walk branches, AgreeAt scope other token) →
      scope.renderBranches kind branches = other.renderBranches kind branches
  | [], _, _ => by rw [renderBranches, renderBranches]
  | .mk none _ content :: branches, _, h => by
    rw [Branch.walk, Branch.walkOne] at h
    rw [renderBranches, renderBranches, render_congr content (List.forall_mem_append.1 h).1]
  | .mk (some condition) _ content :: branches, hown, h => by
    rw [Branch.walk, Branch.walkOne] at h
    obtain ⟨hcontent, hrest⟩ := List.forall_mem_append.1 h
    obtain ⟨hcondition, hothers⟩ := List.forall_mem_cons.1 hown
    rw [renderBranches, renderBranches, hcondition, render_congr content hcontent,
      renderBranches_congr kind branches hothers hrest]

end

end

end Scope

/-! ## Identifiers -/

/-- The identifiers that a token itself mentions. -/
def Token.ownIdentifiers : Token → List Text
  | .literal _ => []
  | .tag mergeTag => [mergeTag.identifier]
  | .block _ branches _ => (branches.filterMap Branch.condition).flatMap Condition.identifiers

/-- The identifiers that tokens and all branches inside them mention, selected or not. -/
def Token.identifiers (tokens : List Token) : List Text :=
  (Token.walk tokens).flatMap Token.ownIdentifiers

namespace Scope

section

variable {settings : Settings} {context other : Context}

/-- Contexts that give the identifiers of a token the same values agree at it. -/
theorem agreeAt_of_value? {token : Token}
    (h : ∀ identifier ∈ token.ownIdentifiers,
      value? ⟨settings, context⟩ identifier = value? ⟨settings, other⟩ identifier) :
    AgreeAt ⟨settings, context⟩ ⟨settings, other⟩ token := by
  cases token with
  | literal source => trivial
  | tag mergeTag =>
    show Scope.tag _ _ = Scope.tag _ _
    rw [Scope.tag, Scope.tag, h _ List.mem_cons_self]
  | block kind branches close =>
    refine fun condition hc => Condition.evaluate_congr fun identifier hi => ?_
    rw [valueOf, valueOf, h identifier (List.mem_flatMap.2 ⟨condition, hc, hi⟩)]

/-- Contexts that agree on every identifier that is mentioned render alike. -/
theorem render_of_value? {tokens : List Token}
    (h : ∀ identifier ∈ Token.identifiers tokens,
      value? ⟨settings, context⟩ identifier = value? ⟨settings, other⟩ identifier) :
    render ⟨settings, context⟩ tokens = render ⟨settings, other⟩ tokens :=
  render_congr tokens fun _ ht =>
    agreeAt_of_value? fun identifier hi => h identifier (List.mem_flatMap.2 ⟨_, ht, hi⟩)

end

/-! ## Selected branches -/

/-- Whether a branch may be rendered: its condition holds, or it has none. -/
def admits (scope : Scope) (branch : Branch) : Bool := branch.condition.all scope.holds

/-- What is noticed when it is tried whether a branch may be rendered. -/
def tried (scope : Scope) (branch : Branch) : Rendered where
  findings := (branch.condition.map fun condition => (condition.evaluate scope.valueOf).2).getD []

/-- The branch of a block that is rendered, the first that may be. A block that is kept or left out
has only one branch to try. -/
def selected? (scope : Scope) (kind : BlockKind) (branches : List Branch) : Option Branch :=
  (if kind = .listIf then branches.take 1 else branches).find? scope.admits

/-- The same tokens, except that the contents of branches that are not selected may be any others.
-/
inductive SameSelected (scope : Scope) : List Token → List Token → Prop where
  /-- No tokens. -/
  | nil : SameSelected scope [] []
  /-- The same token in front. -/
  | cons (token : Token) {tokens others : List Token} :
    SameSelected scope tokens others → SameSelected scope (token :: tokens) (token :: others)
  /-- A block in front, in which the conditions, the markers and the selected branch stay. -/
  | block {kind : BlockKind} {branches replaced : List Branch} (close : Text)
    {tokens others : List Token} :
    replaced.map Branch.head = branches.map Branch.head →
    (∀ branch other, scope.selected? kind branches = some branch →
      scope.selected? kind replaced = some other →
      SameSelected scope branch.content other.content) →
    SameSelected scope tokens others →
      SameSelected scope (.block kind branches close :: tokens)
        (.block kind replaced close :: others)

section

variable {scope : Scope} {kind : BlockKind} {branch : Branch} {branches : List Branch}

theorem tried_some (condition : Condition) (marker : Text) (content : List Token) :
    scope.tried (.mk (some condition) marker content) =
      { findings := (condition.evaluate scope.valueOf).2 } := rfl

theorem selected?_cons_of_admits (h : scope.admits branch = true) :
    scope.selected? kind (branch :: branches) = some branch := by
  unfold selected?
  split
  · rw [List.take_succ_cons, List.find?_cons_of_pos h]
  · rw [List.find?_cons_of_pos h]

theorem selected?_cons_of_not_admits (hkind : kind ≠ .listIf) (h : ¬ scope.admits branch = true) :
    scope.selected? kind (branch :: branches) = scope.selected? kind branches := by
  rw [selected?, selected?, if_neg hkind, if_neg hkind, List.find?_cons_of_neg h]

theorem renderBranches_cons_of_admits (h : scope.admits branch = true) :
    scope.renderBranches kind (branch :: branches) =
      scope.tried branch ++ scope.render branch.content := by
  obtain ⟨condition, marker, content⟩ := branch
  cases condition with
  | none =>
    rw [renderBranches]
    exact (Rendered.empty_append _).symm
  | some condition =>
    have hholds : (condition.evaluate scope.valueOf).1 = true := h
    rw [renderBranches, tried_some, Branch.content]
    split
    · rename_i findings heq
      rw [heq]
    · rename_i findings heq
      exact Bool.noConfusion ((congrArg Prod.fst heq).symm.trans hholds)

theorem renderBranches_cons_of_not_admits (h : ¬ scope.admits branch = true) :
    scope.renderBranches kind (branch :: branches) = scope.tried branch ++
      if kind = .listIf then .empty else scope.renderBranches kind branches := by
  obtain ⟨condition, marker, content⟩ := branch
  cases condition with
  | none => exact absurd rfl h
  | some condition =>
    have hholds : ¬ (condition.evaluate scope.valueOf).1 = true := h
    rw [renderBranches, tried_some]
    split
    · rename_i findings heq
      exact absurd (congrArg Prod.fst heq) hholds
    · rename_i findings heq
      rw [heq]
      split
      · exact (Rendered.append_empty _).symm
      · rfl

/-- Of a block only the conditions of its branches are read, and the branch that is selected. -/
theorem renderBranches_eq_of_selected {branches replaced : List Branch}
    (hheads : replaced.map Branch.head = branches.map Branch.head)
    (hselected : ∀ branch other, scope.selected? kind branches = some branch →
      scope.selected? kind replaced = some other →
      scope.render other.content = scope.render branch.content) :
    scope.renderBranches kind replaced = scope.renderBranches kind branches := by
  induction branches generalizing replaced with
  | nil => rw [List.map_eq_nil_iff.1 hheads]
  | cons branch branches ih =>
    obtain ⟨other, replaced, rfl, hhead, htail⟩ := List.map_eq_cons_iff.1 hheads
    have hcondition : other.condition = branch.condition := congrArg Prod.fst hhead
    have hadmits : scope.admits other = scope.admits branch := by rw [admits, admits, hcondition]
    have htried : scope.tried other = scope.tried branch := by rw [tried, tried, hcondition]
    by_cases hbranch : scope.admits branch = true
    · have hother : scope.admits other = true := hadmits.trans hbranch
      rw [renderBranches_cons_of_admits hbranch, renderBranches_cons_of_admits hother, htried,
        hselected _ _ (selected?_cons_of_admits hbranch) (selected?_cons_of_admits hother)]
    · have hother : ¬ scope.admits other = true := hadmits ▸ hbranch
      rw [renderBranches_cons_of_not_admits hbranch, renderBranches_cons_of_not_admits hother,
        htried]
      split
      · rfl
      · rename_i hkind
        rw [selected?_cons_of_not_admits hkind hbranch,
          selected?_cons_of_not_admits hkind hother] at hselected
        rw [ih htail hselected]

theorem render_of_sameSelected {tokens others : List Token} (h : SameSelected scope tokens others) :
    scope.render others = scope.render tokens := by
  induction h with
  | nil => rfl
  | cons token _ ih => rw [render, render, ih]
  | block close hheads _ _ hcontent ih =>
    rw [render, render, ih, renderToken, renderToken,
      renderBranches_eq_of_selected hheads hcontent]

end

/-- **What determines a rendering.** Under any settings, contexts that give the identifiers that a
template mentions the same values, or none, give the same text, counts, unresolved identifiers and
findings. So do templates that differ only inside branches that are not selected, at any depth. -/
theorem render_determined (settings : Settings) (context : Context) (tokens : List Token) :
    (∀ other : Context,
        (∀ identifier ∈ Token.identifiers tokens,
          value? ⟨settings, context⟩ identifier = value? ⟨settings, other⟩ identifier) →
        render ⟨settings, context⟩ tokens = render ⟨settings, other⟩ tokens) ∧
      ∀ others, SameSelected ⟨settings, context⟩ tokens others →
        render ⟨settings, context⟩ others = render ⟨settings, context⟩ tokens :=
  ⟨fun _ h => render_of_value? h, fun _ h => render_of_sameSelected h⟩

/-- Contexts that spell a key in different ways, and a block whose second branch is selected. -/
theorem render_determined_swapped :
    let context : Context := .ofList
      [("Name".toList, "Ann".toList), ("State".toList, "NSW".toList), ("Fee".toList, "1".toList)]
    let other : Context := .ofList [("state".toList, "NSW".toList), ("NAME".toList, "Ann".toList)]
    let name : Token := .tag ⟨"Name".toList, [.upper], "{$Name|upper}".toList⟩
    let block (front back : List Token) : Token := .block .ifBlock
      [.mk (some (Condition.parse "$Fax".toList)) "{if $Fax}".toList front,
        .mk (some (Condition.parse "$State and $Name".toList))
          "{elseif $State and $Name}".toList [name],
        .mk none "{else}".toList back] "{/if}".toList
    let tokens := [.literal "<p>".toList, block [] []]
    let others := [.literal "<p>".toList, block [name] [.literal "-".toList, block [] []]]
    (∀ identifier ∈ Token.identifiers tokens,
        value? ⟨{}, context⟩ identifier = value? ⟨{}, other⟩ identifier) ∧
      SameSelected ⟨{}, context⟩ tokens others ∧
      render ⟨{}, context⟩ tokens = render ⟨{}, other⟩ tokens ∧
      render ⟨{}, context⟩ others = render ⟨{}, context⟩ tokens := by
  intro context other name block tokens others
  have hvalues : ∀ identifier ∈ Token.identifiers tokens,
      value? ⟨{}, context⟩ identifier = value? ⟨{}, other⟩ identifier := by decide +kernel
  have hsame : SameSelected ⟨{}, context⟩ tokens others := by
    refine .cons _ (.block _ rfl (fun branch replaced hb hr => ?_) .nil)
    rw [selected?_cons_of_not_admits (by decide) (by decide +kernel),
      selected?_cons_of_admits (by decide +kernel)] at hb hr
    cases hb
    cases hr
    exact .cons name .nil
  obtain ⟨hcontexts, hcontents⟩ := render_determined {} context tokens
  exact ⟨hvalues, hsame, hcontexts other hvalues, hcontents others hsame⟩

end Scope

end FormLetter
