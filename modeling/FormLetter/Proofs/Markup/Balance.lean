import FormLetter.Proofs.Markup.Nesting

/-!
# Which tags are balanced

Tags that run from some stack of open elements and leave it as it was can be taken out of markup.
The balance test accepts them as long as they close what was open in front of them before they open
an element themselves; what they close later they must have opened. It tells elements apart by their
local names, whatever the prefixes in front of them.

* `fromOpening`: the tags from the first one on that opens an element.
* `runTags_append_outer`: tags that close only what they opened leave what lies below.
* `balanced_iff_runTags`: the test in terms of the elements closed first and those left open.
* `balanced_iff_exists`: the test in terms of a surrounding stack.
* `balanced_ne_runTagsBy_qualifiedName`: it looks neither at prefixes nor at elements that are
  closed late.
-/

namespace FormLetter

open Text

/-! ## Closing first, opening later -/

/-- The tags in front of the first one that opens an element. -/
def beforeOpening (tags : List Text) : List Text := tags.takeWhile fun tag => tagRole tag ≠ .opening

/-- The tags from the first one on that opens an element. -/
def fromOpening (tags : List Text) : List Text := tags.dropWhile fun tag => tagRole tag ≠ .opening

/-- The elements that tags close, in order. -/
def closedNames (tags : List Text) : List Text :=
  (tags.filter fun tag => tagRole tag = .closing).map tagName

theorem beforeOpening_append_fromOpening (tags : List Text) :
    beforeOpening tags ++ fromOpening tags = tags :=
  List.takeWhile_append_dropWhile

theorem tagRole_of_mem_beforeOpening {tags : List Text} :
    ∀ tag ∈ beforeOpening tags, tagRole tag ≠ .opening := by
  intro tag h
  simpa using List.all_eq_true.1 List.all_takeWhile tag h

theorem closedNames_cons (tag : Text) (tags : List Text) :
    closedNames (tag :: tags) =
      if tagRole tag = .closing then tagName tag :: closedNames tags else closedNames tags := by
  by_cases h : tagRole tag = .closing <;> simp [closedNames, h]

/-! ## One tag -/

section

variable {tag : Text}

theorem runTag_opening (h : tagRole tag = .opening) (stack : List Text) :
    runTag stack tag = some (tagName tag :: stack) := by
  simp [runTag, h]

theorem runTag_closing (h : tagRole tag = .closing) (name : Text) (stack : List Text) :
    runTag (name :: stack) tag = if name = tagName tag then some stack else none := by
  simp [runTag, h]

theorem runTag_closing_nil (h : tagRole tag = .closing) : runTag [] tag = none := by
  simp [runTag, h]

/-- Any other tag does nothing. -/
theorem runTag_neutral (ho : tagRole tag ≠ .opening) (hc : tagRole tag ≠ .closing)
    (stack : List Text) : runTag stack tag = some stack := by
  cases h : tagRole tag with
  | opening => exact absurd h ho
  | closing => exact absurd h hc
  | _ => simp [runTag, h]

theorem runTags_cons (tag : Text) (stack tags : List Text) :
    runTags stack (tag :: tags) = (runTag stack tag).bind (runTags · tags) := rfl

/-- As long as nothing is opened a closing tag is noted. -/
theorem step_beforeOpening (h : tagRole tag ≠ .opening) (closed : List Text) :
    Balance.step ⟨[], closed, false⟩ tag =
      some ⟨[], if tagRole tag = .closing then tagName tag :: closed else closed, false⟩ := by
  cases hrole : tagRole tag with
  | opening => exact absurd hrole h
  | _ => simp [Balance.step, hrole]

/-- Once an element was opened the test runs a tag. -/
theorem step_opened (stack closed : List Text) (tag : Text) :
    Balance.step ⟨stack, closed, true⟩ tag =
      (runTag stack tag).map fun stack => ⟨stack, closed, true⟩ := by
  unfold Balance.step runTag
  cases tagRole tag with
  | closing =>
    cases stack with
    | nil => rfl
    | cons name below => by_cases hname : name = tagName tag <;> simp [hname]
  | _ => rfl

end

/-! ## Runs of tags -/

/-- Tags that close only what they opened leave alone what lies below. -/
theorem runTags_append_outer {stack after tags : List Text} (h : runTags stack tags = some after)
    (outer : List Text) : runTags (stack ++ outer) tags = some (after ++ outer) := by
  induction tags generalizing stack with
  | nil =>
    cases h
    rfl
  | cons tag tags ih =>
    obtain ⟨next, hnext, hrest⟩ := Option.bind_eq_some_iff.1 (runTags_cons tag stack tags ▸ h)
    have hstep : runTag (stack ++ outer) tag = some (next ++ outer) := by
      by_cases ho : tagRole tag = .opening
      · rw [runTag_opening ho, Option.some.injEq] at hnext
        rw [runTag_opening ho, ← hnext, List.cons_append]
      · by_cases hc : tagRole tag = .closing
        · cases stack with
          | nil => simp [runTag_closing_nil hc] at hnext
          | cons name below =>
            rw [runTag_closing hc, Option.ite_none_right_eq_some, Option.some.injEq] at hnext
            rw [List.cons_append, runTag_closing hc, if_pos hnext.1, hnext.2]
        · rw [runTag_neutral ho hc, Option.some.injEq] at hnext
          rw [runTag_neutral ho hc, hnext]
    rw [runTags_cons, hstep]
    exact ih hrest

/-- Tags that open nothing run from the elements that they close. -/
theorem runTags_eq_some_iff {stack outer tags : List Text}
    (h : ∀ tag ∈ tags, tagRole tag ≠ .opening) :
    runTags stack tags = some outer ↔ stack = closedNames tags ++ outer := by
  induction tags generalizing stack with
  | nil => simp [runTags, closedNames]
  | cons tag tags ih =>
    obtain ⟨htag, hrest⟩ := List.forall_mem_cons.1 h
    rw [runTags_cons, closedNames_cons]
    by_cases hc : tagRole tag = .closing
    · rw [if_pos hc]
      cases stack with
      | nil => simp [runTag_closing_nil hc]
      | cons name below =>
        rw [runTag_closing hc]
        by_cases hname : name = tagName tag <;> simp [hname, ih hrest]
    · rw [if_neg hc, runTag_neutral htag hc]
      exact ih hrest

/-! ## The balance test -/

/-- As long as nothing is opened the test collects what is closed. -/
theorem foldlM_step_beforeOpening {tags : List Text} (h : ∀ tag ∈ tags, tagRole tag ≠ .opening)
    (closed : List Text) :
    tags.foldlM Balance.step ⟨[], closed, false⟩ =
      some ⟨[], (closedNames tags).reverse ++ closed, false⟩ := by
  induction tags generalizing closed with
  | nil => rfl
  | cons tag tags ih =>
    obtain ⟨htag, hrest⟩ := List.forall_mem_cons.1 h
    rw [List.foldlM_cons, step_beforeOpening htag, closedNames_cons]
    show tags.foldlM Balance.step _ = _
    rw [ih hrest]
    split <;> simp

/-- Once an element was opened the test runs the tags. -/
theorem foldlM_step_opened (stack closed tags : List Text) :
    tags.foldlM Balance.step ⟨stack, closed, true⟩ =
      (runTags stack tags).map fun stack => ⟨stack, closed, true⟩ := by
  induction tags generalizing stack with
  | nil => rfl
  | cons tag tags ih =>
    rw [List.foldlM_cons, step_opened, runTags_cons]
    cases runTag stack tag with
    | none => rfl
    | some next => exact ih next

theorem tagRole_of_fromOpening {tag : Text} {tags rest : List Text}
    (h : fromOpening tags = tag :: rest) : tagRole tag = .opening := by
  have hhead := List.head?_dropWhile_not (fun tag => decide (tagRole tag ≠ .opening)) tags
  rw [show tags.dropWhile _ = _ from h] at hhead
  simpa using hhead

/-- From the first opening tag on the test runs the tags from no open element. -/
theorem foldlM_step_fromOpening (tags closed : List Text) :
    ∃ opened, (fromOpening tags).foldlM Balance.step ⟨[], closed, false⟩ =
      (runTags [] (fromOpening tags)).map fun stack => ⟨stack, closed, opened⟩ := by
  cases htags : fromOpening tags with
  | nil => exact ⟨false, rfl⟩
  | cons tag rest =>
    -- The first opening tag is the same step for the test and for a run.
    have hrole := tagRole_of_fromOpening htags
    have hstep : Balance.step ⟨[], closed, false⟩ tag = some ⟨[tagName tag], closed, true⟩ := by
      rw [Balance.step, hrole]
    refine ⟨true, ?_⟩
    rw [List.foldlM_cons, hstep, runTags_cons, runTag_opening hrole]
    exact foldlM_step_opened [tagName tag] closed rest

/-- Tags are balanced if, from the first opening tag on, they close only what they opened and leave
open what was closed in front of it, innermost first. -/
theorem balanced_iff_runTags (tags : List Text) :
    balanced tags = true ↔
      runTags [] (fromOpening tags) = some (closedNames (beforeOpening tags)) := by
  obtain ⟨opened, hfrom⟩ :=
    foldlM_step_fromOpening tags (closedNames (beforeOpening tags)).reverse
  have hfold : tags.foldlM Balance.step ⟨[], [], false⟩ = (runTags [] (fromOpening tags)).map
      fun stack => ⟨stack, (closedNames (beforeOpening tags)).reverse, opened⟩ := by
    calc tags.foldlM Balance.step ⟨[], [], false⟩
        = (beforeOpening tags ++ fromOpening tags).foldlM Balance.step ⟨[], [], false⟩ := by
          rw [beforeOpening_append_fromOpening]
      _ = (fromOpening tags).foldlM Balance.step
            ⟨[], (closedNames (beforeOpening tags)).reverse, false⟩ := by
          rw [List.foldlM_append, foldlM_step_beforeOpening tagRole_of_mem_beforeOpening,
            List.append_nil]
          rfl
      _ = _ := hfrom
  rw [balanced, hfold]
  cases runTags [] (fromOpening tags) with
  | none => simp
  | some stack => simp

/-- **Neutral tags.** Tags are balanced exactly if there is a stack of open elements from which they
run and which they leave as it was, and from their first opening tag on they close only elements
that they opened themselves. -/
theorem balanced_iff_exists (tags : List Text) :
    balanced tags = true ↔
      ∃ stack, runTags stack tags = some stack ∧ (runTags [] (fromOpening tags)).isSome = true := by
  have hsplit (stack : List Text) : runTags stack tags =
      (runTags stack (beforeOpening tags)).bind (runTags · (fromOpening tags)) := by
    rw [← runTags_append, beforeOpening_append_fromOpening]
  have hbefore {stack outer : List Text} : runTags stack (beforeOpening tags) = some outer ↔ _ :=
    runTags_eq_some_iff tagRole_of_mem_beforeOpening
  rw [balanced_iff_runTags]
  constructor
  · intro h
    refine ⟨closedNames (beforeOpening tags), ?_, by rw [h]; rfl⟩
    rw [hsplit, hbefore.2 (List.append_nil _).symm]
    exact h
  · rintro ⟨stack, hrun, hown⟩
    obtain ⟨left, hleft⟩ := Option.isSome_iff_exists.1 hown
    rw [hsplit] at hrun
    obtain ⟨outer, houter, hrun⟩ := Option.bind_eq_some_iff.1 hrun
    have hsame := runTags_append_outer hleft outer
    rw [List.nil_append, hrun, hbefore.1 houter, Option.some.injEq] at hsame
    rw [hleft, List.append_cancel_right hsame]

/-! ## Prefixes and late closings -/

/-- The name of the element of a tag, with its prefix. -/
def qualifiedName (tag : Text) : Text :=
  let body := strip (tag.drop 1).dropLast
  let body := if body.head? = some '/' then body.drop 1 else body
  body.takeWhile fun c => !isBlank c && c ≠ '/' && c ≠ '>'

/-- The local name is what follows the prefix. -/
theorem afterLast_qualifiedName (tag : Text) : afterLast ':' (qualifiedName tag) = tagName tag :=
  rfl

/-- The stack of open elements after a tag, where a tag names its element by `name`. -/
def runTagBy (name : Text → Text) (stack : List Text) (tag : Text) : Option (List Text) :=
  match tagRole tag with
  | .opening => some (name tag :: stack)
  | .closing =>
    match stack with
    | [] => none
    | innermost :: outer => if innermost = name tag then some outer else none
  | .empty | .aside => some stack

/-- The stack of open elements after a list of tags that name their elements by `name`. -/
def runTagsBy (name : Text → Text) (stack tags : List Text) : Option (List Text) :=
  tags.foldlM (runTagBy name) stack

/-- By local names these are the runs of the balance test. -/
theorem runTagsBy_tagName (stack tags : List Text) :
    runTagsBy tagName stack tags = runTags stack tags :=
  rfl

/-- An element that is opened and closed at once runs if both tags give it the same name. -/
theorem runTagsBy_pair {start stop : Text} (ho : tagRole start = .opening)
    (hc : tagRole stop = .closing) (name : Text → Text) (stack : List Text) :
    runTagsBy name stack [start, stop] = if name start = name stop then some stack else none := by
  simp [runTagsBy, runTagBy, ho, hc]

/-- Tags of two prefixes are balanced although they run from no stack of qualified names; and tags
that close an element of their surroundings behind one of their own are not balanced although they
leave a stack as it was. -/
theorem balanced_ne_runTagsBy_qualifiedName :
    (balanced ["<w:t>".toList, "</x:t>".toList] = true ∧
      ¬ ∃ stack, runTagsBy qualifiedName stack ["<w:t>".toList, "</x:t>".toList] = some stack) ∧
    balanced ["<b>".toList, "</b>".toList, "</a>".toList, "<a>".toList] = false ∧
      ∃ stack, runTagsBy qualifiedName stack
        ["<b>".toList, "</b>".toList, "</a>".toList, "<a>".toList] = some stack := by
  refine ⟨⟨by decide +kernel, ?_⟩, by decide +kernel, ["a".toList], by decide +kernel⟩
  rintro ⟨stack, h⟩
  have hname : qualifiedName "<w:t>".toList ≠ qualifiedName "</x:t>".toList := by decide +kernel
  rw [runTagsBy_pair (by decide +kernel) (by decide +kernel), if_neg hname] at h
  cases h

end FormLetter
