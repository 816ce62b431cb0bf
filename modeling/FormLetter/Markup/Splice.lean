import FormLetter.Diagnostic.Finding
import FormLetter.Markup.Tag

/-!
# Splices

A word processor may interrupt a tag such as `{$Name}` by markup of its own. Taking that markup out
joins the stretches of text between the markup tags, and is harmless only if the markup closes
exactly what it opens.

* `Span`: the inside of a pair of braces, as stretches of text between markup tags.
* `balanced`: whether the markup tags leave the open elements as they were.
* `Span.joined`: the stretches with each run of blanks that touches a joint made one space.
* `readSpan`: the span behind an opening brace.

Main statement: `readSpan_eq_ok` (a span and its closing brace make up the text that was read).
-/

namespace FormLetter

open Text

/-! ## Spans -/

/-- Text interrupted by markup tags. -/
structure Span where
  /-- The text in front of the first tag. -/
  first : Text
  /-- Each tag with the text that follows it. -/
  more : List (Text × Text)
  deriving Repr, DecidableEq

namespace Span

/-- The tags of a span. -/
def tags (span : Span) : List Text := span.more.map (·.1)

/-- The stretches of text of a span. -/
def stretches (span : Span) : List Text := span.first :: span.more.map (·.2)

/-- The span as it was written. -/
def source (span : Span) : Text := span.first ++ span.more.flatMap fun piece => piece.1 ++ piece.2

/-- The span with a character put in front. -/
def push (c : Char) (span : Span) : Span := { span with first := c :: span.first }

/-- The span with a tag put in front. -/
def pushTag (tag : Text) (span : Span) : Span := ⟨[], (tag, span.first) :: span.more⟩

/-- Two stretches joined: blanks that touch the joint become one space. -/
def joint (left right : Text) : Text :=
  if left.getLast?.any isBlank || right.head?.any isBlank then
    stripRight left ++ ' ' :: stripLeft right
  else left ++ right

/-- The text of a span without its tags. A span with tags is stripped at both ends, one without tags
stays as it is. -/
def joined (span : Span) : Text :=
  if span.more = [] then span.first
  else strip (span.more.foldl (fun text piece => joint text piece.2) span.first)

theorem source_push (c : Char) (span : Span) : (span.push c).source = c :: span.source := rfl

theorem source_pushTag (tag : Text) (span : Span) :
    (span.pushTag tag).source = tag ++ span.source := by
  simp [source, pushTag]

end Span

/-! ## Balance -/

/-- The state of the balance test: the elements opened and not closed yet, innermost first, the
elements closed before any was opened, last first, and whether one was opened. -/
structure Balance where
  /-- Open elements, innermost first. -/
  stack : List Text
  /-- Elements closed before any was opened, last first. -/
  closed : List Text
  /-- Whether an element was opened. -/
  opened : Bool
  deriving Repr, DecidableEq

/-- The balance after a tag; a close that nothing can answer has none. -/
def Balance.step (balance : Balance) (tag : Text) : Option Balance :=
  let name := tagName tag
  match tagRole tag with
  | .opening => some { balance with stack := name :: balance.stack, opened := true }
  | .closing =>
    match balance.stack with
    | innermost :: outer => if innermost = name then some { balance with stack := outer } else none
    | [] => if balance.opened then none else some { balance with closed := name :: balance.closed }
  | .empty | .aside => some balance

/-- Whether tags leave the open elements as they were: what they close first they open again, in the
opposite order, and they close all else that they open. -/
def balanced (tags : List Text) : Bool :=
  match tags.foldlM Balance.step ⟨[], [], false⟩ with
  | some balance => balance.stack.reverse = balance.closed
  | none => false

/-! ## Reading a span -/

/-- The span up to the first closing brace and the text behind that brace, or what stands in the
way. -/
def takeSpan (boundaries : List Text) (text : Text) : Except Abandonment (Span × Text) :=
  match text with
  | [] => .error .noClosingBrace
  | '}' :: rest => .ok (⟨[], []⟩, rest)
  | '<' :: rest =>
    match _h : takeTag? rest with
    | none => .error .unterminatedMarkup
    | some (tag, tail) =>
      if tagRole tag ≠ .aside ∧ tagName tag ∈ boundaries then .error (.hardBoundary (tagName tag))
      else
        match takeSpan boundaries tail with
        | .ok (span, rest) => .ok (span.pushTag tag, rest)
        | .error reason => .error reason
  | c :: rest =>
    match takeSpan boundaries rest with
    | .ok (span, rest) => .ok (span.push c, rest)
    | .error reason => .error reason
  termination_by text.length
  decreasing_by
    · have := length_takeTag?_lt _h
      simp only [List.length_cons]
      omega
    · simp

/-- The span behind an opening brace and the text behind its closing brace, if its markup is
balanced. -/
def readSpan (boundaries : List Text) (text : Text) : Except Abandonment (Span × Text) :=
  match takeSpan boundaries text with
  | .error reason => .error reason
  | .ok (span, rest) => if balanced span.tags then .ok (span, rest) else .error .unbalancedMarkup

theorem takeSpan_eq_ok {boundaries : List Text} {text : Text} {span : Span} {rest : Text}
    (h : takeSpan boundaries text = .ok (span, rest)) : text = span.source ++ '}' :: rest := by
  fun_induction takeSpan boundaries text generalizing span rest with
  | case1 => simp at h
  | case2 =>
    simp only [Except.ok.injEq, Prod.mk.injEq] at h
    obtain ⟨rfl, rfl⟩ := h
    rfl
  | case3 => simp at h
  | case4 => simp at h
  | case5 tail tag more htag _ inner after hs ih =>
    simp only [Except.ok.injEq, Prod.mk.injEq] at h
    obtain ⟨rfl, rfl⟩ := h
    rw [Span.source_pushTag, List.append_assoc, ← ih hs, ← takeTag?_eq_some htag]
  | case6 => simp at h
  | case7 _ _ _ _ inner after hs ih =>
    simp only [Except.ok.injEq, Prod.mk.injEq] at h
    obtain ⟨rfl, rfl⟩ := h
    rw [Span.source_push, List.cons_append, ← ih hs]
  | case8 => simp at h

/-- A span and its closing brace make up the text that was read. -/
theorem readSpan_eq_ok {boundaries : List Text} {text : Text} {span : Span} {rest : Text}
    (h : readSpan boundaries text = .ok (span, rest)) : text = span.source ++ '}' :: rest := by
  unfold readSpan at h
  split at h
  · simp at h
  · rename_i s r hs
    split at h
    · simp only [Except.ok.injEq, Prod.mk.injEq] at h
      obtain ⟨rfl, rfl⟩ := h
      exact takeSpan_eq_ok hs
    · simp at h

theorem length_readSpan_lt {boundaries : List Text} {text : Text} {span : Span} {rest : Text}
    (h : readSpan boundaries text = .ok (span, rest)) : rest.length < text.length := by
  rw [readSpan_eq_ok h]
  simp only [List.length_append, List.length_cons]
  omega

end FormLetter
