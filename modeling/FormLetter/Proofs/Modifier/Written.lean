import FormLetter.Modifier.Parser
import FormLetter.Proofs.Text.Cutting

/-!
# Reading written modifiers

A modifier that is written with its arguments between double quotes is read back, alone and in a
chain: a bar inside an argument does not cut the chain.

* `Modifier.IsQuotable`: the modifiers that can be written.
* `Modifier.parse_text`: a written modifier is read back.
* `Unsplit`: a stretch of text that a chain is not cut in.
* `splitUnquoted_append`: a chain of written modifiers is cut into them.
-/

namespace FormLetter

open Text

/-! ## One modifier -/

/-- A modifier that can be written between double quotes: no argument holds one, and the first
argument is not empty. -/
structure Modifier.IsQuotable (modifier : Modifier) : Prop where
  /-- No argument holds a double quote. -/
  notMem_quote : ∀ arg ∈ modifier.args, '"' ∉ arg
  /-- The first argument is not empty. -/
  first_ne_nil : modifier.args.head? ≠ some []

theorem takeQuoted?_quoted {arg : Text} (h : '"' ∉ arg) (rest : Text) :
    takeQuoted? ('"' :: (arg ++ '"' :: rest)) = some (some (arg, rest)) := by
  simp [takeQuoted?, cutAt_append h]

theorem takeLast?_quoted {arg : Text} (h : '"' ∉ arg) :
    takeLast? ('"' :: (arg ++ ['"'])) = some arg := by
  simp [takeLast?, takeQuoted?_quoted h]

theorem takeFirst?_quoted {arg : Text} (h : '"' ∉ arg) (rest : Text) :
    takeFirst? ('"' :: (arg ++ '"' :: ':' :: rest)) = some (arg, rest) := by
  simp [takeFirst?, takeQuoted?_quoted h]

namespace Modifier

theorem lower_strip_name (kind : Kind) :
    Text.lower (strip kind.name.toList) = kind.name.toList := by
  cases kind <;> decide +kernel

theorem parse_name (kind : Kind) :
    Modifier.parse kind.name.toList =
      match kind with
      | .upper => .ok .upper
      | .lower => .ok .lower
      | .ucwords => .ok .ucwords
      | .ucfirst => .ok .ucfirst
      | kind => .error (.missing kind) := by
  cases kind <;> rfl

theorem parse_name_append (kind : Kind) (arguments : Text) :
    Modifier.parse (kind.name.toList ++ ':' :: arguments) =
      match kind with
      | .phoneFormat => parseOne .phoneFormat .phoneFormat arguments
      | .dateFormat => parseOne .dateFormat .dateFormat arguments
      | .replace => parseTwo .replace .replace arguments
      | kind => .error (.unexpected kind) := by
  have hcolon : ':' ∉ kind.name.toList := by cases kind <;> decide
  simp only [Modifier.parse, cutAt_append hcolon, lower_strip_name, Kind.ofName?_name]
  cases kind <;> rfl

theorem parseOne_quoted (kind : Kind) (build : Text → Modifier) {arg : Text} (h : '"' ∉ arg)
    (hne : arg ≠ []) : parseOne kind build ('"' :: (arg ++ ['"'])) = .ok (build arg) := by
  obtain ⟨c, rest, rfl⟩ := List.exists_cons_of_ne_nil hne
  rw [parseOne, takeLast?_quoted h]

theorem parseTwo_quoted (kind : Kind) (build : Text → Text → Modifier) {first second : Text}
    (hf : '"' ∉ first) (hs : '"' ∉ second) (hne : first ≠ []) :
    parseTwo kind build ('"' :: (first ++ '"' :: ':' :: '"' :: (second ++ ['"']))) =
      .ok (build first second) := by
  simp only [parseTwo, takeFirst?_quoted hf, takeLast?_quoted hs, if_neg hne]

theorem text_one {modifier : Modifier} {arg : Text} (h : modifier.args = [arg]) :
    modifier.text = modifier.kind.name.toList ++ ':' :: '"' :: (arg ++ ['"']) := by
  simp [text, h]

theorem text_two {modifier : Modifier} {first second : Text} (h : modifier.args = [first, second]) :
    modifier.text = modifier.kind.name.toList ++
      ':' :: '"' :: (first ++ '"' :: ':' :: '"' :: (second ++ ['"'])) := by
  simp [text, h]

/-- A written modifier is read back. -/
theorem parse_text {modifier : Modifier} (h : modifier.IsQuotable) :
    Modifier.parse modifier.text = .ok modifier := by
  have hq := h.notMem_quote
  have hne := h.first_ne_nil
  cases modifier with
  | upper => exact parse_name .upper
  | lower => exact parse_name .lower
  | ucwords => exact parse_name .ucwords
  | ucfirst => exact parse_name .ucfirst
  | phoneFormat pattern =>
    have hp := hq pattern List.mem_cons_self
    rw [text_one rfl, kind, parse_name_append]
    exact parseOne_quoted .phoneFormat .phoneFormat hp fun he => hne (by simp [args, he])
  | dateFormat pattern =>
    have hp := hq pattern List.mem_cons_self
    rw [text_one rfl, kind, parse_name_append]
    exact parseOne_quoted .dateFormat .dateFormat hp fun he => hne (by simp [args, he])
  | replace sought new =>
    have hs := hq sought List.mem_cons_self
    have hn := hq new (List.mem_cons_of_mem _ List.mem_cons_self)
    rw [text_two rfl, kind, parse_name_append]
    exact parseTwo_quoted .replace .replace hs hn fun he => hne (by simp [args, he])

end Modifier

/-! ## Chains -/

/-- A text in front of the first segment. -/
def glue (text : Text) : List Text → List Text
  | [] => [text]
  | segment :: segments => (text ++ segment) :: segments

/-- A text that a chain is not cut in. It is read with one quote open in front of it and leaves
another open behind it. -/
def Unsplit (separator : Char) (quote after : Option Char) (text : Text) : Prop :=
  ∀ rest, splitUnquotedFrom separator quote (text ++ rest) =
    glue text (splitUnquotedFrom separator after rest)

section

variable {separator : Char} {quote between after : Option Char}

theorem unsplit_nil : Unsplit separator quote quote [] := by
  intro rest
  rw [List.nil_append]
  rcases h : splitUnquotedFrom separator quote rest with _ | ⟨segment, segments⟩
  · exact absurd h (splitUnquotedFrom_ne_nil _ _ _)
  · rfl

theorem Unsplit.append {front back : Text} (hf : Unsplit separator quote between front)
    (hb : Unsplit separator between after back) :
    Unsplit separator quote after (front ++ back) := by
  intro rest
  rw [List.append_assoc, hf, hb]
  rcases splitUnquotedFrom separator after rest with _ | ⟨segment, segments⟩
  · rfl
  · simp [glue]

theorem unsplit_singleton {c : Char} (h : quote = none → c ≠ separator) :
    Unsplit separator quote (quoteAfter quote c) [c] := by
  intro rest
  have hcut : (decide (c = separator) && (quoteAfter quote c).isNone && quote.isNone) = false := by
    cases quote with
    | none => simp [h rfl]
    | some q => simp
  simp only [List.singleton_append, splitUnquotedFrom, hcut, Bool.false_eq_true, ↓reduceIte]
  cases splitUnquotedFrom separator (quoteAfter quote c) rest <;> rfl

/-- A text without quotes of its own: outside quotes it must not hold the separator. -/
theorem unsplit_of_forall {text : Text}
    (h : ∀ c ∈ text, quoteAfter quote c = quote ∧ (quote = none → c ≠ separator)) :
    Unsplit separator quote quote text := by
  induction text with
  | nil => exact unsplit_nil
  | cons c rest ih =>
    obtain ⟨⟨hquote, hsep⟩, hrest⟩ := List.forall_mem_cons.1 h
    have hc := unsplit_singleton hsep
    rw [hquote] at hc
    exact hc.append (ih hrest)

theorem unsplit_quoted (hs : separator ≠ '"') {arg : Text} (h : '"' ∉ arg) :
    Unsplit separator none none ('"' :: (arg ++ ['"'])) := by
  have hopen : Unsplit separator none (some '"') ['"'] := unsplit_singleton fun _ => Ne.symm hs
  have hinside : Unsplit separator (some '"') (some '"') arg := by
    refine unsplit_of_forall fun c hc => ⟨?_, fun hn => nomatch hn⟩
    have hne : c ≠ '"' := fun he => h (he ▸ hc)
    simp [quoteAfter, hne]
  have hclose : Unsplit separator (some '"') none ['"'] := unsplit_singleton fun hn => nomatch hn
  exact hopen.append (hinside.append hclose)

end

namespace Modifier

theorem unsplit_args {args : List Text} (h : ∀ arg ∈ args, '"' ∉ arg) :
    Unsplit '|' none none (args.flatMap fun arg => ":\"".toList ++ arg ++ ['"']) := by
  induction args with
  | nil => exact unsplit_nil
  | cons arg args ih =>
    obtain ⟨harg, hargs⟩ := List.forall_mem_cons.1 h
    have hcolon : Unsplit '|' none none [':'] := unsplit_singleton fun _ => by decide
    exact (hcolon.append (unsplit_quoted (by decide) harg)).append (ih hargs)

/-- A written modifier is not cut. -/
theorem unsplit_text {modifier : Modifier} (h : ∀ arg ∈ modifier.args, '"' ∉ arg) :
    Unsplit '|' none none modifier.text := by
  have hname : modifier.kind.name.toList.all
      (fun c => (quoteAfter none c).isNone && c != '|') = true := by
    cases modifier.kind <;> decide
  refine Unsplit.append (unsplit_of_forall fun c hc => ?_) (unsplit_args h)
  simpa using List.all_eq_true.1 hname c hc

end Modifier

/-- A chain of segments that are not cut is cut between them. -/
theorem splitUnquoted_append {segment : Text} {segments : List Text}
    (h : ∀ text ∈ segment :: segments, Unsplit '|' none none text) :
    splitUnquoted '|' (segment ++ segments.flatMap ('|' :: ·)) = segment :: segments := by
  induction segments generalizing segment with
  | nil =>
    rw [splitUnquoted, h segment List.mem_cons_self]
    simp [splitUnquotedFrom, glue]
  | cons next segments ih =>
    obtain ⟨hsegment, hrest⟩ := List.forall_mem_cons.1 h
    have hnext := ih hrest
    rw [splitUnquoted] at hnext
    rw [splitUnquoted, hsegment, List.flatMap_cons, List.cons_append, splitUnquotedFrom]
    simp [glue, hnext, quoteAfter]

end FormLetter
