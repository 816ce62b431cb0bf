import FormLetter.Proofs.Template.Marker
import FormLetter.Template.Parser
import Mathlib.Data.List.Basic

/-!
# Merge tags with a chain

A merge tag is written with an identifier and the segments of its chain, each behind a bar. Each
segment becomes a modifier or is reported; what becomes of it on its own is what becomes of it in
the chain, exactly as long as no segment in front of it leaves a quote open.

* `IsSegment`: the texts that may stand between bars.
* `chainText`: a merge tag with the segments of its chain, as it is written.
* `parse_chainText`: its template, from the pieces that the chain is cut into.
* `parse_chainText_iff`: when the segments are read independently of each other.
-/

namespace FormLetter

open Text

/-! ## Segments -/

/-- A text between bars: it holds neither a bar nor a delimiter, and no blank at its ends. -/
structure IsSegment (text : Text) : Prop where
  /-- It holds no delimiter. -/
  bare : Bare text
  /-- It holds no bar. -/
  notMem_bar : '|' ∉ text
  /-- It has no blank at its ends. -/
  strip_eq : strip text = text

/-- Behind a bar a segment ends in no blank, even if it is empty. -/
theorem IsSegment.endsSolid {segment : Text} (h : IsSegment segment) :
    EndsSolid ('|' :: segment) := by
  have hlast : ∀ c ∈ segment.getLast?, isBlank c = false := by
    rw [← h.strip_eq]
    exact getLast?_stripRight _
  cases hs : segment.getLast? with
  | none =>
    rw [List.getLast?_eq_none_iff.1 hs]
    exact endsSolid_of_any (List.cons_ne_nil _ _) (by decide)
  | some c =>
    obtain ⟨front, rfl⟩ := List.getLast?_eq_some_iff.1 hs
    exact ⟨'|' :: front, c, rfl, hlast c hs⟩

/-! ## Reading segments -/

/-- The modifier that a segment stands for. -/
def modifierOf? (segment : Text) : Option Modifier := (Modifier.parse segment).toOption

/-- A segment that stands for no modifier, with its fault. -/
def faultOf? (segment : Text) : Option (Text × Modifier.ParseFault) :=
  match Modifier.parse segment with
  | .ok _ => none
  | .error fault => some (segment, fault)

theorem readModifiers_eq (source : Text) (segments : List Text) :
    readModifiers source segments =
      (segments.filterMap modifierOf?,
        (segments.filterMap faultOf?).map fun skipped =>
          .skippedModifier skipped.1 source skipped.2) := by
  induction segments with
  | nil => rfl
  | cons segment segments ih =>
    rw [readModifiers] at ih
    rw [readModifiers, List.foldr_cons, ih]
    cases hparse : Modifier.parse segment <;>
      simp [modifierOf?, faultOf?, hparse, Except.toOption]

/-- Each segment becomes a modifier or is reported. -/
theorem length_filterMap_add (segments : List Text) :
    (segments.filterMap modifierOf?).length + (segments.filterMap faultOf?).length =
      segments.length := by
  induction segments with
  | nil => rfl
  | cons segment segments ih =>
    cases hparse : Modifier.parse segment <;>
      simp [modifierOf?, faultOf?, hparse, Except.toOption] <;> omega

/-! ## Templates of one merge tag -/

/-- A merge tag with the segments of its chain, as it is written. -/
def chainText (identifier : Text) (segments : List Text) : Text :=
  '{' :: (MergeTag.contentOf identifier segments ++ ['}'])

namespace Template

/-- The modifiers of the merge tags of a template. -/
def modifiers (template : Template) : List Modifier :=
  template.tokens.flatMap fun
    | .tag mergeTag => mergeTag.modifiers
    | _ => []

/-- The segments that were reported, with their faults. -/
def skipped (template : Template) : List (Text × Modifier.ParseFault) :=
  template.findings.filterMap fun
    | .skippedModifier segment _ fault => some (segment, fault)
    | _ => none

/-- A single merge tag is a template of its own. -/
theorem parse_tag {limits : Limits} {text : Text} {mergeTag : MergeTag} {findings : List Finding}
    (h : lex text = ⟨[.tag mergeTag], findings⟩) :
    parse limits text = ⟨[.tag mergeTag], findings⟩ := by
  have hrun (depth limit : Int) (budget : Nat) :
      Assembly.run depth limit budget .start [.tag mergeTag] = ([.tag mergeTag], []) := rfl
  rw [parse, h]
  simp only [hrun, List.append_nil]

section

variable {limits : Limits} {identifier : Text} {segments : List Text}

/-- A merge tag is read from the pieces of its chain: those that stand for a modifier are its
modifiers, and the others are reported. -/
theorem parse_chainText (hi : isIdentifier identifier = true)
    (hs : ∀ segment ∈ segments, IsSegment segment) :
    parse limits (chainText identifier segments) =
      ⟨[.tag ⟨identifier, (cutChain segments).filterMap modifierOf?,
          chainText identifier segments⟩],
        ((cutChain segments).filterMap faultOf?).map fun skipped =>
          .skippedModifier skipped.1 (chainText identifier segments) skipped.2⟩ := by
  have hbare := MergeTag.bare_contentOf hi fun segment hm => (hs segment hm).bare
  have hsolid : ∀ segment ∈ segments, EndsSolid ('|' :: segment) :=
    fun segment hm => (hs segment hm).endsSolid
  have hsign : (strip (MergeTag.contentOf identifier segments)).head? = some '$' := by
    rw [MergeTag.strip_contentOf hi hsolid]
    rfl
  refine parse_tag ?_
  rw [lex, chainText, lexFrom_braces hbare, lexFrom_nil, Lexed.behindBraces, if_pos hsign,
    MergeTag.read_contentOf hi hsolid, readModifiers_eq]
  simp [Lexed.behindPiece]

/-- What each segment gives on its own, one behind the other. -/
theorem flatMap_alone {β : Type} {f : List Text → List β} {g : Text → Option β}
    (hs : ∀ segment ∈ segments, IsSegment segment)
    (h : ∀ segment, IsSegment segment → f [segment] = (cutChain [segment]).filterMap g) :
    segments.flatMap (fun segment => f [segment]) = segments.filterMap g := by
  calc segments.flatMap (fun segment => f [segment])
      = segments.flatMap (fun segment => [segment].filterMap g) :=
        List.flatMap_congr fun segment hm => by
          rw [h segment (hs segment hm), cutChain_singleton (hs segment hm).notMem_bar]
    _ = segments.filterMap g := by rw [← List.filterMap_flatMap, List.flatMap_singleton']

theorem modifiers_chainText (hi : isIdentifier identifier = true)
    (hs : ∀ segment ∈ segments, IsSegment segment) :
    (parse limits (chainText identifier segments)).modifiers =
      (cutChain segments).filterMap modifierOf? := by
  rw [parse_chainText hi hs]
  simp [modifiers]

theorem skipped_chainText (hi : isIdentifier identifier = true)
    (hs : ∀ segment ∈ segments, IsSegment segment) :
    (parse limits (chainText identifier segments)).skipped =
      (cutChain segments).filterMap faultOf? := by
  rw [parse_chainText hi hs]
  simp [skipped, List.filterMap_map]

end

/-- **Segments on their own.** A merge tag with a chain is read as one merge tag, and nothing but
segments without a modifier is noticed. Its modifiers are those of the segments on their own, and
the segments that are reported are those that are reported on their own, exactly if every segment
but the last closes its quotes. -/
theorem parse_chainText_iff (limits : Limits) {identifier : Text}
    (hi : isIdentifier identifier = true) {segments : List Text}
    (hs : ∀ segment ∈ segments, IsSegment segment) :
    let read (segments : List Text) := parse limits (chainText identifier segments)
    (read segments).tokens =
        [.tag ⟨identifier, (read segments).modifiers, chainText identifier segments⟩] ∧
      (∀ finding ∈ (read segments).findings, finding.kind = .modifierArgumentError) ∧
      ((read segments).modifiers = segments.flatMap (fun segment => (read [segment]).modifiers) ∧
          (read segments).skipped = segments.flatMap (fun segment => (read [segment]).skipped) ↔
        ∀ segment ∈ segments.dropLast, ClosesQuotes segment) := by
  intro read
  have hbar : ∀ segment ∈ segments, '|' ∉ segment := fun segment hm => (hs segment hm).notMem_bar
  have hone {segment : Text} (h : IsSegment segment) : ∀ text ∈ [segment], IsSegment text :=
    List.forall_mem_singleton.2 h
  have hmodifiers : (read segments).modifiers = _ := modifiers_chainText hi hs
  have hskipped : (read segments).skipped = _ := skipped_chainText hi hs
  have hmodifiersAlone : segments.flatMap (fun segment => (read [segment]).modifiers) = _ :=
    flatMap_alone (f := fun segments => (read segments).modifiers) hs fun _ h =>
      modifiers_chainText hi (hone h)
  have hskippedAlone : segments.flatMap (fun segment => (read [segment]).skipped) = _ :=
    flatMap_alone (f := fun segments => (read segments).skipped) hs fun _ h =>
      skipped_chainText hi (hone h)
  refine ⟨?_, ?_, ?_⟩
  · rw [hmodifiers]
    exact congrArg Template.tokens (parse_chainText hi hs)
  · rw [show read segments = _ from parse_chainText hi hs]
    exact List.forall_mem_map.2 fun _ _ => rfl
  · rw [hmodifiers, hskipped, hmodifiersAlone, hskippedAlone]
    constructor
    · -- Each piece, like each segment, counts once: as a modifier or as reported.
      rintro ⟨hm, hf⟩
      refine closesQuotes_of_length_cutChain hbar ?_
      rw [← length_filterMap_add, ← length_filterMap_add segments, hm, hf]
    · intro hclosed
      rw [cutChain_eq_self hbar hclosed]
      exact ⟨rfl, rfl⟩

/-- A chain with quoted blanks, a name that no modifier has, and an apostrophe in the last
segment. -/
theorem parse_chainText_iff_blanks :
    let segments := ["replace:\" \":'-'".toList, "shout".toList, "date_format:it's".toList]
    let read (segments : List Text) := parse {} (chainText "Name".toList segments)
    isIdentifier "Name".toList = true ∧ (∀ segment ∈ segments, IsSegment segment) ∧
      (∀ segment ∈ segments.dropLast, ClosesQuotes segment) ∧
      (read segments).modifiers = [.replace [' '] ['-'], .dateFormat "it's".toList] ∧
      (read segments).modifiers = segments.flatMap (fun segment => (read [segment]).modifiers) ∧
      (read segments).skipped = segments.flatMap (fun segment => (read [segment]).skipped) := by
  intro segments read
  have hi : isIdentifier "Name".toList = true := by decide
  have hs : ∀ segment ∈ segments, IsSegment segment := by
    simp only [segments, List.forall_mem_cons]
    refine ⟨⟨by decide, by decide, by decide⟩, ⟨by decide, by decide, by decide⟩,
      ⟨by decide, by decide, by decide⟩, fun _ hm => absurd hm List.not_mem_nil⟩
  have hclosed : ∀ segment ∈ segments.dropLast, ClosesQuotes segment := by decide
  refine ⟨hi, hs, hclosed, by decide +kernel, ?_⟩
  exact (parse_chainText_iff {} hi hs).2.2.2 hclosed

/-- An apostrophe in a bare argument takes in the modifier behind it, and nothing is reported. -/
theorem parse_chainText_ne :
    let segments := ["replace:it's:its".toList, "upper".toList]
    let read (segments : List Text) := parse {} (chainText "X".toList segments)
    (∀ segment ∈ segments, IsSegment segment) ∧
      (read segments).modifiers = [.replace "it's".toList "its|upper".toList] ∧
      (read segments).skipped = [] ∧
      (read segments).modifiers ≠ segments.flatMap fun segment => (read [segment]).modifiers := by
  intro segments read
  have hs : ∀ segment ∈ segments, IsSegment segment :=
    List.forall_mem_cons.2 ⟨⟨by decide, by decide, by decide⟩,
      List.forall_mem_singleton.2 ⟨by decide, by decide, by decide⟩⟩
  exact ⟨hs, by decide +kernel, by decide +kernel, by decide +kernel⟩

end Template

end FormLetter
