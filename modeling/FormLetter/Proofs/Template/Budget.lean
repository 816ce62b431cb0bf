import FormLetter.Proofs.Template.Following

/-!
# The budget of markers

A budget of markers cuts pairing off at the first marker beyond it. What comes of a text is what
comes of its pieces where all markers beyond the budget are text, and the cut is reported. Blocks
that are open there stay open: no piece behind the cut can close them.

* `Piece.keepMarkers`: pieces with the markers beyond a budget made text.
* `Template.ofPieces`: what comes of pieces if all their markers are paired.
* `Assembly.run_eq_steps_keepMarkers`: a run with a budget is one without it over such pieces.
* `Template.parse_budget`: the budget is exact, and the default is never used up.
-/

namespace FormLetter

/-! ## Pieces within a budget -/

namespace Piece

/-- The pieces with the markers beyond a budget made text. -/
def keepMarkers : Nat → List Piece → List Piece
  | _, [] => []
  | budget, piece :: pieces =>
    if piece.isMarker then
      match budget with
      | 0 => .text piece.source :: keepMarkers 0 pieces
      | budget + 1 => piece :: keepMarkers budget pieces
    else piece :: keepMarkers budget pieces

/-- The first marker beyond a budget. -/
def beyond? (budget : Nat) (pieces : List Piece) : Option Piece :=
  (pieces.filter isMarker)[budget]?

section

variable {budget : Nat} {piece : Piece} {pieces : List Piece}

theorem keepMarkers_of_not_isMarker (h : piece.isMarker = false) :
    keepMarkers budget (piece :: pieces) = piece :: keepMarkers budget pieces := by
  simp [keepMarkers, h]

theorem keepMarkers_succ_of_isMarker (h : piece.isMarker = true) :
    keepMarkers (budget + 1) (piece :: pieces) = piece :: keepMarkers budget pieces := by
  simp [keepMarkers, h]

/-- With as few markers as the budget admits, all of them are kept. -/
theorem keepMarkers_of_countP_le (h : pieces.countP isMarker ≤ budget) :
    keepMarkers budget pieces = pieces := by
  induction pieces generalizing budget with
  | nil => rw [keepMarkers]
  | cons piece pieces ih =>
    cases hm : piece.isMarker with
    | false =>
      rw [List.countP_cons_of_neg (by rw [hm]; exact Bool.false_ne_true)] at h
      rw [keepMarkers_of_not_isMarker hm, ih h]
    | true =>
      rw [List.countP_cons_of_pos hm] at h
      cases budget with
      | zero => omega
      | succ budget => rw [keepMarkers_succ_of_isMarker hm, ih (Nat.le_of_succ_le_succ h)]

theorem isSome_beyond?_iff : (beyond? budget pieces).isSome ↔ budget < pieces.countP isMarker := by
  simp [beyond?, List.countP_eq_length_filter]

theorem beyond?_of_not_isMarker (h : piece.isMarker = false) :
    beyond? budget (piece :: pieces) = beyond? budget pieces := by
  rw [beyond?, List.filter_cons_of_neg (by rw [h]; exact Bool.false_ne_true), beyond?]

theorem beyond?_zero_of_isMarker (h : piece.isMarker = true) :
    beyond? 0 (piece :: pieces) = some piece := by
  rw [beyond?, List.filter_cons_of_pos h]
  rfl

theorem beyond?_succ_of_isMarker (h : piece.isMarker = true) :
    beyond? (budget + 1) (piece :: pieces) = beyond? budget pieces := by
  rw [beyond?, List.filter_cons_of_pos h, List.getElem?_cons_succ, beyond?]

end

end Piece

/-! ## Findings -/

/-- Whether a finding says that the budget of markers was used up. -/
def Finding.isStepLimit : Finding → Bool
  | stepLimit .. => true
  | _ => false

namespace Assembly

variable {depth : Int} {assembly : Assembly}

theorem isStepLimit_of_mem_steps {pieces : List Piece} :
    ∀ finding ∈ (assembly.steps depth pieces).2, finding.isStepLimit = false := by
  induction pieces generalizing assembly with
  | nil => exact fun _ hf => absurd hf List.not_mem_nil
  | cons piece pieces ih =>
    refine List.forall_mem_append.2 ⟨?_, ih⟩
    exact forall_mem_step (fun _ _ _ => rfl) (fun _ => rfl) (fun _ => rfl) (fun _ => rfl)
      fun _ _ => rfl

theorem isStepLimit_of_mem_finish :
    ∀ finding ∈ assembly.finish.2, finding.isStepLimit = false :=
  forall_mem_unclosedFindings .unclosed (fun _ => rfl) assembly.stack

/-! ## Runs -/

/-- Where no marker is left, the pieces are put behind what is read. -/
theorem steps_keepMarkers_zero (pieces : List Piece) :
    assembly.steps depth (Piece.keepMarkers 0 pieces) =
      (assembly.append (pieces.map plainToken), []) := by
  induction pieces generalizing assembly with
  | nil => rw [Piece.keepMarkers, List.map_nil, append_nil, steps]
  | cons piece pieces ih =>
    have hstep : assembly.steps depth (Piece.keepMarkers 0 (piece :: pieces)) =
        (assembly.append [plainToken piece]).steps depth (Piece.keepMarkers 0 pieces) := by
      cases piece <;> simp [Piece.keepMarkers, Piece.isMarker, steps, step, plainToken, Piece.source]
    rw [hstep, ih, append_append, List.map_cons, List.singleton_append]

/-- A run with a budget is one without it over the pieces within the budget. The first marker beyond
it is reported in front of the blocks that are open at the end. -/
theorem run_eq_steps_keepMarkers (limit : Int) (budget : Nat) (pieces : List Piece) :
    run depth limit budget assembly pieces =
      let last := assembly.steps depth (Piece.keepMarkers budget pieces)
      (last.1.finish.1, last.2 ++
        ((Piece.beyond? budget pieces).map fun piece => .stepLimit limit piece.source).toList ++
          last.1.finish.2) := by
  induction pieces generalizing assembly budget with
  | nil => simp [run, Piece.keepMarkers, steps, Piece.beyond?]
  | cons piece pieces ih =>
    cases hm : piece.isMarker with
    | false =>
      simp [run, hm, ih, Piece.keepMarkers_of_not_isMarker, Piece.beyond?_of_not_isMarker, steps]
    | true =>
      cases budget with
      | zero =>
        simp [run, hm, steps_keepMarkers_zero, Piece.beyond?_zero_of_isMarker]
      | succ budget =>
        simp [run, hm, ih, Piece.keepMarkers_succ_of_isMarker, Piece.beyond?_succ_of_isMarker, steps]

end Assembly

/-! ## Templates -/

namespace Template

/-- The template that pieces make if all markers among them are paired. -/
def ofPieces (depth : Int) (pieces : List Piece) : Template :=
  let last := Assembly.start.steps depth pieces
  ⟨last.1.finish.1, last.2 ++ last.1.finish.2⟩

/-- The finding for the first marker of a text that is beyond the budget. -/
def stepLimit? (limits : Limits) (text : Text) : Option Finding :=
  (Piece.beyond? (budget limits text).toNat (lex text).pieces).map fun piece =>
    .stepLimit (budget limits text) piece.source

section

variable {limits : Limits} {text : Text}

theorem filter_inserted {p : Finding → Bool} {front inserted back : List Finding}
    (h : ∀ finding ∈ front ++ back, p finding = false)
    (hi : ∀ finding ∈ inserted, p finding = true) :
    (front ++ inserted ++ back).filter (fun finding => !p finding) = front ++ back ∧
      (front ++ inserted ++ back).filter p = inserted := by
  obtain ⟨hfront, hback⟩ := List.forall_mem_append.1 h
  have hkept {findings : List Finding} (hf : ∀ finding ∈ findings, p finding = false) :
      findings.filter (fun finding => !p finding) = findings ∧ findings.filter p = [] :=
    ⟨List.filter_eq_self.2 fun finding hm => by rw [hf finding hm]; rfl,
      List.filter_eq_nil_iff.2 fun finding hm => by rw [hf finding hm]; exact Bool.false_ne_true⟩
  have hgone : inserted.filter (fun finding => !p finding) = [] ∧ inserted.filter p = inserted :=
    ⟨List.filter_eq_nil_iff.2 fun finding hm => by rw [hi finding hm]; exact Bool.false_ne_true,
      List.filter_eq_self.2 hi⟩
  simp only [List.filter_append, hkept hfront, hkept hback, hgone, List.append_nil,
    List.nil_append, and_self]

theorem isStepLimit_of_mem_lex {finding : Finding} (h : finding ∈ (lex text).findings) :
    finding.isStepLimit = false := by
  have hlex := Finding.isAboutTag_of_mem_lex h
  cases finding <;> first | rfl | exact Bool.noConfusion hlex

theorem isStepLimit_of_mem_ofPieces {depth : Int} {pieces : List Piece} :
    ∀ finding ∈ (ofPieces depth pieces).findings, finding.isStepLimit = false :=
  List.forall_mem_append.2 ⟨Assembly.isStepLimit_of_mem_steps, Assembly.isStepLimit_of_mem_finish⟩

theorem isStepLimit_of_mem_stepLimit? :
    ∀ finding ∈ (stepLimit? limits text).toList, finding.isStepLimit = true := by
  intro finding hf
  obtain ⟨piece, -, rfl⟩ := Option.map_eq_some_iff.1 (Option.mem_toList.1 hf)
  rfl

/-- A text is read as its pieces within the budget are. What is noticed is the same, with the finding
for the first marker beyond the budget put in. -/
theorem parse_eq_ofPieces (limits : Limits) (text : Text) :
    let within := ofPieces limits.depth
      (Piece.keepMarkers (budget limits text).toNat (lex text).pieces)
    (parse limits text).tokens = within.tokens ∧ ∃ front back,
      (lex text).findings ++ within.findings = front ++ back ∧
        (parse limits text).findings = front ++ (stepLimit? limits text).toList ++ back := by
  rw [parse, Assembly.run_eq_steps_keepMarkers]
  refine ⟨rfl, (lex text).findings ++ _, _, (List.append_assoc _ _ _).symm, ?_⟩
  rw [List.append_assoc, List.append_assoc, ← List.append_assoc _ _ (Assembly.finish _).2]
  rfl

theorem filter_findings_parse (limits : Limits) (text : Text) :
    (parse limits text).findings.filter (fun finding => !finding.isStepLimit) =
        (lex text).findings ++ (ofPieces limits.depth
          (Piece.keepMarkers (budget limits text).toNat (lex text).pieces)).findings ∧
      (parse limits text).findings.filter Finding.isStepLimit =
        (stepLimit? limits text).toList := by
  obtain ⟨-, front, back, hwithin, hfindings⟩ := parse_eq_ofPieces limits text
  have hnone : ∀ finding ∈ front ++ back, finding.isStepLimit = false :=
    hwithin ▸ List.forall_mem_append.2 ⟨fun _ => isStepLimit_of_mem_lex, isStepLimit_of_mem_ofPieces⟩
  rw [hwithin, hfindings]
  exact filter_inserted hnone isStepLimit_of_mem_stepLimit?

/-- The budget is reported exactly if the text has more markers. -/
theorem exists_isStepLimit_iff (limits : Limits) (text : Text) :
    (∃ finding ∈ (parse limits text).findings, finding.isStepLimit = true) ↔
      (budget limits text).toNat < (lex text).pieces.countP Piece.isMarker := by
  simp only [← List.mem_filter, (filter_findings_parse limits text).2, Option.mem_toList]
  rw [← Option.isSome_iff_exists, stepLimit?, Option.isSome_map, Piece.isSome_beyond?_iff]

/-- With a budget greater than the length of the text all markers are paired. -/
theorem parse_of_length_lt {limits : Limits} {text : Text} (h : text.length < budget limits text) :
    parse limits text = ⟨(ofPieces limits.depth (lex text).pieces).tokens,
      (lex text).findings ++ (ofPieces limits.depth (lex text).pieces).findings⟩ := by
  have hle : (lex text).pieces.countP Piece.isMarker ≤ (budget limits text).toNat := by
    have hlex := countP_isMarker_lex_le text
    omega
  have hcut : stepLimit? limits text = none := by
    rw [stepLimit?, Option.map_eq_none_iff, ← Option.not_isSome_iff_eq_none,
      Piece.isSome_beyond?_iff]
    omega
  obtain ⟨htokens, front, back, hwithin, hfindings⟩ := parse_eq_ofPieces limits text
  rw [Piece.keepMarkers_of_countP_le hle] at htokens hwithin
  rw [hcut, Option.toList_none, List.append_nil, ← hwithin] at hfindings
  rw [← htokens, ← hfindings]

end

/-- **The budget of markers.** With a nesting limit of at least one every text is read, whatever the
budget of markers. The tokens are those of the pieces with all markers beyond the budget made text,
and so is what is noticed, but for one finding: the first marker beyond the budget is reported,
which is so exactly if the text has more markers than the budget. Without a budget none is reported,
and a budget greater than the length of the text changes nothing. -/
theorem parse_budget {depth : Int} (h : 1 ≤ depth) (text : Text) :
    (∀ budget : Nat,
      let limits : Limits := ⟨depth, some budget⟩
      let pieces := (lex text).pieces
      let within := ofPieces depth (Piece.keepMarkers budget pieces)
      isRefused limits text = false ∧ (parse limits text).tokens = within.tokens ∧
        (parse limits text).findings.filter (fun finding => !finding.isStepLimit) =
          (lex text).findings ++ within.findings ∧
        (parse limits text).findings.filter Finding.isStepLimit =
          ((Piece.beyond? budget pieces).map fun piece =>
            Finding.stepLimit budget piece.source).toList ∧
        ((∃ finding ∈ (parse limits text).findings, finding.isStepLimit = true) ↔
          budget < pieces.countP Piece.isMarker)) ∧
      isRefused ⟨depth, none⟩ text = false ∧
      (∀ finding ∈ (parse ⟨depth, none⟩ text).findings, finding.isStepLimit = false) ∧
      ∀ larger : Int, text.length < larger →
        parse ⟨depth, some larger⟩ text = parse ⟨depth, none⟩ text := by
  have hdefault : text.length < budget ⟨depth, none⟩ text := Int.lt_succ _
  refine ⟨fun budget => ?_, isRefused_of_one_le h text, ?_, fun larger hl => ?_⟩
  · obtain ⟨hothers, hlimits⟩ := filter_findings_parse ⟨depth, some budget⟩ text
    exact ⟨isRefused_of_one_le h text, (parse_eq_ofPieces ⟨depth, some budget⟩ text).1, hothers,
      hlimits, exists_isStepLimit_iff ⟨depth, some budget⟩ text⟩
  · rw [parse_of_length_lt hdefault]
    exact List.forall_mem_append.2 ⟨fun _ => isStepLimit_of_mem_lex, isStepLimit_of_mem_ofPieces⟩
  · have hlarger : text.length < budget ⟨depth, some larger⟩ text := hl
    rw [parse_of_length_lt hdefault, parse_of_length_lt hlarger]

/-- A block that is open beyond the budget, with an alternative in front of it and one behind. -/
theorem parse_budget_open :
    let text := "{if $A}x{elseif $B}{$C}{else}y{/if}".toList
    let pieces : List Piece := [
      .marker (.opener .ifBlock "$A".toList) "{if $A}".toList, .text "x".toList,
      .marker (.elseIf "$B".toList) "{elseif $B}".toList, .tag ⟨"C".toList, [], "{$C}".toList⟩,
      .text "{else}".toList, .text "y".toList, .text "{/if}".toList]
    (1 : Int) ≤ 64 ∧ Piece.keepMarkers 2 (lex text).pieces = pieces ∧
      (parse ⟨64, some 2⟩ text).tokens = (ofPieces 64 pieces).tokens ∧
      (parse ⟨64, some 2⟩ text).findings.filter Finding.isStepLimit =
        [.stepLimit 2 "{else}".toList] ∧
      text.length < (1000 : Int) ∧ parse ⟨64, some 1000⟩ text = parse ⟨64, none⟩ text := by
  intro text pieces
  have hkept : Piece.keepMarkers 2 (lex text).pieces = pieces := by decide +kernel
  obtain ⟨hbudget, -, -, hlarger⟩ := parse_budget (show (1 : Int) ≤ 64 by decide) text
  obtain ⟨-, htokens, -, hlimit, -⟩ := hbudget 2
  refine ⟨by decide, hkept, hkept ▸ htokens, hlimit.trans ?_, by decide, hlarger 1000 (by decide)⟩
  decide +kernel

end Template

end FormLetter
