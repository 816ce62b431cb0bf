import FormLetter.Proofs.Template.Pairing
import FormLetter.Proofs.Template.Reflection

/-!
# Following a text

An assembly that has followed some marks follows the next piece too, and it reports exactly what the
marks of that piece add to the marks that are to be reported. So it follows a whole text as long as
no limit is reached.

* `Assembly.Advances`: more marks are followed, and what is noticed is about them.
* `Assembly.Follows.step`: one piece, with a theorem for each kind of marker before it.
* `Assembly.steps`, `Assembly.run_eq_steps`: the effect of pieces without a budget.
* `Assembly.Follows.steps`: all pieces.
-/

namespace FormLetter

namespace Assembly

/-! ## One piece -/

/-- An assembly that followed some marks has followed more of them, and what was noticed on the way
is about the marks that are reported since. -/
structure Advances (seen later : List Mark) (result : Assembly × List Finding) : Prop where
  /-- All marks are followed. -/
  follows : result.1.Follows (seen ++ later)
  /-- The new findings are about the new reported marks. -/
  reported : ((reported (seen ++ later)).map fun mark => some mark.source).Perm
    (((reported seen).map fun mark => some mark.source) ++ result.2.map Finding.marker?)

section

variable {depth : Int} {assembly next : Assembly} {noticed : List Finding}
  {seen dropped : List Mark} {mark : Mark} {new : Option BlockPair}

/-- A marker is followed if its blocks are open behind it, its pair is settled, and it is copied if
it closes a block and has no pair. It must report the marks that it drops, and itself if it is out
of place. -/
theorem Follows.advances (h : assembly.Follows seen) (hm : mark.position = assembly.position)
    (hs : 0 < mark.source.length)
    (hstep : assembly.step depth (.marker mark.marker mark.source) = (next, noticed))
    (he : Ledger.Effect seen (Ledger.run seen) mark (Ledger.run (seen ++ [mark])) new dropped)
    (hstack : Reflects
      (fun first => HasElse seen (Ledger.run seen).pairs assembly.position first ∨
        mark.marker = .otherwise ∧ (Ledger.run seen).pending.head? = some first)
      next.base next.stack (Ledger.run (seen ++ [mark])).pending)
    (hpair : (assembly.settled (.marker mark.marker mark.source)).filterMap Role.pair? = new.toList)
    (hcopied : mark.marker.closes?.isSome → new = none →
      assembly.settled (.marker mark.marker mark.source) =
        Token.roles assembly.position [.literal mark.source])
    (hnoticed : noticed.map Finding.marker? =
      (dropped ++ if mark.Misplaced seen (Ledger.run seen).pairs then [mark] else []).map
        fun mark => some mark.source) : Advances seen [mark] (next, noticed) := by
  have hbefore : ∀ other ∈ seen, other.position < mark.position := hm ▸ h.lt_position
  have hgrows := grows_step depth assembly (.marker mark.marker mark.source)
  have hposition := position_step depth assembly (.marker mark.marker mark.source)
  rw [hstep] at hgrows hposition
  have hlt : mark.position < next.position := by
    rw [hposition, hm, Piece.source]
    omega
  refine ⟨⟨List.pairwise_append.2 ⟨h.sorted, List.pairwise_singleton _ _, ?_⟩,
    List.forall_mem_append.2 ⟨fun other ho => Nat.lt_trans (hbefore other ho) hlt,
      List.forall_mem_singleton.2 hlt⟩,
    hstack.congr fun first _ _ => (h.hasElse_iff hm hlt first).symm, ?_, ?_⟩, ?_⟩
  · exact fun other ho last hl => List.mem_singleton.1 hl ▸ hbefore other ho
  · rw [hgrows.pairs, List.filterMap_append, h.pairs, hpair, he.pairs]
  · rw [he.pairs]
    simp only [List.forall_mem_append]
    refine ⟨fun other ho hc hnone index hi => ?_, ?_⟩
    · exact hgrows.sublist.subset
        (List.mem_append_left _ (h.copied other ho hc hnone.1 index hi))
    · rw [List.forall_mem_singleton]
      intro hc hnone index hi
      have hnew : new = none := Option.eq_none_iff_forall_ne_some.2 fun pair hn =>
        hnone.2 pair (Option.mem_toList.2 hn) (he.closer_eq pair (Option.mem_toList.2 hn))
      refine hgrows.sublist.subset (List.mem_append_right _ ?_)
      rw [hcopied hc hnew, Token.roles_singleton, Token.rolesOne, hm]
      refine List.mem_map.2 ⟨assembly.position + index, ?_, rfl⟩
      rw [List.mem_range'_1]
      omega
  · rw [hnoticed, ← List.map_append]
    exact (reported_append_singleton he hbefore).map _

theorem not_misplaced {marks : List Mark} {pairs : List BlockPair} {mark : Mark}
    (h : mark.marker.isBranch = false) : ¬ mark.Misplaced marks pairs := fun hm =>
  absurd hm.1 (by simp [h])

/-- A mark that opens a block. -/
theorem Follows.advances_opener (h : assembly.Follows seen) (hm : mark.position = assembly.position)
    (hs : 0 < mark.source.length)
    (hstep : assembly.step depth (.marker mark.marker mark.source) = (next, noticed))
    (hnone : ∀ finding ∈ noticed, finding.isLimit = false) {kind : BlockKind} {condition : Text}
    (hk : mark.marker = .opener kind condition) : Advances seen [mark] (next, noticed) := by
  have hbefore : ∀ other ∈ seen, other.position < mark.position := hm ▸ h.lt_position
  have hopens : mark.marker.opens? = some kind := by rw [hk]; rfl
  have hcloses : mark.marker.closes? = none := by rw [hk]; rfl
  have heffect := h.sound.effect_of_closes?_eq_none hbefore hcloses
  have hrun := Ledger.step_opener (Ledger.run seen) (Option.isSome_of_eq_some hopens)
  rw [← Ledger.run_append_singleton] at heffect hrun
  -- No open block lies beyond the limit, so the new one would be reported if it did.
  have hhead : (assembly.stack.head?.any fun block => block.plain) = false := by
    cases hstack : assembly.stack with
    | nil => rfl
    | cons block outer => exact h.stack.plain block (hstack ▸ List.mem_cons_self)
  have hresult := hstep
  simp only [hk, step, openBlock, hhead, Bool.not_false, Bool.and_true, Prod.mk.injEq] at hresult
  obtain ⟨hnext, hnoticed⟩ := hresult
  have hplain : decide (depth ≤ assembly.stack.length) = false := by
    rw [← Bool.not_eq_true]
    intro hle
    exact Bool.noConfusion (hnone (.tooDeep depth mark.source) (by simp [← hnoticed, hle]))
  rw [hplain] at hnext hnoticed
  refine h.advances hm hs hstep heffect ?_ (by rw [hk]; rfl) (by simp [hcloses]) ?_
  · rw [hrun, ← hnext]
    refine .cons ⟨rfl, hopens, rfl, hm, fun _ => ?_⟩ (h.stack.congr fun first _ _ => ?_)
    · refine iff_of_false (Option.some_ne_none _) ?_
      rintro (⟨other, ho, -, -, -, hopen, -⟩ | ⟨he, -⟩)
      · exact Nat.lt_asymm (hbefore other ho) hopen.2.1
      · rw [he] at hk
        cases hk
    · exact (or_iff_left fun he => by rw [he.1] at hk; cases hk).symm
  · rw [← hnoticed, if_neg (not_misplaced (by rw [hk]; rfl))]
    rfl

theorem opens?_of_isBranch {marker : Marker} (h : marker.isBranch = true) :
    marker.opens? = none := by
  cases marker <;> first | rfl | cases h

theorem closes?_of_isBranch {marker : Marker} (h : marker.isBranch = true) :
    marker.closes? = none := by
  cases marker <;> first | rfl | cases h

/-- A mark that starts an alternative changes neither the open marks nor the pairs. -/
theorem Follows.advances_branch (h : assembly.Follows seen) (hm : mark.position = assembly.position)
    (hs : 0 < mark.source.length)
    (hstep : assembly.step depth (.marker mark.marker mark.source) = (next, noticed))
    (hk : mark.marker.isBranch = true)
    (hstack : Reflects
      (fun first => HasElse seen (Ledger.run seen).pairs assembly.position first ∨
        mark.marker = .otherwise ∧ (Ledger.run seen).pending.head? = some first)
      next.base next.stack (Ledger.run seen).pending)
    (hnoticed : noticed.map Finding.marker? =
      (if mark.Misplaced seen (Ledger.run seen).pairs then [mark] else []).map
        fun mark => some mark.source) : Advances seen [mark] (next, noticed) := by
  have hbefore : ∀ other ∈ seen, other.position < mark.position := hm ▸ h.lt_position
  have hcloses := closes?_of_isBranch hk
  have heffect := h.sound.effect_of_closes?_eq_none hbefore hcloses
  have hrun := Ledger.step_branch (Ledger.run seen) (opens?_of_isBranch hk) hcloses
  rw [← Ledger.run_append_singleton] at heffect hrun
  refine h.advances hm hs hstep heffect (hrun ▸ hstack) ?_ (by simp [hcloses]) hnoticed
  cases hmarker : mark.marker <;> first | rfl | simp [hmarker, Marker.closes?] at hcloses

/-- An alternative that no block takes is copied. -/
theorem Follows.advances_kept (h : assembly.Follows seen) (hm : mark.position = assembly.position)
    (hs : 0 < mark.source.length)
    (hstep : assembly.step depth (.marker mark.marker mark.source) =
      (assembly.append [.literal mark.source], noticed))
    (hk : mark.marker.isBranch = true)
    (helse : ∀ first, (Ledger.run seen).pending.head? = some first →
      first.marker.opens? = some .ifBlock →
        HasElse seen (Ledger.run seen).pairs assembly.position first)
    (hnoticed : noticed.map Finding.marker? =
      (if mark.Misplaced seen (Ledger.run seen).pairs then [mark] else []).map
        fun mark => some mark.source) :
    Advances seen [mark] (assembly.append [.literal mark.source], noticed) := by
  refine h.advances_branch hm hs hstep hk ?_ hnoticed
  refine (h.stack.append _).congr fun first _ hkind => ?_
  exact (or_iff_left_of_imp fun he => helse first he.2 hkind).symm

/-- An alternative that the innermost block takes. -/
theorem Follows.advances_nextBranch {base : List Token} {block : OpenBlock} {outer : List OpenBlock}
    (h : Follows ⟨base, block :: outer⟩ seen) (hm : mark.position = position ⟨base, block :: outer⟩)
    (hs : 0 < mark.source.length) (hk : mark.marker.isBranch = true) {condition : Option Condition}
    (hc : condition = none ↔ mark.marker = .otherwise) (hkind : block.kind = .ifBlock)
    (hmore : block.condition ≠ none)
    (hstep : step depth ⟨base, block :: outer⟩ (.marker mark.marker mark.source) =
      (⟨base, block.nextBranch condition mark.source :: outer⟩, [])) :
    Advances seen [mark] (⟨base, block.nextBranch condition mark.source :: outer⟩, []) := by
  have hbefore : ∀ other ∈ seen, other.position < mark.position := hm ▸ h.lt_position
  obtain ⟨first, rest, hpending, hstands, hrest⟩ := h.stack.eq_cons
  have hhead : (Ledger.run seen).pending.head? = some first := by rw [hpending]; rfl
  have hno := mt (hstands.condition hkind).2 hmore
  refine h.advances_branch hm hs hstep hk ?_ ?_
  · rw [hpending]
    refine .cons ⟨hstands.plain, hstands.kind, ?_, hstands.position, fun _ => ?_⟩ ?_
    · rw [opener_nextBranch, hstands.source]
    · exact hc.trans (by simp [hno])
    · refine hrest.congr fun other ho _ => (or_iff_left fun he => ?_).symm
      have hsorted := h.sound.sorted
      rw [hpending] at hsorted
      have hlt := (List.pairwise_cons.1 hsorted).1 other ho
      rw [Option.some.inj he.2] at hlt
      exact Nat.lt_irrefl _ hlt
  · rw [if_neg fun hmis => ?_]
    · rfl
    · have helse := (((h.sound.misplaced_iff hbefore hk).1 hmis) first hhead).2
      exact hno (hm ▸ helse)

/-- A mark that starts an alternative. -/
theorem Follows.advances_startBranch (h : assembly.Follows seen)
    (hm : mark.position = assembly.position) (hs : 0 < mark.source.length)
    (hk : mark.marker.isBranch = true) {condition : Option Condition}
    (hc : condition = none ↔ mark.marker = .otherwise)
    (hstep : assembly.step depth (.marker mark.marker mark.source) =
      assembly.startBranch condition mark.source) :
    Advances seen [mark] (assembly.startBranch condition mark.source) := by
  have hbefore : ∀ other ∈ seen, other.position < mark.position := hm ▸ h.lt_position
  have hmisplaced := h.sound.misplaced_iff hbefore hk
  obtain ⟨base, stack⟩ := assembly
  cases stack with
  | nil =>
    have hpending := h.stack.eq_nil
    rw [hpending] at hmisplaced
    refine h.advances_kept hm hs hstep hk (fun first hf => ?_) ?_
    · rw [hpending] at hf
      cases hf
    · rw [if_pos (hmisplaced.2 fun first hf => absurd hf.symm (Option.some_ne_none first))]
      rfl
  | cons block outer =>
    obtain ⟨first, rest, hpending, hstands, -⟩ := h.stack.eq_cons
    have hhead : (Ledger.run seen).pending.head? = some first := by rw [hpending]; rfl
    simp only [hhead, Option.some.injEq, forall_eq', hstands.kind, hm] at hmisplaced
    cases hkind : block.kind with
    | listIf =>
      have hstart : startBranch condition mark.source ⟨base, block :: outer⟩ =
          (Assembly.append [.literal mark.source] ⟨base, block :: outer⟩, []) := by
        simp [startBranch, hkind]
      rw [hkind] at hmisplaced
      rw [hstart] at hstep ⊢
      refine h.advances_kept hm hs hstep hk (fun other ho hother => ?_) ?_
      · rw [← Option.some.inj (hhead.symm.trans ho), hstands.kind, hkind] at hother
        cases hother
      · rw [if_neg fun hmis => absurd (hmisplaced.1 hmis).1 (by decide)]
        rfl
    | ifBlock =>
      have hcondition := hstands.condition hkind
      rw [hkind] at hmisplaced
      by_cases hnone : block.condition = none
      · have hstart : startBranch condition mark.source ⟨base, block :: outer⟩ =
            (Assembly.append [.literal mark.source] ⟨base, block :: outer⟩,
              [.branchAfterElse mark.source]) := by
          simp [startBranch, hkind, hstands.plain, hnone]
        rw [hstart] at hstep ⊢
        refine h.advances_kept hm hs hstep hk (fun other ho _ => ?_) ?_
        · rw [← Option.some.inj (hhead.symm.trans ho)]
          exact hcondition.1 hnone
        · rw [if_pos (hmisplaced.2 ⟨rfl, hcondition.1 hnone⟩)]
          rfl
      · rw [startBranch_of_isSome hkind hstands.plain (Option.isSome_iff_ne_none.2 hnone)]
          at hstep ⊢
        exact h.advances_nextBranch hm hs hk hc hkind hnone hstep

theorem unclosedFindings_of_forall {inner : List OpenBlock} {marks : List Mark}
    (report : Text → Finding) (hreport : ∀ source, (report source).marker? = some source)
    (hplain : ∀ block ∈ inner, block.plain = false)
    (hsource : marks.map Mark.source = inner.map OpenBlock.opener) :
    (unclosedFindings report inner).map Finding.marker? =
      marks.reverse.map fun mark => some mark.source := by
  have hall : inner.reverse.filter (fun block => !block.plain) = inner.reverse :=
    List.filter_eq_self.2 fun block hb => by simp [hplain block (List.mem_reverse.1 hb)]
  calc (unclosedFindings report inner).map Finding.marker?
      = inner.reverse.map fun block => some block.opener := by
        rw [unclosedFindings, hall, List.map_map]
        exact List.map_congr_left fun block _ => hreport block.opener
    _ = (inner.map OpenBlock.opener).reverse.map some := by
        rw [← List.map_reverse, List.map_map]
        rfl
    _ = marks.reverse.map fun mark => some mark.source := by
        rw [← hsource, ← List.map_reverse, List.map_map]
        rfl

/-- Marks of the kinds of open blocks are not of another kind. -/
theorem opens?_ne_of_forall {kind : BlockKind} {marks : List Mark} {blocks : List OpenBlock}
    (hk : marks.map (·.marker.opens?) = blocks.map fun block => some block.kind)
    (hne : ∀ block ∈ blocks, block.kind ≠ kind) :
    ∀ other ∈ marks, other.marker.opens? ≠ some kind := by
  intro other ho he
  have hmem : some kind ∈ marks.map (·.marker.opens?) := List.mem_map.2 ⟨other, ho, he⟩
  rw [hk] at hmem
  obtain ⟨block, hb, hblock⟩ := List.mem_map.1 hmem
  exact hne block hb (Option.some.inj hblock)

/-- A mark that closes no open block. -/
theorem Follows.advances_unmatched (h : assembly.Follows seen)
    (hm : mark.position = assembly.position) (hs : 0 < mark.source.length) {kind : BlockKind}
    (hk : mark.marker = .closer kind) (hsplit : splitAtKind? kind assembly.stack = none)
    (hstep : assembly.step depth (.marker mark.marker mark.source) =
      (assembly.append [.literal mark.source], [.unmatchedClose mark.source])) :
    Advances seen [mark]
      (assembly.append [.literal mark.source], [.unmatchedClose mark.source]) := by
  have hbefore : ∀ other ∈ seen, other.position < mark.position := hm ▸ h.lt_position
  have hcloses : mark.marker.closes? = some kind := by rw [hk]; rfl
  have hnone : ∀ other ∈ (Ledger.run seen).pending, other.marker.opens? ≠ some kind :=
    opens?_ne_of_forall h.stack.kinds (splitAtKind?_eq_none hsplit)
  have hsettled : assembly.settled (.marker mark.marker mark.source) =
      Token.roles assembly.position [.literal mark.source] := by
    rw [hk]
    simp only [settled, hsplit]
  have heffect := h.sound.effect_unmatched hbefore hcloses hnone
  have hrun := Ledger.step_unmatched hcloses hnone
  rw [← Ledger.run_append_singleton] at heffect hrun
  refine h.advances hm hs hstep heffect ?_ ?_ (fun _ _ => hsettled) ?_
  · rw [hrun]
    exact (h.stack.append _).congr fun first _ _ =>
      (or_iff_left fun he => by rw [he.1] at hk; cases hk).symm
  · rw [hsettled]
    exact (Grows.literal _ _).pairs
  · rw [if_neg (not_misplaced (by rw [hk]; rfl))]
    rfl

/-- A mark that closes a block. -/
theorem Follows.advances_closeBlock (h : assembly.Follows seen)
    (hm : mark.position = assembly.position) (hs : 0 < mark.source.length) {kind : BlockKind}
    (hk : mark.marker = .closer kind)
    (hstep : assembly.step depth (.marker mark.marker mark.source) =
      assembly.closeBlock kind mark.source) :
    Advances seen [mark] (assembly.closeBlock kind mark.source) := by
  have hbefore : ∀ other ∈ seen, other.position < mark.position := hm ▸ h.lt_position
  have hcloses : mark.marker.closes? = some kind := by rw [hk]; rfl
  cases hsplit : splitAtKind? kind assembly.stack with
  | none =>
    have hclose : assembly.closeBlock kind mark.source =
        (assembly.append [.literal mark.source], [.unmatchedClose mark.source]) := by
      simp only [closeBlock, hsplit]
    rw [hclose] at hstep ⊢
    exact h.advances_unmatched hm hs hk hsplit hstep
  | some found =>
    obtain ⟨inner, block, outer⟩ := found
    have hreflects := splitAtKind?_eq_some hsplit ▸ h.stack
    obtain ⟨marks, first, rest, hpending, hkinds, hsources, hstands, hrest⟩ := hreflects.split
    have hblock : block.kind = kind := kind_of_splitAtKind? hsplit
    have hinner : ∀ other ∈ marks, other.marker.opens? ≠ some kind :=
      opens?_ne_of_forall hkinds (ne_of_splitAtKind? hsplit)
    have hfirst : first.marker.opens? = some kind := hblock ▸ hstands.kind
    have heffect := h.sound.effect_matched hbefore hcloses hpending hinner hfirst
    have hrun := Ledger.step_matched hcloses hpending hinner hfirst
    rw [← Ledger.run_append_singleton] at heffect hrun
    have hclose : assembly.closeBlock kind mark.source =
        (Assembly.append ((block.append (flattenAll inner)).close mark.source)
          ⟨assembly.base, outer⟩,
          unclosedFindings (.unclosedInside · mark.source) inner) := by
      simp only [closeBlock, hsplit]
    rw [hclose] at hstep ⊢
    refine h.advances hm hs hstep heffect ?_ ?_ (fun _ hn => absurd hn (Option.some_ne_none _)) ?_
    · rw [hrun]
      exact (hrest.congr fun other _ _ =>
        (or_iff_left fun he => by rw [he.1] at hk; cases hk).symm).append _
    · rw [hk]
      simp only [settled, hsplit, hstands.plain, Bool.false_eq_true, if_false]
      rw [hm, hstands.position]
      rfl
    · rw [if_neg (not_misplaced (by rw [hk]; rfl)), List.append_nil]
      refine unclosedFindings_of_forall _ (fun _ => rfl) (fun other ho => ?_) hsources
      exact hreflects.plain other (List.mem_append_left _ ho)

/-- Every piece is followed as long as no limit is reached. -/
theorem Follows.step (h : assembly.Follows seen) {piece : Piece} (hb : piece.IsBraced)
    (hnone : ∀ finding ∈ (assembly.step depth piece).2, finding.isLimit = false) :
    Advances seen (Piece.marks assembly.position [piece]) (assembly.step depth piece) := by
  have hplain (token : Token)
      (ht : (Token.roles assembly.position [token]).filterMap Role.pair? = []) :
      Advances seen [] (assembly.append [token], []) :=
    ⟨(List.append_nil seen).symm ▸ h.append token ht, by simp⟩
  cases piece with
  | text source => exact hplain _ (Grows.literal _ _).pairs
  | tag mergeTag =>
    refine hplain (.tag mergeTag) ?_
    rw [Token.roles_singleton, Token.rolesOne]
    rfl
  | marker marker source =>
    have hs : 0 < source.length := List.length_pos_of_mem hb
    have hposition : (⟨assembly.position, source, marker⟩ : Mark).position = assembly.position :=
      rfl
    cases marker with
    | opener kind condition => exact h.advances_opener hposition hs rfl hnone rfl
    | elseIf condition =>
      have hstep : assembly.step depth (.marker (.elseIf condition) source) =
        assembly.startBranch (some (Condition.parse condition)) source := rfl
      exact h.advances_startBranch hposition hs rfl
        (iff_of_false (Option.some_ne_none _) Marker.noConfusion) hstep
    | otherwise =>
      have hstep : assembly.step depth (.marker .otherwise source) =
        assembly.startBranch none source := rfl
      exact h.advances_startBranch hposition hs rfl (iff_of_true rfl rfl) hstep
    | closer kind =>
      have hstep : assembly.step depth (.marker (.closer kind) source) =
        assembly.closeBlock kind source := rfl
      exact h.advances_closeBlock hposition hs rfl hstep

/-! ## All pieces -/

/-- The effect of pieces without a budget. -/
def steps (depth : Int) (assembly : Assembly) : List Piece → Assembly × List Finding
  | [] => (assembly, [])
  | piece :: pieces =>
    let (next, noticed) := assembly.step depth piece
    let (last, findings) := next.steps depth pieces
    (last, noticed ++ findings)

/-- A run that does not reach its budget ends after all pieces. -/
theorem run_eq_steps {limit : Int} {budget : Nat} {pieces : List Piece}
    (hnone : ∀ finding ∈ (run depth limit budget assembly pieces).2, finding.isLimit = false) :
    run depth limit budget assembly pieces =
      ((assembly.steps depth pieces).1.finish.1,
        (assembly.steps depth pieces).2 ++ (assembly.steps depth pieces).1.finish.2) := by
  induction pieces generalizing assembly budget with
  | nil => rfl
  | cons piece pieces ih =>
    simp only [run, steps] at hnone ⊢
    split at hnone
    · exact Bool.noConfusion (hnone _ List.mem_cons_self)
    · rename_i hwithin
      rw [if_neg hwithin, ih fun finding hf => hnone finding (List.mem_append_right _ hf)]
      simp only [List.append_assoc]

theorem Advances.trans {middle : List Mark} {later : List Mark} {findings : List Finding}
    {last : Assembly} (h : Advances seen middle (next, noticed))
    (h' : Advances (seen ++ middle) later (last, findings)) :
    Advances seen (middle ++ later) (last, noticed ++ findings) := by
  refine ⟨List.append_assoc seen middle later ▸ h'.follows, ?_⟩
  rw [← List.append_assoc, List.map_append, ← List.append_assoc]
  exact h'.reported.trans (h.reported.append_right _)

/-- All pieces are followed as long as no limit is reached. -/
theorem Follows.steps (h : assembly.Follows seen) {pieces : List Piece}
    (hb : ∀ piece ∈ pieces, piece.IsBraced)
    (hnone : ∀ finding ∈ (assembly.steps depth pieces).2, finding.isLimit = false) :
    Advances seen (Piece.marks assembly.position pieces) (assembly.steps depth pieces) := by
  induction pieces generalizing assembly seen with
  | nil => exact ⟨(List.append_nil seen).symm ▸ h, by simp [Assembly.steps]⟩
  | cons piece pieces ih =>
    obtain ⟨hfirst, hrest⟩ := List.forall_mem_cons.1 hb
    simp only [Assembly.steps, List.forall_mem_append] at hnone ⊢
    have hstep := h.step hfirst hnone.1
    have hsteps := ih hstep.follows hrest hnone.2
    rw [position_step] at hsteps
    rw [Piece.marks_cons]
    exact hstep.trans hsteps

end

end Assembly

end FormLetter
