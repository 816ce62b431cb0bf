import FormLetter.Proofs.Template.Following
import FormLetter.Proofs.Template.Reduction

/-!
# The blocks of a template

Within its limits a template has exactly the blocks that its markers mean, and it reports exactly
the markers that stay text although they should not.

* `Template.pairs`: the blocks of the template of a text.
* `Template.WithinLimits`: neither limit is reported.
* `Template.exists_follows`: pairing the markers of a text follows them to the end.
* `Template.isPairing_parse`: the blocks are what the markers mean.
* `Template.length_blockFindings`: every marker without a block is reported once.
-/

namespace FormLetter

namespace Template

/-- The blocks of the template of a text. -/
def pairs (limits : Limits) (text : Text) : List BlockPair := Token.pairs (parse limits text).tokens

/-- What is noticed while the block markers of a text are paired. -/
def blockFindings (limits : Limits) (text : Text) : List Finding :=
  (Assembly.run limits.depth (budget limits text) (budget limits text).toNat .start
    (lex text).pieces).2

/-- Tags are noticed first, then markers. -/
theorem findings_parse (limits : Limits) (text : Text) :
    (parse limits text).findings = (lex text).findings ++ blockFindings limits text := rfl

/-- Neither the nesting limit nor the budget of markers is reported. -/
def WithinLimits (limits : Limits) (text : Text) : Prop :=
  ∀ finding ∈ (parse limits text).findings, finding.isLimit = false

instance (limits : Limits) (text : Text) : Decidable (WithinLimits limits text) :=
  List.decidableBAll _ _

section

variable {limits : Limits} {text : Text}

theorem sorted_marks (text : Text) :
    (marks text).Pairwise fun a b => a.position < b.position :=
  Piece.marks_sorted (isBraced_lex text)

/-- Within the limits all marks are followed to the end, and all that stay text are reported. -/
theorem exists_follows (h : WithinLimits limits text) :
    ∃ last : Assembly, last.Follows (marks text) ∧ (parse limits text).tokens = last.finish.1 ∧
      ((blockFindings limits text).map Finding.marker?).Perm
        ((reported (marks text) ++ (Ledger.run (marks text)).pending).map
          fun mark => some mark.source) := by
  have hnone : ∀ finding ∈ blockFindings limits text, finding.isLimit = false :=
    fun finding hf => h finding (findings_parse limits text ▸ List.mem_append_right _ hf)
  have hrun := Assembly.run_eq_steps hnone
  obtain ⟨hfollows, hreported⟩ := Assembly.follows_start.steps (isBraced_lex text)
    fun finding hf => hnone finding (by rw [blockFindings, hrun]; exact List.mem_append_left _ hf)
  generalize Assembly.steps limits.depth .start (lex text).pieces = result at *
  obtain ⟨last, noticed⟩ := result
  have hunclosed := Assembly.unclosedFindings_of_forall .unclosed (fun _ => rfl)
    hfollows.stack.plain hfollows.stack.sources
  refine ⟨last, hfollows, by rw [parse, hrun], ?_⟩
  rw [blockFindings, hrun, List.map_append, Assembly.finish, hunclosed, List.map_append]
  exact (hreported.symm).append ((List.reverse_perm _).map _)

/-- Within the limits the blocks are the pairs of the ledger. -/
theorem pairs_eq_run (h : WithinLimits limits text) :
    pairs limits text = (Ledger.run (marks text)).pairs := by
  obtain ⟨last, hfollows, htokens, -⟩ := exists_follows h
  rw [pairs, Token.pairs, htokens, last.grows_finish.pairs, hfollows.pairs]

/-- Within the limits a mark that closes nothing is copied. -/
theorem copied_of_unopened (h : WithinLimits limits text) {mark : Mark} (hm : mark ∈ marks text)
    (hu : mark.Unopened (pairs limits text)) :
    ∀ index < mark.source.length,
      (mark.position + index, Role.copied) ∈ Token.roles 0 (parse limits text).tokens := by
  obtain ⟨last, hfollows, htokens, -⟩ := exists_follows h
  rw [pairs_eq_run h] at hu
  intro index hi
  rw [htokens]
  exact last.grows_finish.sublist.subset (hfollows.copied mark hm hu.1 hu.2 index hi)

theorem isPairing_pairs (h : WithinLimits limits text) :
    IsPairing (marks text) (pairs limits text) :=
  pairs_eq_run h ▸ (Ledger.sound_run (sorted_marks text)).isPairing

theorem nodup_pairs (h : WithinLimits limits text) : (pairs limits text).Nodup :=
  pairs_eq_run h ▸ (Ledger.sound_run (sorted_marks text)).nodup_pairs

/-- Where all markers are of one kind, every reduction finds the blocks. -/
theorem perm_pairs_of_reduces (h : WithinLimits limits text) {kind : BlockKind}
    (hk : ∀ mark ∈ marks text, ∀ other, mark.marker.kind? = some other → other = kind)
    {reduced : List BlockPair} (hr : Reduces ((marks text).filter Mark.isBracket) reduced) :
    reduced.Perm (pairs limits text) := by
  have hall : ∀ mark ∈ (marks text).filter Mark.isBracket, mark.marker.kind? = some kind := by
    intro mark hm
    obtain ⟨hmark, hbracket⟩ := List.mem_filter.1 hm
    obtain ⟨other, ho⟩ := Option.isSome_iff_exists.1 hbracket
    rw [ho, hk mark hmark other ho]
  rw [pairs_eq_run h, ← Ledger.run_filter_isBracket]
  exact hr.perm_pairs_run hall

/-- **The blocks of a text are what its markers mean.** Whenever no limit is reported, a closing
marker closes the block that starts at the last opening marker of its kind that is still open there,
and where there is none the closing marker is copied. So blocks never cross, and if all markers are
of one kind, taking out neighbours in any order finds the same blocks. -/
theorem isPairing_parse (hd : 1 ≤ limits.depth) (hl : WithinLimits limits text) :
    isRefused limits text = false ∧
      IsPairing (marks text) (pairs limits text) ∧ (pairs limits text).Nodup ∧
      (∀ last ∈ marks text, ∀ kind, last.marker.closes? = some kind →
        (∀ first, ¬ LastOpen (marks text) (pairs limits text) last.position kind first) →
        ∀ index < last.source.length,
          (last.position + index, Role.copied) ∈ Token.roles 0 (parse limits text).tokens) ∧
      (∀ pair ∈ pairs limits text, ∀ other ∈ pairs limits text,
        ¬ (pair.opener < other.opener ∧ other.opener < pair.closer ∧
          pair.closer < other.closer)) ∧
      ∀ kind, (∀ mark ∈ marks text, ∀ other, mark.marker.kind? = some other → other = kind) →
        (∃ reduced, Reduces ((marks text).filter Mark.isBracket) reduced) ∧
        ∀ reduced, Reduces ((marks text).filter Mark.isBracket) reduced →
          reduced.Perm (pairs limits text) := by
  have hpairing := isPairing_pairs hl
  refine ⟨isRefused_of_one_le hd text, hpairing, nodup_pairs hl, ?_, ?_, ?_⟩
  · intro last hlast kind hk hnone
    exact copied_of_unopened hl hlast (hpairing.unopened hlast hk hnone)
  · exact fun pair hp other ho => hpairing.not_cross hp ho
  · exact fun kind hk => ⟨exists_reduces _, fun reduced hr => perm_pairs_of_reduces hl hk hr⟩

/-- A block that is skipped when the block around it closes, whose own closing marker then finds
none that is open. -/
theorem isPairing_parse_skipped :
    let text := "{if $A}{listif $B}{/if}{/listif}".toList
    1 ≤ (⟨64, none⟩ : Limits).depth ∧ WithinLimits ⟨64, none⟩ text ∧
      pairs ⟨64, none⟩ text = [⟨.ifBlock, 0, 18⟩] ∧
      ∀ index < 9, (23 + index, Role.copied) ∈ Token.roles 0 (parse ⟨64, none⟩ text).tokens := by
  intro text
  have hl : WithinLimits ⟨64, none⟩ text := by decide +kernel
  have hpairs : pairs ⟨64, none⟩ text = [⟨.ifBlock, 0, 18⟩] := by decide +kernel
  obtain ⟨-, -, -, hcopied, -⟩ := isPairing_parse (by decide) hl
  refine ⟨by decide, hl, hpairs, ?_⟩
  have hlast : (⟨23, "{/listif}".toList, .closer .listIf⟩ : Mark) ∈ marks text := by decide +kernel
  refine hcopied _ hlast .listIf rfl fun first hfirst => ?_
  have hnone : ∀ mark ∈ marks text,
      ¬ LastOpen (marks text) (pairs ⟨64, none⟩ text) 23 .listIf mark := by decide +kernel
  exact hnone first hfirst.1 hfirst

/-! ## Reports -/

theorem kind_of_mem_blockFindings {finding : Finding} (hf : finding ∈ blockFindings limits text) :
    finding.kind = .structuralError :=
  Finding.kind_of_marker? (Assembly.isSome_marker?_run _ _ _ _ _ finding hf)

/-- The marks that stay text although they should not are reported, each once. -/
theorem perm_blockFindings (h : WithinLimits limits text) :
    ((blockFindings limits text).map Finding.marker?).Perm
      (((marks text).filter (fun mark => mark.Unpaired (pairs limits text)) ++
        (marks text).filter fun mark => mark.Misplaced (marks text) (pairs limits text)).map
          fun mark => some mark.source) := by
  obtain ⟨-, -, -, hperm⟩ := exists_follows h
  have hunpaired := (Ledger.sound_run (sorted_marks text)).perm_unpaired (sorted_marks text)
  rw [pairs_eq_run h]
  refine hperm.trans (List.Perm.map _ ?_)
  rw [reported, List.append_assoc]
  exact (List.perm_append_comm.append_left _).trans
    (List.append_assoc _ _ _ ▸ hunpaired.append_right _)

theorem countP_unpaired (pairs : List BlockPair) (marks : List Mark) :
    marks.countP (fun mark => mark.Unpaired pairs) =
      marks.countP (fun mark => mark.Unclosed pairs) +
        marks.countP fun mark => mark.Unopened pairs := by
  induction marks with
  | nil => rfl
  | cons mark marks ih =>
    have hboth : ¬ (mark.Unclosed pairs ∧ mark.Unopened pairs) := by
      rintro ⟨⟨ho, -⟩, hc, -⟩
      obtain ⟨kind, hk⟩ := Option.isSome_iff_exists.1 hc
      rw [opens?_eq_none_of_closes? hk] at ho
      cases ho
    have hor : mark.Unpaired pairs ↔ mark.Unclosed pairs ∨ mark.Unopened pairs := Iff.rfl
    simp only [List.countP_cons, ih, decide_eq_true_eq, hor]
    by_cases ho : mark.Unclosed pairs
    · have hc : ¬ mark.Unopened pairs := fun hc => hboth ⟨ho, hc⟩
      simp only [ho, hc, true_or, if_true, if_false]
      omega
    · simp only [ho, false_or, if_false]
      omega

/-- Whatever the limits, every marker that opens or closes a block belongs to exactly one if nothing
is wrong. -/
theorem countP_eq_one_of_forall_kind_ne
    (h : ∀ finding ∈ (parse limits text).findings, finding.kind ≠ .structuralError) :
    ∀ mark ∈ marks text, mark.isBracket = true →
      (pairs limits text).countP
        (fun pair => pair.opener = mark.position ∨ pair.closer = mark.position) = 1 := by
  have hl : WithinLimits limits text := fun finding hf =>
    Bool.not_eq_true _ ▸ fun hlimit => h finding hf (Finding.kind_of_isLimit hlimit)
  have hnone : blockFindings limits text = [] := List.eq_nil_iff_forall_not_mem.2 fun finding hf =>
    h finding (findings_parse limits text ▸ List.mem_append_right _ hf)
      (kind_of_mem_blockFindings hf)
  have hperm := perm_blockFindings hl
  rw [hnone, List.map_nil, List.nil_perm, List.map_eq_nil_iff, List.append_eq_nil_iff,
    List.filter_eq_nil_iff] at hperm
  intro mark hm hbracket
  have hu : ¬ mark.Unpaired (pairs limits text) := fun hu => hperm.1 mark hm (decide_eq_true hu)
  exact (isPairing_pairs hl).countP_eq_one (nodup_pairs hl) (sorted_marks text)
    (Mark.isBracket_iff.1 hbracket) hu

/-- **Every marker that stays text is reported once.** Whenever no limit is reported, pairing the
markers of a text reports as many structural errors as there are opening markers that open no block,
closing markers that close none, and alternatives that no block takes, and the reports name exactly
these. Whatever the limits, if a text is read without a structural error, every marker that opens or
closes a block belongs to exactly one. -/
theorem length_blockFindings (hd : 1 ≤ limits.depth) (text : Text) :
    isRefused limits text = false ∧
      (parse limits text).findings = (lex text).findings ++ blockFindings limits text ∧
      (WithinLimits limits text →
        (∀ finding ∈ blockFindings limits text, finding.kind = .structuralError) ∧
        (blockFindings limits text).length =
          (marks text).countP (fun mark => mark.Unclosed (pairs limits text)) +
            (marks text).countP (fun mark => mark.Unopened (pairs limits text)) +
              (marks text).countP
                (fun mark => mark.Misplaced (marks text) (pairs limits text)) ∧
        ((blockFindings limits text).map Finding.marker?).Perm
          (((marks text).filter (fun mark => mark.Unpaired (pairs limits text)) ++
            (marks text).filter fun mark => mark.Misplaced (marks text) (pairs limits text)).map
              fun mark => some mark.source)) ∧
      ((∀ finding ∈ (parse limits text).findings, finding.kind ≠ .structuralError) →
        ∀ mark ∈ marks text, mark.isBracket = true →
          (pairs limits text).countP
            (fun pair => pair.opener = mark.position ∨ pair.closer = mark.position) = 1) := by
  refine ⟨isRefused_of_one_le hd text, rfl,
    fun hl => ⟨fun _ => kind_of_mem_blockFindings, ?_, perm_blockFindings hl⟩,
    countP_eq_one_of_forall_kind_ne⟩
  have hlength := (perm_blockFindings hl).length_eq
  rwa [List.length_map, List.length_map, List.length_append, ← List.countP_eq_length_filter,
    ← List.countP_eq_length_filter, countP_unpaired] at hlength

end

/-- Two alternatives, two opening markers and a closing one that stay text, and a clean text. -/
theorem length_blockFindings_stray :
    let text := "{else}{if $A}{listif $B}{/if}{if $C}{else}{else}{/listif}".toList
    let clean := "{if $A}{listif $B}x{/listif}{else}y{/if}".toList
    1 ≤ (⟨64, none⟩ : Limits).depth ∧ WithinLimits ⟨64, none⟩ text ∧
      (blockFindings ⟨64, none⟩ text).length = 5 ∧
      (∀ finding ∈ (parse ⟨64, some 5⟩ clean).findings, finding.kind ≠ .structuralError) ∧
      ∀ mark ∈ marks clean, mark.isBracket = true → (pairs ⟨64, some 5⟩ clean).countP
        (fun pair => pair.opener = mark.position ∨ pair.closer = mark.position) = 1 := by
  intro text clean
  have hl : WithinLimits ⟨64, none⟩ text := by decide +kernel
  have hclean : ∀ finding ∈ (parse ⟨64, some 5⟩ clean).findings,
      finding.kind ≠ .structuralError := by decide +kernel
  have hlength := ((length_blockFindings (by decide) text).2.2.1 hl).2.1
  refine ⟨by decide, hl, hlength.trans (by decide +kernel), hclean, ?_⟩
  exact (length_blockFindings (by decide) clean).2.2.2 hclean

end Template

end FormLetter
