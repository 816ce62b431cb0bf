import FormLetter.Proofs.Form.Best
import FormLetter.Proofs.Form.Gaps

/-!
# Tags that rules fill

Rules are applied one after the other, each to what the ones before it have left. A rule fills its
tag if that is a gap and some entry suits the rule; it takes over the value of the first entry that
suits it best, so all values that rules write were there from the start.

* `RuleRun`: what rules do, one after the other.
* `RuleRun.growsTo`, `RuleRun.get?_eq`, `RuleRun.held`, `RuleRun.source`: what a run keeps, what it
  writes, and where that comes from.
* `RuleRun.mem_tags_iff`, `RuleRun.nodup_tags`: which tags are filled, each of them once.
* `fillRules_run`: all of it for the rules of a context.
-/

namespace FormLetter

open Text

/-! ## Runs -/

/-- What rules do to a context, one after the other, and the tags that they fill. -/
inductive RuleRun (weigh : Weighing) :
    List Rule → Context → Context → List RuleMatch → Prop where
  /-- No rule is left. -/
  | done (context : Context) : RuleRun weigh [] context context []
  /-- The tag of the first rule has a value, or no entry suits the rule. -/
  | skip {rule : Rule} {rules : List Rule} {context last : Context} {matched : List RuleMatch} :
    isFilled context rule.tag = true ∨
      (∀ entry ∈ context.entries, ¬ rule.IsCandidate weigh entry) →
    RuleRun weigh rules context last matched → RuleRun weigh (rule :: rules) context last matched
  /-- The tag of the first rule is a gap and takes over the value of the first best entry. -/
  | take {rule : Rule} {rules : List Rule} {context last : Context} {matched : List RuleMatch}
    {front : List (Text × Text)} {entry : Text × Text} {back : List (Text × Text)} :
    isFilled context rule.tag = false → context.entries = front ++ entry :: back →
    rule.IsFirstBest weigh front entry back →
    RuleRun weigh rules (context.insert rule.tag entry.2) last matched →
      RuleRun weigh (rule :: rules) context last (⟨rule, rule.matchOf weigh entry⟩ :: matched)

/-- The tags that were filled, in order. -/
def RuleMatch.tags (matched : List RuleMatch) : List Text := matched.map fun filled => filled.rule.tag

theorem ruleRun_fillRulesBy (weigh : Weighing) (rules : List Rule) (context : Context) :
    RuleRun weigh rules context (fillRulesBy weigh rules context).1
      (fillRulesBy weigh rules context).2 := by
  induction rules generalizing context with
  | nil => exact .done context
  | cons rule rules ih =>
    rw [fillRulesBy]
    split
    · rename_i hfilled
      exact .skip (.inl hfilled) (ih context)
    · rename_i hgap
      have hfound := rule.hasFound_bestBy? weigh context.entries
      generalize hentries : context.entries = entries at hfound ⊢
      generalize rule.bestBy? weigh entries = best at hfound ⊢
      cases hfound with
      | nothing hnone => exact .skip (.inr (hentries ▸ hnone)) (ih context)
      | entry hbest => exact .take (Bool.eq_false_iff.2 hgap) hentries hbest (ih _)

/-! ## Entries and keys -/

section

variable {context earlier later : Context} {key : Text}

theorem get?_of_entries {front back : List (Text × Text)} {entry : Text × Text}
    (h : context.entries = front ++ entry :: back) : context.get? entry.1 = some entry.2 := by
  have hnodup : (front.map (·.1) ++ entry.1 :: back.map (·.1)).Nodup := by
    simpa [h] using context.nodup
  have hapart := (List.nodup_append.1 hnodup).2.2
  refine List.lookup_eq_some_iff.2 ⟨front, back, h, fun other hmem => bne_iff_ne.2 fun heq => ?_⟩
  exact hapart other.1 (List.mem_map_of_mem hmem) entry.1 List.mem_cons_self heq.symm

theorem Context.GrowsTo.isFilled (h : earlier.GrowsTo later)
    (hfilled : isFilled earlier key = true) : isFilled later key = true := by
  obtain ⟨value, hvalue, hne⟩ := isFilled_iff.1 hfilled
  exact isFilled_iff.2 ⟨value, h.kept key value hvalue hne, hne⟩

theorem mem_keys_of_isFilled (h : isFilled context key = true) : key ∈ context.keys := by
  by_contra hmem
  exact Bool.false_ne_true ((isFilled_of_notMem hmem).symm.trans h)

theorem isFilled_insert {value : Text} (hne : value ≠ []) :
    isFilled (context.insert key value) key = true :=
  isFilled_iff.2 ⟨value, by rw [OrderedMap.get?_insert, if_pos rfl], hne⟩

end

/-! ## What a run does -/

namespace RuleRun

variable {weigh : Weighing} {rules : List Rule} {context last : Context}
  {matched : List RuleMatch} {filled : RuleMatch} {key : Text}

/-- No key moves, and no value that is not empty changes. -/
theorem growsTo (h : RuleRun weigh rules context last matched) : context.GrowsTo last := by
  induction h with
  | done context => exact .refl context
  | skip _ _ ih => exact ih
  | take hgap _ _ _ ih => exact (Context.GrowsTo.insert hgap _).trans ih

/-- A key that is no filled tag does not change. -/
theorem get?_eq (h : RuleRun weigh rules context last matched)
    (hkey : key ∉ RuleMatch.tags matched) : last.get? key = context.get? key := by
  induction h with
  | done context => rfl
  | skip _ _ ih => exact ih hkey
  | take _ _ _ _ ih =>
    obtain ⟨hne, hrest⟩ := not_or.1 (mt List.mem_cons.2 hkey)
    rw [ih hrest, OrderedMap.get?_insert, if_neg hne]

/-- A filled tag holds the value that it took over, which is not empty. -/
theorem held (h : RuleRun weigh rules context last matched) (hmem : filled ∈ matched) :
    last.get? filled.rule.tag = some filled.found.value ∧ filled.found.value ≠ [] := by
  induction h with
  | done => exact absurd hmem List.not_mem_nil
  | skip _ _ ih => exact ih hmem
  | take _ _ hbest hrest ih =>
    rcases List.mem_cons.1 hmem with rfl | hmem
    · have hne := hbest.candidate.1
      exact ⟨hrest.growsTo.kept _ _ (by rw [OrderedMap.get?_insert, if_pos rfl]; rfl) hne, hne⟩
    · exact ih hmem

/-- A filled tag was a gap at the start. -/
theorem gap (h : RuleRun weigh rules context last matched) (hmem : filled ∈ matched) :
    isFilled context filled.rule.tag = false := by
  induction h with
  | done => exact absurd hmem List.not_mem_nil
  | skip _ _ ih => exact ih hmem
  | take hgap _ _ _ ih =>
    rcases List.mem_cons.1 hmem with rfl | hmem
    · exact hgap
    · refine Bool.eq_false_iff.2 fun hfilled => ?_
      exact Bool.false_ne_true ((ih hmem).symm.trans
        ((Context.GrowsTo.insert hgap _).isFilled hfilled))

/-- The value of a filled tag was held by some key at the start. -/
theorem source (h : RuleRun weigh rules context last matched) (hmem : filled ∈ matched) :
    ∃ key, context.get? key = some filled.found.value := by
  induction h with
  | done => exact absurd hmem List.not_mem_nil
  | skip _ _ ih => exact ih hmem
  | @take rule rules context last matched front entry back _ hentries _ _ ih =>
    have hentry : context.get? entry.1 = some entry.2 := get?_of_entries hentries
    rcases List.mem_cons.1 hmem with rfl | hmem
    · exact ⟨entry.1, hentry⟩
    · -- What the rest of the run finds under the new tag stood under the key of the entry.
      obtain ⟨key, hkey⟩ := ih hmem
      rw [OrderedMap.get?_insert] at hkey
      split at hkey
      · exact ⟨entry.1, hentry.trans hkey⟩
      · exact ⟨key, hkey⟩

/-- No tag is filled twice. -/
theorem nodup_tags (h : RuleRun weigh rules context last matched) :
    (RuleMatch.tags matched).Nodup := by
  induction h with
  | done => exact List.nodup_nil
  | skip _ _ ih => exact ih
  | take _ _ hbest hrest ih =>
    refine List.nodup_cons.2 ⟨fun hmem => ?_, ih⟩
    obtain ⟨filled, hfilled, htag⟩ := List.mem_map.1 hmem
    have hgap := hrest.gap hfilled
    rw [htag] at hgap
    exact Bool.false_ne_true (hgap.symm.trans (isFilled_insert hbest.candidate.1))

/-- The filled tags are the gaps that have a value in the end. -/
theorem mem_tags_iff (h : RuleRun weigh rules context last matched) :
    key ∈ RuleMatch.tags matched ↔ isFilled context key = false ∧ isFilled last key = true := by
  constructor
  · intro hmem
    obtain ⟨filled, hfilled, rfl⟩ := List.mem_map.1 hmem
    obtain ⟨hheld, hne⟩ := h.held hfilled
    exact ⟨h.gap hfilled, isFilled_iff.2 ⟨_, hheld, hne⟩⟩
  · rintro ⟨hgap, hfilled⟩
    by_contra hmem
    unfold isFilled at hgap hfilled
    rw [h.get?_eq hmem, hgap] at hfilled
    exact Bool.false_ne_true hfilled

/-- There are as many filled tags as keys that were a gap and have a value in the end. -/
theorem length_eq (h : RuleRun weigh rules context last matched) :
    matched.length =
      last.keys.countP fun key => !isFilled context key && isFilled last key := by
  have hperm : (RuleMatch.tags matched).Perm
      (last.keys.filter fun key => !isFilled context key && isFilled last key) := by
    refine (List.perm_ext_iff_of_nodup h.nodup_tags (last.nodup.filter _)).2 fun key => ?_
    rw [h.mem_tags_iff, List.mem_filter, Bool.and_eq_true, Bool.not_eq_true']
    exact ⟨fun hkey => ⟨mem_keys_of_isFilled hkey.2, hkey⟩, fun hkey => hkey.2⟩
  rw [List.countP_eq_length_filter, ← hperm.length_eq, RuleMatch.tags, List.length_map]

end RuleRun

/-- **Rules copy values.** Rules are applied in order. Each fills its tag exactly if that holds no
value at its turn and some entry with a value has a positive score, and then with the value of the
first entry of the highest score. The filled tags are the gaps that have a value in the end, each
listed once. No other key changes and no key moves. Every value that is written is not empty and was
held by some key before the first rule. -/
theorem fillRules_run (rules : List Rule) (context : Context) :
    let last := (fillRules rules context).1
    let matched := (fillRules rules context).2
    RuleRun .rounded rules context last matched ∧
      (∀ key, key ∈ RuleMatch.tags matched ↔
        isFilled context key = false ∧ isFilled last key = true) ∧
      matched.length = last.keys.countP (fun key => !isFilled context key && isFilled last key) ∧
      (∀ key, key ∉ RuleMatch.tags matched → last.get? key = context.get? key) ∧
      context.keys <+: last.keys ∧
      ∀ filled ∈ matched, last.get? filled.rule.tag = some filled.found.value ∧
        filled.found.value ≠ [] ∧ ∃ key, context.get? key = some filled.found.value := by
  intro last matched
  have h : RuleRun .rounded rules context last matched := ruleRun_fillRulesBy _ rules context
  refine ⟨h, fun key => h.mem_tags_iff, h.length_eq, fun key => h.get?_eq, h.growsTo.keys, ?_⟩
  intro filled hfilled
  obtain ⟨hheld, hne⟩ := h.held hfilled
  exact ⟨hheld, hne, h.source hfilled⟩

/-- Two keys suit the first rule equally well, the second rule takes over what the first has filled,
and the tag of the third has a value. -/
theorem fillRules_run_parties :
    let context : Context := .ofList [("Party".toList, []), ("Client Name".toList, "Bo".toList),
      ("Trading Name".toList, "Acme".toList)]
    let rules : List Rule := [{ tag := "Party".toList, keywords := ["name".toList] },
      { tag := "Signed".toList, keywords := ["party".toList, "trading".toList],
        excluded := ["name".toList] },
      { tag := "Trading Name".toList, keywords := ["client".toList] }]
    let last := (fillRules rules context).1
    let matched := (fillRules rules context).2
    RuleMatch.tags matched = ["Party".toList, "Signed".toList] ∧ matched.length = 2 ∧
      last.get? "Signed".toList = some "Bo".toList ∧
      last.get? "Trading Name".toList = context.get? "Trading Name".toList ∧
      ∃ key, context.get? key = some "Bo".toList := by
  intro context rules last matched
  obtain ⟨-, -, hlength, hother, -, hmatched⟩ := fillRules_run rules context
  have htags : RuleMatch.tags matched = ["Party".toList, "Signed".toList] := by decide +kernel
  obtain ⟨second, hmem, htag, hvalue⟩ : ∃ second ∈ matched,
      second.rule.tag = "Signed".toList ∧ second.found.value = "Bo".toList := by decide +kernel
  obtain ⟨hheld, -, hsource⟩ := hmatched second hmem
  rw [htag, hvalue] at hheld
  rw [hvalue] at hsource
  refine ⟨htags, hlength.trans (by decide +kernel), hheld, hother _ ?_, hsource⟩
  show "Trading Name".toList ∉ RuleMatch.tags matched
  rw [htags]
  decide

end FormLetter
