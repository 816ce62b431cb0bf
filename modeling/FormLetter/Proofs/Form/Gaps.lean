import FormLetter.Proofs.Form.Writes
import Mathlib.Data.List.Induction

/-!
# Only gaps are filled

While a context is filled, no value that is not empty changes and no key moves. What a key holds
before the rules is the first value that is not empty of those offered for it.

* `Context.GrowsTo`: what a later state of a context keeps of an earlier one.
* `Write.growsTo`, `growsTo_applyAll`: one write, and several.
* `firstFilled`, `get?_applyAll_offers`: the first value that is not empty.
* `fillContext_fills_gaps`: both for the context of a submission.
-/

namespace FormLetter

open Text

/-! ## Growing contexts -/

/-- What a later state of a context keeps of an earlier one. -/
structure Context.GrowsTo (earlier later : Context) : Prop where
  /-- The keys stay in place, and new ones come behind them. -/
  keys : earlier.keys <+: later.keys
  /-- A value that is not empty is kept. -/
  kept : ∀ key value, earlier.get? key = some value → value ≠ [] → later.get? key = some value

section

variable {length : Int} {context earlier later last : Context} {key value : Text}

theorem Context.GrowsTo.refl (context : Context) : context.GrowsTo context :=
  ⟨List.prefix_rfl, fun _ _ h _ => h⟩

theorem Context.GrowsTo.trans (h : earlier.GrowsTo later) (h' : later.GrowsTo last) :
    earlier.GrowsTo last :=
  ⟨h.keys.trans h'.keys, fun key value hvalue hne =>
    h'.kept key value (h.kept key value hvalue hne) hne⟩

theorem isFilled_iff :
    isFilled context key = true ↔ ∃ value, context.get? key = some value ∧ value ≠ [] := by
  unfold isFilled
  rw [Option.any_eq_true]
  simp

theorem isFilled_of_notMem (h : key ∉ context.keys) : isFilled context key = false := by
  rw [isFilled, OrderedMap.get?_eq_none_iff.2 h]
  rfl

/-! ## One write -/

/-- Setting a key that holds no value fills a gap. -/
theorem Context.GrowsTo.insert (h : isFilled context key = false) (value : Text) :
    Context.GrowsTo context (context.insert key value) where
  keys := by
    by_cases hmem : key ∈ context.keys
    · exact ⟨[], by rw [List.append_nil, OrderedMap.keys_insert_of_mem hmem]⟩
    · rw [OrderedMap.keys_insert_of_notMem hmem]
      exact List.prefix_append _ _
  kept := by
    intro other held hheld hne
    have hother : other ≠ key := by
      rintro rfl
      exact Bool.false_ne_true (h.symm.trans (isFilled_iff.2 ⟨held, hheld, hne⟩))
    rw [OrderedMap.get?_insert, if_neg hother, hheld]

/-- A write leaves a context alone or sets its key; only an assignment sets a key that holds a
value. -/
theorem Write.apply_eq (write : Write) (length : Int) (context : Context) :
    write.apply length context = context ∨
      (write.isAssignment = true ∨ isFilled context write.key = false) ∧
        ∃ value, write.apply length context = context.insert write.key value := by
  cases write with
  | assign tag value =>
    rw [Write.apply]
    split
    · exact Or.inl rfl
    · exact Or.inr ⟨Or.inl rfl, value, rfl⟩
  | offer key value =>
    rw [Write.apply, fill]
    split
    · exact Or.inl rfl
    · rename_i h
      refine Or.inr ⟨Or.inr (Bool.eq_false_iff.2 fun hfilled => h ?_), value, rfl⟩
      exact Bool.or_eq_true_iff.2 (Or.inr hfilled)
  | suit rule =>
    rw [Write.apply]
    split
    · exact Or.inl rfl
    · rename_i hgap
      split
      · exact Or.inl rfl
      · exact Or.inr ⟨Or.inr (Bool.eq_false_iff.2 hgap), _, rfl⟩
  | abbreviate tag source =>
    rw [Write.apply]
    split
    · exact Or.inl rfl
    · rename_i hgap
      split
      · exact Or.inl rfl
      · exact Or.inr ⟨Or.inr (Bool.eq_false_iff.2 hgap), _, rfl⟩

/-- A write fills a gap, as long as it does not set a key that is present without regard to what
the key holds. -/
theorem Write.growsTo (write : Write)
    (h : write.isAssignment = true → write.key ∉ context.keys) :
    context.GrowsTo (write.apply length context) := by
  rcases write.apply_eq length context with heq | ⟨hgap, value, heq⟩
  · rw [heq]
    exact .refl context
  · rw [heq]
    refine .insert ?_ value
    exact hgap.elim (fun hassign => isFilled_of_notMem (h hassign)) id

/-- A write leaves every key alone but its own. -/
theorem Write.get?_apply_of_ne (write : Write) (h : key ≠ write.key) :
    (write.apply length context).get? key = context.get? key := by
  rcases write.apply_eq length context with heq | ⟨-, value, heq⟩
  · rw [heq]
  · rw [heq, OrderedMap.get?_insert, if_neg h]

end

/-! ## Several writes -/

/-- No write stands in front of an assignment to its key. -/
def Apart (writes : List Write) : Prop :=
  writes.Pairwise fun earlier later => later.isAssignment = true → earlier.key ≠ later.key

section

variable {length : Int} {writes : List Write} {context : Context} {key : Text}

theorem mem_keys_applyAll (h : key ∈ (applyAll length writes context).keys) :
    key ∈ context.keys ∨ ∃ write ∈ writes, write.key = key := by
  induction writes generalizing context with
  | nil => exact Or.inl h
  | cons write writes ih =>
    rcases ih h with hkey | ⟨other, hmem, hother⟩
    · by_cases heq : key = write.key
      · exact Or.inr ⟨write, List.mem_cons_self, heq.symm⟩
      · refine Or.inl (by_contra fun hnot => ?_)
        rw [← OrderedMap.get?_eq_none_iff] at hnot
        rw [← write.get?_apply_of_ne heq, OrderedMap.get?_eq_none_iff] at hnot
        exact hnot hkey
    · exact Or.inr ⟨other, List.mem_cons_of_mem write hmem, hother⟩

theorem growsTo_applyAll (hapart : Apart writes)
    (h : ∀ write ∈ writes, write.isAssignment = true → write.key ∉ context.keys) :
    context.GrowsTo (applyAll length writes context) := by
  induction writes generalizing context with
  | nil => exact .refl context
  | cons write writes ih =>
    obtain ⟨hwrite, hapart⟩ := List.pairwise_cons.1 hapart
    refine (write.growsTo (h write List.mem_cons_self)).trans (ih hapart ?_)
    intro other hmem hother hkey
    rcases @mem_keys_applyAll length [write] context other.key hkey with hkey | ⟨found, hfound, heq⟩
    · exact h other (List.mem_cons_of_mem write hmem) hother hkey
    · rw [List.mem_singleton.1 hfound] at heq
      exact hwrite other hmem hother heq

/-- What was written first stays as it is while the other writes are carried out. -/
theorem growsTo_applyAll_append {front middle : List Write} (hapart : Apart (front ++ middle)) :
    (applyAll length front .empty).GrowsTo (applyAll length (front ++ middle) .empty) := by
  obtain ⟨-, hmiddle, hcross⟩ := List.pairwise_append.1 hapart
  rw [applyAll_append]
  refine growsTo_applyAll hmiddle fun write hmem hassign hkey => ?_
  rcases mem_keys_applyAll hkey with hnil | ⟨other, hother, heq⟩
  · exact List.not_mem_nil hnil
  · exact hcross other hother write hmem hassign heq

end

/-! ## The first value -/

/-- The first value that is not empty, or the empty value. -/
def firstFilled (values : List Text) : Text := (values.find? fun value => !value.isEmpty).getD []

/-- The values that writes offer for a key, in order. -/
def valuesFor (key : Text) (writes : List Write) : List Text :=
  (writes.filter fun write => write.key = key).filterMap Write.offered?

/-- Whether a write makes its key present: an assignment of a value that is not empty, or an offer
for a key that is not empty. -/
def Write.isEffective : Write → Bool
  | .assign _ value => !value.isEmpty
  | .offer key _ => !key.isEmpty
  | .suit _ => false
  | .abbreviate _ _ => false

/-- Whether some write makes a key present. -/
def isOffered (key : Text) (writes : List Write) : Bool :=
  writes.any fun write => write.key = key && write.isEffective

section

variable {length : Int} {writes : List Write} {context : Context} {key value : Text}

theorem firstFilled_eq_nil_iff {values : List Text} :
    firstFilled values = [] ↔ ∀ value ∈ values, value = [] := by
  unfold firstFilled
  constructor
  · intro h
    cases hfind : values.find? fun value => !value.isEmpty with
    | none => simpa using hfind
    | some found =>
      have hfound := List.find?_some hfind
      rw [hfind, Option.getD_some] at h
      rw [h] at hfound
      cases hfound
  · intro h
    rw [List.find?_eq_none.2 fun value hmem => by simp [h value hmem]]
    rfl

theorem firstFilled_concat (values : List Text) (value : Text) :
    firstFilled (values ++ [value]) =
      if firstFilled values = [] then value else firstFilled values := by
  unfold firstFilled
  rw [List.find?_append]
  cases hfind : values.find? fun value => !value.isEmpty with
  | none => cases value <;> rfl
  | some found =>
    have hfound : found ≠ [] := by simpa using List.find?_some hfind
    simp [hfound]

theorem get?_fill (h : key ≠ []) (value : Text) (context : Context) :
    (fill key value context).get? key =
      some (if (context.get? key).getD [] = [] then value else (context.get? key).getD []) := by
  unfold fill isFilled
  cases hheld : context.get? key with
  | none => simp [h, OrderedMap.get?_insert]
  | some held => by_cases hne : held = [] <;> simp [h, hne, hheld, OrderedMap.get?_insert]

theorem mem_valuesFor_iff :
    value ∈ valuesFor key writes ↔
      ∃ write ∈ writes, write.key = key ∧ write.offered? = some value := by
  simp only [valuesFor, List.mem_filterMap, List.mem_filter, decide_eq_true_eq, and_assoc]

theorem valuesFor_concat (writes : List Write) (write : Write) :
    valuesFor write.key (writes ++ [write]) =
      valuesFor write.key writes ++ write.offered?.toList := by
  have hwrite : [write].filter (fun other => other.key = write.key) = [write] := by simp
  unfold valuesFor
  rw [List.filter_append, List.filterMap_append, hwrite]
  cases hoffered : write.offered? <;> simp [hoffered]

theorem isOffered_concat (writes : List Write) (write : Write) :
    isOffered write.key (writes ++ [write]) =
      (isOffered write.key writes || write.isEffective) := by
  simp [isOffered]

/-- What is offered for the empty key counts only if it is assigned, and then it is not empty. -/
theorem firstFilled_ne_nil (h : isOffered [] writes = true) :
    firstFilled (valuesFor [] writes) ≠ [] := by
  obtain ⟨write, hmem, hwrite⟩ := List.any_eq_true.1 h
  obtain ⟨hkey, heffective⟩ := Bool.and_eq_true_iff.1 hwrite
  have hkey : write.key = [] := of_decide_eq_true hkey
  intro hnil
  cases write with
  | assign tag value =>
    have hvalue : value ∈ valuesFor [] writes := mem_valuesFor_iff.2 ⟨_, hmem, hkey, rfl⟩
    rw [firstFilled_eq_nil_iff.1 hnil value hvalue] at heffective
    cases heffective
  | offer key value =>
    obtain rfl : key = [] := hkey
    cases heffective
  | suit rule => cases heffective
  | abbreviate tag source => cases heffective

/-- A key that is not empty and for which no write counts was offered empty values only. -/
theorem firstFilled_eq_nil (hkey : key ≠ []) (h : isOffered key writes = false) :
    firstFilled (valuesFor key writes) = [] := by
  refine firstFilled_eq_nil_iff.2 fun value hvalue => ?_
  obtain ⟨write, hmem, rfl, hoffered⟩ := mem_valuesFor_iff.1 hvalue
  have hwrite : write.isEffective = false := by
    simpa using List.any_eq_false.1 h write hmem
  cases write with
  | assign tag held =>
    cases hoffered
    simpa [Write.isEffective] using hwrite
  | offer other held =>
    have hother : other = [] := by simpa [Write.isEffective] using hwrite
    exact absurd hother hkey
  | suit rule => cases hoffered
  | abbreviate tag source => cases hoffered

/-- What a key holds once values were offered for it: the first one that is not empty. -/
def offeredValue? (key : Text) (writes : List Write) : Option Text :=
  if isOffered key writes then some (firstFilled (valuesFor key writes)) else none

theorem offeredValue?_concat (writes : List Write) (write : Write) :
    offeredValue? write.key (writes ++ [write]) =
      if isOffered write.key writes || write.isEffective then
        some (firstFilled (valuesFor write.key writes ++ write.offered?.toList))
      else none := by
  rw [offeredValue?, valuesFor_concat, isOffered_concat]

theorem offeredValue?_concat_of_ne {write : Write} (h : key ≠ write.key) (writes : List Write) :
    offeredValue? key (writes ++ [write]) = offeredValue? key writes := by
  simp [offeredValue?, isOffered, valuesFor, Ne.symm h]

/-- Before a tag is assigned, no value was offered for it. -/
theorem offeredValue?_assign (h : ∀ write ∈ writes, write.key ≠ key) (value : Text) :
    offeredValue? key (writes ++ [.assign key value]) =
      if value = [] then none else some value := by
  have hvalues : valuesFor key writes = [] := by
    refine List.eq_nil_iff_forall_not_mem.2 fun held hheld => ?_
    obtain ⟨write, hmem, heq, -⟩ := mem_valuesFor_iff.1 hheld
    exact h write hmem heq
  have hoffered : isOffered key writes = false :=
    List.any_eq_false.2 fun write hmem => by simp [h write hmem]
  refine (offeredValue?_concat writes (.assign key value)).trans ?_
  rw [Write.key, hvalues, hoffered]
  cases value <;> rfl

/-- A value that is offered counts if those before it are empty. -/
theorem offeredValue?_offer (h : key ≠ []) (value : Text) :
    offeredValue? key (writes ++ [.offer key value]) =
      some (if (offeredValue? key writes).getD [] = [] then value
        else (offeredValue? key writes).getD []) := by
  have hbefore : (offeredValue? key writes).getD [] = firstFilled (valuesFor key writes) := by
    unfold offeredValue?
    cases hoffered : isOffered key writes with
    | true => rfl
    | false => exact (firstFilled_eq_nil h hoffered).symm
  have heffective : (Write.offer key value).isEffective = true := by
    simpa [Write.isEffective] using h
  refine (offeredValue?_concat writes (.offer key value)).trans ?_
  rw [hbefore, heffective, Bool.or_true, if_pos rfl]
  exact congrArg some (firstFilled_concat _ value)

/-- A value that is offered for the empty key does not count. -/
theorem offeredValue?_offer_nil (value : Text) :
    offeredValue? [] (writes ++ [.offer [] value]) = offeredValue? [] writes := by
  refine (offeredValue?_concat writes (.offer [] value)).trans ?_
  rw [Write.key, offeredValue?]
  cases hoffered : isOffered [] writes with
  | false => rfl
  | true =>
    have hfirst := (firstFilled_concat (valuesFor [] writes) value).trans
      (if_neg (firstFilled_ne_nil hoffered))
    exact congrArg some hfirst

/-- What a context holds once values were offered: for each key the first one that is not empty. -/
theorem get?_applyAll_offers (hapart : Apart writes)
    (hoffers : ∀ write ∈ writes, write.offered?.isSome = true) (key : Text) :
    (applyAll length writes .empty).get? key = offeredValue? key writes := by
  induction writes using List.reverseRecOn with
  | nil => rfl
  | append_singleton writes write ih =>
    obtain ⟨hwrites, -, hcross⟩ := List.pairwise_append.1 hapart
    have ih := ih hwrites fun other hmem => hoffers other (List.mem_append_left _ hmem)
    have hoffer := hoffers write (List.mem_append_right _ (List.mem_singleton.2 rfl))
    rw [applyAll_append]
    show (write.apply length (applyAll length writes .empty)).get? key = _
    by_cases hkey : key = write.key
    · subst hkey
      cases write with
      | assign tag value =>
        have hfirst : ∀ other ∈ writes, other.key ≠ tag := fun other hmem =>
          hcross other hmem (.assign tag value) (List.mem_singleton.2 rfl) rfl
        have hnone : (applyAll length writes .empty).get? tag = none := by
          refine OrderedMap.get?_eq_none_iff.2 fun hmem => ?_
          rcases mem_keys_applyAll hmem with hnil | ⟨other, hother, heq⟩
          · exact List.not_mem_nil hnil
          · exact hfirst other hother heq
        rw [Write.key, offeredValue?_assign hfirst, Write.apply]
        split
        · exact hnone
        · rw [OrderedMap.get?_insert, if_pos rfl]
      | offer key value =>
        rw [Write.key] at ih ⊢
        rw [Write.apply]
        by_cases hne : key = []
        · subst hne
          rw [offeredValue?_offer_nil, ← ih]
          rfl
        · rw [get?_fill hne, offeredValue?_offer hne, ih]
      | suit rule => cases hoffer
      | abbreviate tag source => cases hoffer
    · rw [write.get?_apply_of_ne hkey, ih, offeredValue?_concat_of_ne hkey]

end

/-! ## The context of a submission -/

/-- A write that offers a value. -/
def Write.IsOffer (write : Write) : Prop := ∃ key value, write = .offer key value

section

variable {write : Write} {fields : List Field}

theorem isOffer_of_mem_offerAll {keys : List Text} {value : Text}
    (h : write ∈ offerAll keys value) : write.IsOffer := by
  obtain ⟨key, -, rfl⟩ := List.mem_map.1 h
  exact ⟨key, value, rfl⟩

theorem isOffer_of_mem_flatMap {α : Type} {items : List α} {keys : α → List Text}
    {value : α → Text}
    (h : write ∈ items.flatMap fun item => offerAll (keys item) (value item)) :
    write.IsOffer := by
  obtain ⟨item, -, hmem⟩ := List.mem_flatMap.1 h
  exact isOffer_of_mem_offerAll hmem

theorem isOffer_of_mem_systemOffers {now : Moment} {values : List (Text × Value)}
    (h : write ∈ systemOffers now values) : write.IsOffer := by
  rcases List.mem_append.1 h with h | h
  · rcases List.mem_append.1 h with h | h
    · exact isOffer_of_mem_flatMap h
    · exact isOffer_of_mem_offerAll h
  · exact isOffer_of_mem_offerAll h

theorem isOffer_of_mem_pairOffers {mixed capital : String} {value : Text}
    (h : write ∈ pairOffers mixed capital value) : write.IsOffer := by
  unfold pairOffers at h
  split at h
  · exact absurd h List.not_mem_nil
  · exact isOffer_of_mem_offerAll h

theorem isOffer_of_mem_personOffers (h : write ∈ personOffers fields) : write.IsOffer := by
  simp only [personOffers, List.mem_append] at h
  rcases h with ((h | h) | h) | h
  · exact isOffer_of_mem_pairOffers h
  · exact isOffer_of_mem_pairOffers h
  · exact isOffer_of_mem_pairOffers h
  · split at h
    · exact absurd h List.not_mem_nil
    · exact isOffer_of_mem_offerAll h

theorem mem_assignments {mapping : List (Text × Text)} (h : write ∈ assignments fields mapping) :
    ∃ entry ∈ mapping, ∃ value, write = .assign entry.1 value := by
  obtain ⟨entry, hmem, hwrite⟩ := List.mem_filterMap.1 h
  obtain ⟨field, -, rfl⟩ := Option.map_eq_some_iff.1 hwrite
  exact ⟨entry, hmem, field.flat, rfl⟩

/-- The writes before the rules are assignments and, behind them, offers. -/
theorem Submission.mem_offers {now : Moment} {submission : Submission}
    (h : write ∈ submission.offers now) :
    write ∈ assignments submission.fields submission.mapping ∨ write.IsOffer := by
  simp only [Submission.offers, List.mem_append] at h
  rcases h with ((h | h) | h) | h
  · exact Or.inl h
  · exact Or.inr (isOffer_of_mem_flatMap h)
  · exact Or.inr (isOffer_of_mem_systemOffers h)
  · exact Or.inr (isOffer_of_mem_personOffers h)

theorem Submission.isSome_offered? {now : Moment} {submission : Submission}
    (h : write ∈ submission.offers now) : write.offered?.isSome = true := by
  rcases Submission.mem_offers h with hassign | ⟨key, value, rfl⟩
  · obtain ⟨entry, -, value, rfl⟩ := mem_assignments hassign
    rfl
  · rfl

end

/-- Writes that are no assignments may follow any others. -/
theorem Apart.append {front back : List Write} (h : Apart front)
    (hback : ∀ write ∈ back, write.isAssignment = false) : Apart (front ++ back) := by
  have hassign {earlier later : Write} (hmem : later ∈ back) (h : later.isAssignment = true) :
      earlier.key ≠ later.key :=
    absurd h (Bool.eq_false_iff.1 (hback later hmem))
  refine List.pairwise_append.2 ⟨h, ?_, fun _ _ _ hmem => hassign hmem⟩
  exact List.pairwise_of_forall_mem_list fun _ _ _ hmem => hassign hmem

theorem apart_assignments (fields : List Field) (mapping : OrderedMap Text) :
    Apart (assignments fields mapping.entries) := by
  refine List.pairwise_filterMap.2 ((List.pairwise_map.1 mapping.nodup).imp ?_)
  intro entry other hne earlier hearlier later hlater _
  obtain ⟨field, -, rfl⟩ := Option.map_eq_some_iff.1 hearlier
  obtain ⟨field', -, rfl⟩ := Option.map_eq_some_iff.1 hlater
  exact hne

theorem Submission.apart_writes (rules : List Rule) (now : Moment) (fields : List Field)
    (mapping : OrderedMap Text) (system : List (Text × Value)) :
    Apart (Submission.writes rules now ⟨fields, mapping.entries, system⟩) := by
  unfold Submission.writes Submission.offers
  simp only [List.append_assoc]
  refine (apart_assignments fields mapping).append fun write hmem => ?_
  simp only [List.mem_append] at hmem
  rcases hmem with h | h | h | h | h
  · obtain ⟨key, value, rfl⟩ := isOffer_of_mem_flatMap h
    rfl
  · obtain ⟨key, value, rfl⟩ := isOffer_of_mem_systemOffers h
    rfl
  · obtain ⟨key, value, rfl⟩ := isOffer_of_mem_personOffers h
    rfl
  · obtain ⟨rule, -, rfl⟩ := List.mem_map.1 h
    rfl
  · obtain ⟨entry, -, rfl⟩ := List.mem_map.1 h
    rfl

/-- **Only gaps are filled.** The context of a submission comes of its writes, carried out one after
the other: the mapping, the fields, the system values, the person, the rules, the abbreviations.
From any point of them to any later one no key moves, new keys come last, and a key that holds a
value that is not empty keeps it. Before the rules, a key holds the first value that is not empty of
those offered for it, or the empty value if all of them are empty; a key for which no write counts
is absent. -/
theorem fillContext_fills_gaps (rules : List Rule) (length : Int) (now : Moment)
    (fields : List Field) (mapping : OrderedMap Text) (system : List (Text × Value)) :
    let submission : Submission := ⟨fields, mapping.entries, system⟩
    let state (writes : List Write) := applyAll length writes .empty
    state (submission.writes rules now) = (fillContext rules length now submission).context ∧
      (∀ front middle back, submission.writes rules now = front ++ middle ++ back →
        (state front).GrowsTo (state (front ++ middle))) ∧
      submission.offers now <+: submission.writes rules now ∧
      state (submission.offers now) =
        fillPerson fields (fillSystem now system (fillFields fields
          (fillMapping fields mapping.entries .empty).1)) ∧
      ∀ key,
        (state (submission.offers now)).get? key = offeredValue? key (submission.offers now) := by
  intro submission state
  have hapart := Submission.apart_writes rules now fields mapping system
  have hoffers : submission.offers now <+: submission.writes rules now :=
    (List.prefix_append _ _).trans (List.prefix_append _ _)
  refine ⟨applyAll_writes rules now submission, ?_, hoffers, applyAll_offers now submission, ?_⟩
  · intro front middle back hsplit
    rw [hsplit] at hapart
    exact growsTo_applyAll_append (List.pairwise_append.1 hapart).1
  · exact get?_applyAll_offers (hapart.sublist hoffers.sublist) fun write =>
      Submission.isSome_offered?

end FormLetter
