import FormLetter.Proofs.Text.Replacement
import Mathlib.Data.List.Find

/-!
# Replacing all at once

The replacements of a table are made one after the other, each over the whole text. For tables whose
entries do not get in the way of one another, a single pass from the left does the same.

* `replaceAtOnce`: each text of a table that is met from the left is replaced.
* `Independent`: no replacement makes, and no sought text overlaps, what a later entry seeks.
* `replaceEach_eq_replaceAtOnce`: the order of the replacements does not matter to such a table.
* `PrefixFree`: no sought text is the front of another, so that it decides its entry.
-/

namespace FormLetter

namespace Text

/-! ## One pass -/

/-- The first entry of a table whose sought text stands in front of a text. -/
def entryAtFront? (table : List (Text × Text)) (text : Text) : Option (Text × Text) :=
  table.find? fun entry => entry.1.isPrefixOf text

/-- The text with every sought text of a table replaced, met from the left and without overlap. -/
def replaceAtOnce (table : List (Text × Text)) (text : Text) : Text :=
  match text with
  | [] => []
  | c :: rest =>
    match entryAtFront? table (c :: rest) with
    | some entry => entry.2 ++ replaceAtOnce table (rest.drop (entry.1.length - 1))
    | none => c :: replaceAtOnce table rest
  termination_by text.length
  decreasing_by
    · simp only [List.length_drop, List.length_cons]
      omega
    · simp

variable {table : List (Text × Text)}

theorem replaceAtOnce_nil (table : List (Text × Text)) : replaceAtOnce table [] = [] := by
  rw [replaceAtOnce]

theorem replaceAtOnce_of_eq_none {c : Char} {rest : Text}
    (h : entryAtFront? table (c :: rest) = none) :
    replaceAtOnce table (c :: rest) = c :: replaceAtOnce table rest := by
  rw [replaceAtOnce, h]

theorem replaceAtOnce_of_eq_some {entry : Text × Text} (hs : entry.1 ≠ []) {tail : Text}
    (h : entryAtFront? table (entry.1 ++ tail) = some entry) :
    replaceAtOnce table (entry.1 ++ tail) = entry.2 ++ replaceAtOnce table tail := by
  obtain ⟨c, more, hcons⟩ := List.exists_cons_of_ne_nil hs
  rw [hcons, List.cons_append] at h ⊢
  rw [replaceAtOnce, h]
  simp [hcons]

theorem eq_append_of_entryAtFront? {text : Text} {entry : Text × Text}
    (h : entryAtFront? table text = some entry) : entry ∈ table ∧ ∃ tail, text = entry.1 ++ tail := by
  have hprefix : entry.1.isPrefixOf text = true :=
    List.find?_some (p := fun entry : Text × Text => entry.1.isPrefixOf text) h
  obtain ⟨tail, he⟩ := List.isPrefixOf_iff_prefix.1 hprefix
  exact ⟨List.mem_of_find?_eq_some h, tail, he.symm⟩

/-- What no sought text has a character of is left as it is. -/
theorem replaceAtOnce_append {front : Text}
    (h : ∀ entry ∈ table, entry.1 ≠ [] ∧ Apart entry.1 front) (back : Text) :
    replaceAtOnce table (front ++ back) = front ++ replaceAtOnce table back := by
  induction front with
  | nil => rfl
  | cons c front ih =>
    have hnone : entryAtFront? table (c :: (front ++ back)) = none := by
      refine List.find?_eq_none.2 fun entry he hp => ?_
      obtain ⟨d, more, hcons⟩ := List.exists_cons_of_ne_nil (h entry he).1
      rw [List.isPrefixOf_iff_prefix, hcons] at hp
      obtain ⟨rfl, -⟩ := List.cons_prefix_cons.1 hp
      exact (h entry he).2 d (hcons ▸ List.mem_cons_self) List.mem_cons_self
    rw [List.cons_append, replaceAtOnce_of_eq_none hnone, ih fun entry he =>
      ⟨(h entry he).1, fun d hd hm => (h entry he).2 d hd (List.mem_cons_of_mem _ hm)⟩]
    rfl

theorem replaceAtOnce_empty (text : Text) : replaceAtOnce [] text = text := by
  induction text with
  | nil => exact replaceAtOnce_nil []
  | cons c rest ih => rw [replaceAtOnce_of_eq_none rfl, ih]

/-! ## Independent entries -/

/-- Whether no text of a table is empty, no replacement has a character of what a later entry seeks,
and what an entry seeks does not start inside what a later one seeks. -/
def Independent (table : List (Text × Text)) : Prop :=
  (∀ entry ∈ table, entry.1 ≠ [] ∧ entry.2 ≠ []) ∧
    table.Pairwise fun entry later =>
      Apart later.1 entry.2 ∧ ∀ c ∈ entry.1.head?, c ∉ later.1.tail

instance (table : List (Text × Text)) : Decidable (Independent table) :=
  haveI (entry later : Text × Text) : Decidable (∀ c ∈ entry.1.head?, c ∉ later.1.tail) :=
    Option.decidableForallMem _
  inferInstanceAs (Decidable (_ ∧ _))

/-- A text that does not hold the first character sought is passed over. -/
theorem replaceAll_append_of_notMem {sought : Text} (hs : sought ≠ []) {front : Text}
    (hf : ∀ c ∈ sought.head?, c ∉ front) (new text : Text) :
    replaceAll sought new (front ++ text) = front ++ replaceAll sought new text := by
  induction front with
  | nil => rfl
  | cons c front ih =>
    rw [List.cons_append, replaceAll_cons_of_not_isPrefix hs,
      ih fun d hd hm => hf d hd (List.mem_cons_of_mem _ hm)]
    · rfl
    · intro h
      obtain ⟨d, more, rfl⟩ := List.exists_cons_of_ne_nil hs
      obtain ⟨rfl, -⟩ := List.cons_prefix_cons.1 h
      exact hf d rfl List.mem_cons_self

/-- A replacement that is kept away from a table first finds the same entry in front. -/
theorem entryAtFront?_replaceAll {sought new : Text} (hs : sought ≠ []) (hn : new ≠ [])
    (h : ∀ entry ∈ table, entry.1 ≠ [] ∧ Apart entry.1 new ∧
      ∀ c ∈ sought.head?, c ∉ entry.1.tail) (c : Char) (rest : Text) :
    entryAtFront? table (c :: replaceAll sought new rest) = entryAtFront? table (c :: rest) := by
  refine List.find?_congr fun entry he => ?_
  obtain ⟨hne, hnew, htail⟩ := h entry he
  obtain ⟨d, more, hcons⟩ := List.exists_cons_of_ne_nil hne
  rw [Bool.eq_iff_iff, List.isPrefixOf_iff_prefix, List.isPrefixOf_iff_prefix, hcons,
    List.cons_prefix_cons, List.cons_prefix_cons]
  refine and_congr_right fun _ => ⟨?_, ?_⟩
  · refine prefix_of_prefix_replaceAll hs hn (fun x hx => ?_) rest
    exact hnew x (hcons ▸ List.mem_cons_of_mem _ hx)
  · rintro ⟨tail, rfl⟩
    rw [hcons, List.tail_cons] at htail
    rw [replaceAll_append_of_notMem hs htail]
    exact List.prefix_append _ _

/-- One pass over a text does what a first replacement and one pass for the others do. -/
theorem replaceAtOnce_cons {entry : Text × Text} (h : Independent (entry :: table)) (text : Text) :
    replaceAtOnce (entry :: table) text =
      replaceAtOnce table (replaceAll entry.1 entry.2 text) := by
  obtain ⟨hne, hpair⟩ := h
  obtain ⟨⟨hs, hn⟩, hrest⟩ := List.forall_mem_cons.1 hne
  obtain ⟨hlater, -⟩ := List.pairwise_cons.1 hpair
  have hapart (other) (ho : other ∈ table) : other.1 ≠ [] ∧ Apart other.1 entry.2 :=
    ⟨(hrest other ho).1, (hlater other ho).1⟩
  induction hlen : text.length using Nat.strongRecOn generalizing text with
  | _ n ih =>
    subst hlen
    by_cases hp : entry.1 <+: text
    · obtain ⟨tail, rfl⟩ := hp
      have hpos := List.length_pos_iff.2 hs
      have hfound : entryAtFront? (entry :: table) (entry.1 ++ tail) = some entry :=
        List.find?_cons_of_pos (List.isPrefixOf_iff_prefix.2 (List.prefix_append _ _))
      rw [replaceAtOnce_of_eq_some hs hfound, replaceAll_append_self hs,
        replaceAtOnce_append hapart, ih _ (by rw [List.length_append]; omega) tail rfl]
    · cases text with
      | nil => rw [replaceAll_nil, replaceAtOnce_nil, replaceAtOnce_nil]
      | cons c rest =>
        have hskip : entryAtFront? (entry :: table) (c :: rest) = entryAtFront? table (c :: rest) :=
          List.find?_cons_of_neg fun h => hp (List.isPrefixOf_iff_prefix.1 h)
        have hsame := entryAtFront?_replaceAll hs hn (fun other ho =>
          ⟨(hapart other ho).1, hlater other ho⟩) c rest
        rw [replaceAll_cons_of_not_isPrefix hs hp]
        cases hfound : entryAtFront? table (c :: rest) with
        | none =>
          rw [hfound] at hskip hsame
          rw [replaceAtOnce_of_eq_none hskip, replaceAtOnce_of_eq_none hsame,
            ih _ (by simp) rest rfl]
        | some other =>
          -- The entry that is found ends behind the character, in text that is passed over.
          obtain ⟨hmem, tail, he⟩ := eq_append_of_entryAtFront? hfound
          have ho := (hapart other hmem).1
          obtain ⟨d, more, hcons⟩ := List.exists_cons_of_ne_nil ho
          have hcut : c :: replaceAll entry.1 entry.2 rest =
              other.1 ++ replaceAll entry.1 entry.2 tail := by
            have hmore := (hlater other hmem).2
            rw [hcons] at he hmore ⊢
            obtain ⟨rfl, rfl⟩ := List.cons.inj he
            exact congrArg (c :: ·) (replaceAll_append_of_notMem hs hmore _ _)
          have hlt : tail.length < (c :: rest).length := by
            have := List.length_pos_iff.2 ho
            rw [he, List.length_append]
            omega
          rw [hfound, he] at hskip
          rw [hfound, hcut] at hsame
          rw [he, hcut, replaceAtOnce_of_eq_some ho hskip, replaceAtOnce_of_eq_some ho hsame,
            ih _ hlt tail rfl]

theorem Independent.tail {entry : Text × Text} (h : Independent (entry :: table)) :
    Independent table :=
  ⟨fun other ho => h.1 other (List.mem_cons_of_mem _ ho), (List.pairwise_cons.1 h.2).2⟩

/-- **One pass for all.** The replacements of an independent table, one after the other, are a single
pass from the left. -/
theorem replaceEach_eq_replaceAtOnce (h : Independent table) (text : Text) :
    replaceEach table text = replaceAtOnce table text := by
  induction table generalizing text with
  | nil => exact (replaceAtOnce_empty text).symm
  | cons entry table ih => rw [replaceEach_cons, replaceAtOnce_cons h, ih h.tail]

/-! ## Tables without overlap -/

/-- Whether no sought text of a table is the front of another. -/
def PrefixFree (table : List (Text × Text)) : Prop :=
  ∀ entry ∈ table, ∀ other ∈ table, other.1 <+: entry.1 → other = entry

instance (table : List (Text × Text)) : Decidable (PrefixFree table) :=
  List.decidableBAll _ table

theorem PrefixFree.eq_of_prefix (h : PrefixFree table) {entry other : Text × Text}
    (he : entry ∈ table) (ho : other ∈ table) {rest : Text} (hp : other.1 <+: entry.1 ++ rest) :
    other = entry := by
  rcases List.prefix_or_prefix_of_prefix hp (List.prefix_append entry.1 rest) with hp | hp
  · exact h entry he other ho hp
  · exact (h other ho entry he hp).symm

/-- An entry of a table without overlap is the one that is met where its sought text stands. -/
theorem entryAtFront?_append (h : PrefixFree table) {entry : Text × Text} (he : entry ∈ table)
    (rest : Text) : entryAtFront? table (entry.1 ++ rest) = some entry := by
  cases hf : entryAtFront? table (entry.1 ++ rest) with
  | none =>
    have hmiss := List.find?_eq_none.1 hf entry he
    exact absurd (List.isPrefixOf_iff_prefix.2 (List.prefix_append entry.1 rest)) hmiss
  | some other =>
    obtain ⟨ho, tail, htail⟩ := eq_append_of_entryAtFront? hf
    rw [h.eq_of_prefix he ho ⟨tail, htail.symm⟩]

theorem replaceAtOnce_entry (h : PrefixFree table) {entry : Text × Text} (he : entry ∈ table)
    (hne : entry.1 ≠ []) (rest : Text) :
    replaceAtOnce table (entry.1 ++ rest) = entry.2 ++ replaceAtOnce table rest :=
  replaceAtOnce_of_eq_some hne (entryAtFront?_append h he rest)

/-- A character at which no sought text stands is kept. -/
theorem replaceAtOnce_cons_of_not_isPrefix {c : Char} {rest : Text}
    (h : ∀ entry ∈ table, ¬ entry.1 <+: c :: rest) :
    replaceAtOnce table (c :: rest) = c :: replaceAtOnce table rest := by
  apply replaceAtOnce_of_eq_none
  refine List.find?_eq_none.2 fun entry he hp => ?_
  exact h entry he (List.isPrefixOf_iff_prefix.1 hp)

end Text

end FormLetter
