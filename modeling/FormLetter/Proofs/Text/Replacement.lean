import FormLetter.Text.Basic

/-!
# Replacing in texts

What the replacements of a table leave behind. A table is separating when no replacement is empty
and no replacement holds a character of any text that is sought: then no replacement can make or
complete an occurrence.

* `Clean`: no text that a table seeks occurs.
* `clean_replaceEach`: after a separating table has been applied the text is clean.
* `replaceEach_eq_self_iff`: a separating table changes exactly the texts that are not clean.
-/

namespace FormLetter

namespace Text

/-! ## One replacement -/

@[simp] theorem replaceAll_nil (sought new : Text) : replaceAll sought new [] = [] := by
  rw [replaceAll]

theorem replaceAll_append_self {sought : Text} (hs : sought ≠ []) (new tail : Text) :
    replaceAll sought new (sought ++ tail) = new ++ replaceAll sought new tail := by
  obtain ⟨d, more, rfl⟩ := List.exists_cons_of_ne_nil hs
  have ha : after? (d :: more) (d :: (more ++ tail)) = some tail :=
    after?_eq_some_iff.2 (List.cons_append).symm
  rw [List.cons_append, replaceAll]
  split
  · rename_i found hf
    rw [ha] at hf
    cases hf
    rfl
  · rename_i hf
    rw [ha] at hf
    cases hf

theorem replaceAll_cons_of_not_isPrefix {sought : Text} (hs : sought ≠ []) {c : Char} {rest : Text}
    (h : ¬ sought <+: c :: rest) (new : Text) :
    replaceAll sought new (c :: rest) = c :: replaceAll sought new rest := by
  obtain ⟨d, more, rfl⟩ := List.exists_cons_of_ne_nil hs
  rw [replaceAll]
  split
  · rename_i tail hf
    exact absurd ⟨tail, (after?_eq_some_iff.1 hf).symm⟩ h
  · rfl

/-- Replacing follows the text: nothing is left, an occurrence is replaced, or a character is kept.
-/
theorem replaceAll_induction {sought new : Text} (hs : sought ≠ []) {motive : Text → Text → Prop}
    (nil : motive [] [])
    (found : ∀ tail, motive tail (replaceAll sought new tail) →
      motive (sought ++ tail) (new ++ replaceAll sought new tail))
    (keep : ∀ c rest, ¬ sought <+: c :: rest → motive rest (replaceAll sought new rest) →
      motive (c :: rest) (c :: replaceAll sought new rest)) (text : Text) :
    motive text (replaceAll sought new text) := by
  induction h : text.length using Nat.strongRecOn generalizing text with
  | _ n ih =>
    subst h
    by_cases hp : sought <+: text
    · obtain ⟨tail, rfl⟩ := hp
      have hpos := List.length_pos_iff.2 hs
      rw [replaceAll_append_self hs]
      exact found tail (ih _ (by rw [List.length_append]; omega) tail rfl)
    · cases text with
      | nil =>
        rw [replaceAll_nil]
        exact nil
      | cons c rest =>
        rw [replaceAll_cons_of_not_isPrefix hs hp]
        exact keep c rest hp (ih _ (by simp) rest rfl)

theorem mem_replaceAll {sought new text : Text} {c : Char} (hs : sought ≠ [])
    (h : c ∈ replaceAll sought new text) : c ∈ new ∨ c ∈ text := by
  revert h
  refine replaceAll_induction hs (motive := fun t r => c ∈ r → c ∈ new ∨ c ∈ t)
    (fun h => Or.inr h) ?_ ?_ text
  · intro tail ih h
    rcases List.mem_append.1 h with h | h
    · exact Or.inl h
    · exact (ih h).imp id (List.mem_append_right _)
  · intro d rest _ ih h
    rcases List.mem_cons.1 h with rfl | h
    · exact Or.inr List.mem_cons_self
    · exact (ih h).imp id (List.mem_cons_of_mem _)

theorem length_replaceAll_le {sought new : Text} (hs : sought ≠ [])
    (h : new.length ≤ sought.length) (text : Text) :
    (replaceAll sought new text).length ≤ text.length := by
  refine replaceAll_induction hs (motive := fun t r => r.length ≤ t.length)
    (Nat.le_refl _) ?_ ?_ text
  · intro tail ih
    simp only [List.length_append]
    omega
  · intro c rest _ ih
    simp only [List.length_cons]
    omega

theorem count_replaceAll {sought new : Text} {c : Char} (hs : sought ≠ [])
    (h : new.count c = sought.count c) (text : Text) :
    (replaceAll sought new text).count c = text.count c := by
  refine replaceAll_induction hs (motive := fun t r => r.count c = t.count c) rfl ?_ ?_ text
  · intro tail ih
    rw [List.count_append, List.count_append, ih, h]
  · intro d rest _ ih
    rw [List.count_cons, List.count_cons, ih]

theorem replaceAll_eq_self {sought new text : Text} (hs : sought ≠ []) (h : ¬ sought <:+: text) :
    replaceAll sought new text = text := by
  revert h
  refine replaceAll_induction hs (motive := fun t r => ¬ sought <:+: t → r = t)
    (fun _ => rfl) ?_ ?_ text
  · intro tail _ h
    exact absurd (List.prefix_append sought tail).isInfix h
  · intro c rest _ ih h
    rw [ih fun hr => h (hr.trans (List.suffix_cons c rest).isInfix)]

/-! ## Text around -/

theorem replaceAll_append_left {sought : Text} (hs : sought ≠ []) {front : Text}
    (hf : ∀ c ∈ front, c ∉ sought) (new text : Text) :
    replaceAll sought new (front ++ text) = front ++ replaceAll sought new text := by
  induction front with
  | nil => rfl
  | cons c front ih =>
    rw [List.cons_append, replaceAll_cons_of_not_isPrefix hs,
      ih fun d hd => hf d (List.mem_cons_of_mem _ hd)]
    · rfl
    · intro h
      obtain ⟨d, more, rfl⟩ := List.exists_cons_of_ne_nil hs
      have hc : d = c := (List.cons_prefix_cons.1 h).1
      exact hf c List.mem_cons_self (hc ▸ List.mem_cons_self)

theorem prefix_of_prefix_append {sought text back : Text} (hb : ∀ c ∈ back, c ∉ sought)
    (h : sought <+: text ++ back) : sought <+: text := by
  induction sought generalizing text with
  | nil => exact List.nil_prefix
  | cons d more ih =>
    cases text with
    | nil => exact absurd List.mem_cons_self (hb d (h.subset List.mem_cons_self))
    | cons c rest =>
      obtain ⟨rfl, hm⟩ := List.cons_prefix_cons.1 h
      exact List.cons_prefix_cons.2
        ⟨rfl, ih (fun x hx hm => hb x hx (List.mem_cons_of_mem _ hm)) hm⟩

theorem replaceAll_append_right {sought : Text} (hs : sought ≠ []) {back : Text}
    (hb : ∀ c ∈ back, c ∉ sought) (new text : Text) :
    replaceAll sought new (text ++ back) = replaceAll sought new text ++ back := by
  refine replaceAll_induction hs
    (motive := fun t r => replaceAll sought new (t ++ back) = r ++ back) ?_ ?_ ?_ text
  · have h := replaceAll_append_left hs hb new []
    rwa [replaceAll_nil, List.append_nil] at h
  · intro tail ih
    rw [List.append_assoc, replaceAll_append_self hs, ih, List.append_assoc]
  · intro c rest hc ih
    rw [List.cons_append, replaceAll_cons_of_not_isPrefix hs, ih, List.cons_append]
    exact fun h => hc (prefix_of_prefix_append hb h)

/-! ## Occurrences in the result -/

/-- A text without characters of the replacement that stands in front of the result stood in front
of the text. -/
theorem prefix_of_prefix_replaceAll {sought new : Text} (hs : sought ≠ []) (hn : new ≠ [])
    {front : Text} (hf : ∀ c ∈ front, c ∉ new) (text : Text)
    (h : front <+: replaceAll sought new text) : front <+: text := by
  revert h hf
  refine replaceAll_induction hs
    (motive := fun t r => ∀ front : Text, (∀ c ∈ front, c ∉ new) → front <+: r → front <+: t)
    (fun _ _ h => h) ?_ ?_ text front
  · intro tail _ front hf h
    cases front with
    | nil => exact List.nil_prefix
    | cons c more =>
      obtain ⟨d, others, rfl⟩ := List.exists_cons_of_ne_nil hn
      have hc : c = d := (List.cons_prefix_cons.1 h).1
      exact absurd (hc ▸ List.mem_cons_self) (hf c List.mem_cons_self)
  · intro c rest _ ih front hf h
    cases front with
    | nil => exact List.nil_prefix
    | cons d more =>
      obtain ⟨rfl, hm⟩ := List.cons_prefix_cons.1 h
      exact List.cons_prefix_cons.2
        ⟨rfl, ih more (fun x hx => hf x (List.mem_cons_of_mem _ hx)) hm⟩

theorem infix_of_infix_append {front back sought : Text} (hs : sought ≠ [])
    (hf : ∀ c ∈ sought, c ∉ front) (h : sought <:+: front ++ back) : sought <:+: back := by
  induction front with
  | nil => exact h
  | cons d front ih =>
    rcases List.infix_cons_iff.1 h with h | h
    · obtain ⟨c, more, rfl⟩ := List.exists_cons_of_ne_nil hs
      have hc : c = d := (List.cons_prefix_cons.1 h).1
      exact absurd (hc ▸ List.mem_cons_self) (hf c List.mem_cons_self)
    · exact ih (fun c hc hm => hf c hc (List.mem_cons_of_mem _ hm)) h

/-- Replacing makes no occurrence of a text without characters of the replacement. -/
theorem infix_of_infix_replaceAll {sought new : Text} (hs : sought ≠ []) (hn : new ≠ [])
    {other : Text} (ho : other ≠ []) (hd : ∀ c ∈ other, c ∉ new) (text : Text)
    (h : other <:+: replaceAll sought new text) : other <:+: text := by
  revert h
  refine replaceAll_induction hs (motive := fun t r => r = replaceAll sought new t →
    other <:+: r → other <:+: t) (fun _ h => h) ?_ ?_ text rfl
  · intro tail ih _ h
    exact (ih rfl (infix_of_infix_append ho hd h)).trans (List.suffix_append _ _).isInfix
  · intro c rest _ ih hr h
    rcases List.infix_cons_iff.1 h with h | h
    · rw [hr] at h
      exact (prefix_of_prefix_replaceAll hs hn hd _ h).isInfix
    · exact (ih rfl h).trans (List.suffix_cons c rest).isInfix

/-- No occurrence is left of a text that has no character in common with its replacement. -/
theorem not_infix_replaceAll {sought new : Text} (hs : sought ≠ []) (hn : new ≠ [])
    (hd : ∀ c ∈ sought, c ∉ new) (text : Text) : ¬ sought <:+: replaceAll sought new text := by
  refine replaceAll_induction hs (motive := fun t r => r = replaceAll sought new t →
    ¬ sought <:+: r) ?_ ?_ ?_ text rfl
  · intro _ h
    exact hs (List.infix_nil.1 h)
  · intro tail ih _ h
    exact ih rfl (infix_of_infix_append hs hd h)
  · intro c rest hc ih hr h
    rcases List.infix_cons_iff.1 h with h | h
    · rw [hr] at h
      exact hc (prefix_of_prefix_replaceAll hs hn hd _ h)
    · exact ih rfl h

/-! ## Tables -/

/-- Whether two texts have no character in common. -/
def Apart (front back : Text) : Prop := ∀ c ∈ front, c ∉ back

instance (front back : Text) : Decidable (Apart front back) := List.decidableBAll _ front

/-- Whether no replacement is empty and none has a character in common with any text that is
sought. -/
def Separating (table : List (Text × Text)) : Prop :=
  ∀ entry ∈ table, entry.1 ≠ [] ∧ entry.2 ≠ [] ∧ ∀ other ∈ table, Apart other.1 entry.2

instance (table : List (Text × Text)) : Decidable (Separating table) :=
  List.decidableBAll _ table

/-- Whether nothing that a table seeks occurs in a text. -/
def Clean (table : List (Text × Text)) (text : Text) : Prop :=
  ∀ entry ∈ table, ¬ entry.1 <:+: text

theorem Separating.tail {entry : Text × Text} {table : List (Text × Text)}
    (h : Separating (entry :: table)) : Separating table :=
  fun e he => ⟨(h e (List.mem_cons_of_mem _ he)).1, (h e (List.mem_cons_of_mem _ he)).2.1,
    fun o ho => (h e (List.mem_cons_of_mem _ he)).2.2 o (List.mem_cons_of_mem _ ho)⟩

theorem replaceEach_cons (entry : Text × Text) (table : List (Text × Text)) (text : Text) :
    replaceEach (entry :: table) text = replaceEach table (replaceAll entry.1 entry.2 text) := rfl

theorem mem_replaceEach {table : List (Text × Text)} (hs : ∀ entry ∈ table, entry.1 ≠ [])
    {text : Text} {c : Char} (h : c ∈ replaceEach table text) :
    (∃ entry ∈ table, c ∈ entry.2) ∨ c ∈ text := by
  induction table generalizing text with
  | nil => exact Or.inr h
  | cons entry table ih =>
    rw [replaceEach_cons] at h
    rcases ih (fun e he => hs e (List.mem_cons_of_mem _ he)) h with ⟨e, he, hc⟩ | h
    · exact Or.inl ⟨e, List.mem_cons_of_mem _ he, hc⟩
    · rcases mem_replaceAll (hs entry List.mem_cons_self) h with h | h
      · exact Or.inl ⟨entry, List.mem_cons_self, h⟩
      · exact Or.inr h

theorem length_replaceEach_le {table : List (Text × Text)}
    (hs : ∀ entry ∈ table, entry.1 ≠ [] ∧ entry.2.length ≤ entry.1.length) (text : Text) :
    (replaceEach table text).length ≤ text.length := by
  induction table generalizing text with
  | nil => exact Nat.le_refl _
  | cons entry table ih =>
    obtain ⟨hne, hle⟩ := hs entry List.mem_cons_self
    calc (replaceEach (entry :: table) text).length
        ≤ (replaceAll entry.1 entry.2 text).length :=
          ih (fun e he => hs e (List.mem_cons_of_mem _ he)) _
      _ ≤ text.length := length_replaceAll_le hne hle text

theorem count_replaceEach {table : List (Text × Text)} {c : Char}
    (hs : ∀ entry ∈ table, entry.1 ≠ [] ∧ entry.2.count c = entry.1.count c) (text : Text) :
    (replaceEach table text).count c = text.count c := by
  induction table generalizing text with
  | nil => rfl
  | cons entry table ih =>
    obtain ⟨hne, hc⟩ := hs entry List.mem_cons_self
    rw [replaceEach_cons, ih (fun e he => hs e (List.mem_cons_of_mem _ he)),
      count_replaceAll hne hc]

/-- Characters that no sought text holds may stand around a text. -/
theorem replaceEach_append_append {table : List (Text × Text)} {front back : Text}
    (hs : ∀ entry ∈ table, entry.1 ≠ [] ∧ ∀ c ∈ front ++ back, c ∉ entry.1) (text : Text) :
    replaceEach table (front ++ text ++ back) = front ++ replaceEach table text ++ back := by
  induction table generalizing text with
  | nil => rfl
  | cons entry table ih =>
    obtain ⟨hne, hc⟩ := hs entry List.mem_cons_self
    rw [replaceEach_cons,
      replaceAll_append_right hne fun c h => hc c (List.mem_append_right _ h),
      replaceAll_append_left hne fun c h => hc c (List.mem_append_left _ h),
      ih fun e he => hs e (List.mem_cons_of_mem _ he)]
    rfl

/-- A table makes no occurrence of a text that has no character in common with its replacements. -/
theorem infix_of_infix_replaceEach {table : List (Text × Text)}
    (ht : ∀ entry ∈ table, entry.1 ≠ [] ∧ entry.2 ≠ []) {other : Text} (ho : other ≠ [])
    (hd : ∀ entry ∈ table, ∀ c ∈ other, c ∉ entry.2) {text : Text}
    (h : other <:+: replaceEach table text) : other <:+: text := by
  induction table generalizing text with
  | nil => exact h
  | cons entry table ih =>
    rw [replaceEach_cons] at h
    obtain ⟨hs, hn⟩ := ht entry List.mem_cons_self
    exact infix_of_infix_replaceAll hs hn ho (hd entry List.mem_cons_self) text
      (ih (fun e he => ht e (List.mem_cons_of_mem _ he))
        (fun e he => hd e (List.mem_cons_of_mem _ he)) h)

/-- A character that a table seeks is in no clean text. -/
theorem notMem_of_clean {table : List (Text × Text)} {text : Text} {c : Char}
    (h : Clean table text) (hc : [c] ∈ table.map (·.1)) : c ∉ text := by
  intro hm
  obtain ⟨entry, he, hs⟩ := List.mem_map.1 hc
  obtain ⟨front, back, rfl⟩ := List.append_of_mem hm
  exact h entry he ⟨front, back, by simp [hs]⟩

/-- After a separating table has been applied the text is clean. -/
theorem clean_replaceEach {table : List (Text × Text)} (ht : Separating table) (text : Text) :
    Clean table (replaceEach table text) := by
  induction table generalizing text with
  | nil => exact fun _ he => absurd he List.not_mem_nil
  | cons entry table ih =>
    intro e he h
    rw [replaceEach_cons] at h
    rcases List.mem_cons.1 he with rfl | he
    · obtain ⟨hs, hn, hd⟩ := ht e List.mem_cons_self
      refine not_infix_replaceAll hs hn (hd e List.mem_cons_self) text
        (infix_of_infix_replaceEach (fun o ho => ?_) hs (fun o ho => ?_) h)
      · exact ⟨(ht o (List.mem_cons_of_mem _ ho)).1, (ht o (List.mem_cons_of_mem _ ho)).2.1⟩
      · exact (ht o (List.mem_cons_of_mem _ ho)).2.2 e List.mem_cons_self
    · exact ih ht.tail _ e he h

theorem replaceEach_eq_self {table : List (Text × Text)} (hs : ∀ entry ∈ table, entry.1 ≠ [])
    {text : Text} (h : Clean table text) : replaceEach table text = text := by
  induction table with
  | nil => rfl
  | cons entry table ih =>
    rw [replaceEach_cons,
      replaceAll_eq_self (hs entry List.mem_cons_self) (h entry List.mem_cons_self)]
    exact ih (fun e he => hs e (List.mem_cons_of_mem _ he))
      fun e he => h e (List.mem_cons_of_mem _ he)

/-- A separating table changes exactly the texts that are not clean. -/
theorem replaceEach_eq_self_iff {table : List (Text × Text)} (ht : Separating table) {text : Text} :
    replaceEach table text = text ↔ Clean table text := by
  constructor
  · intro h
    rw [← h]
    exact clean_replaceEach ht text
  · exact replaceEach_eq_self fun e he => (ht e he).1

end Text

end FormLetter
