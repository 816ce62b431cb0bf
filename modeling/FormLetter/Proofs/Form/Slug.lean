import FormLetter.Form.Field
import FormLetter.Proofs.Text.Cutting
import FormLetter.Proofs.Text.Distinct
import FormLetter.Proofs.Text.Lowercase
import FormLetter.Proofs.Text.Run

/-!
# Slugs and keys

The slug of a label is made of the runs of letters and digits of its lower-case form, with one hyphen
between any two. A slug is its own slug. The keys of a field are its labels, its number and the
variants of its slug, without repetition.

* `IsSlug`: words of letters and digits, joined by hyphens.
* `trimHyphens_hyphenate`, `slugify_eq_joinWith`: the slug of a label by its words.
* `Field.mem_keys_iff`: the keys of a field.
* `slugify_canonical`: slugs are canonical, and the keys of a field are complete and distinct.
-/

namespace FormLetter

open Text

/-! ## Characters of slugs -/

theorem isSlugChar_ne_hyphen {c : Char} (h : isSlugChar c = true) : c ≠ '-' := by
  rintro rfl
  exact absurd h (by decide)

/-- An ASCII character other than a capital letter stays as it is in lower case. -/
theorem isLower_of_ascii {c : Char} (h : c.toNat < 0x80) (hu : c.isUpper = false) : IsLower c := by
  refine ⟨fun heq => ?_, ?_⟩
  · have hcode : capitalSigma.toNat = 0x3A3 := rfl
    rw [heq, hcode] at h
    omega
  · have hself : c.toLower = c := dif_neg (of_decide_eq_false hu)
    rw [lowerChar_ascii h, hself]

theorem isLower_of_isSlugChar {c : Char} (h : isSlugChar c = true) : IsLower c := by
  have hcode : (97 ≤ c.toNat ∧ c.toNat ≤ 122) ∨ 48 ≤ c.toNat ∧ c.toNat ≤ 57 := by
    refine (Bool.or_eq_true_iff.1 h).imp (fun hl => ?_) fun hd => Char.isDigit_iff_toNat.1 hd
    obtain ⟨hlow, hhigh⟩ := Bool.and_eq_true_iff.1 hl
    exact ⟨of_decide_eq_true hlow, of_decide_eq_true hhigh⟩
  refine isLower_of_ascii (by omega) (decide_eq_false fun hu => ?_)
  obtain ⟨hlow, hhigh⟩ := hu
  have hhigh : c.toNat ≤ 90 := hhigh
  have hlow : 65 ≤ c.toNat := hlow
  omega

/-! ## Hyphens -/

section

variable {c : Char} {word rest : Text}

theorem hyphenate_append (h : IsRun isSlugChar word) (inRun : Bool) (rest : Text) :
    hyphenate inRun (word ++ rest) = word ++ hyphenate false rest := by
  obtain ⟨hne, hword⟩ := h
  induction word generalizing inRun with
  | nil => exact absurd rfl hne
  | cons c word ih =>
    obtain ⟨hc, hrest⟩ := List.forall_mem_cons.1 hword
    rw [List.cons_append, hyphenate, if_pos hc]
    by_cases hnone : word = []
    · rw [hnone]
      rfl
    · rw [ih false hnone hrest]
      rfl

/-- A gap in front of a text is one hyphen, unless the gap began before the text. -/
theorem exists_hyphenate_false (text : Text) :
    ∃ front, (∀ c ∈ front, c = '-') ∧ hyphenate false text = front ++ hyphenate true text := by
  cases text with
  | nil => exact ⟨[], fun _ h => absurd h List.not_mem_nil, rfl⟩
  | cons c rest =>
    cases hc : isSlugChar c with
    | true => exact ⟨[], fun _ h => absurd h List.not_mem_nil, by simp [hyphenate, hc]⟩
    | false => exact ⟨['-'], fun _ h => List.mem_singleton.1 h, by simp [hyphenate, hc]⟩

/-- Behind a gap a text becomes its words with hyphens between them, up to hyphens at the end. -/
theorem exists_hyphenate_true (text : Text) :
    ∃ back, (∀ c ∈ back, c = '-') ∧
      hyphenate true text = joinWith ['-'] (runs isSlugChar text) ++ back := by
  induction text using runs_induction isSlugChar with
  | nil => exact ⟨[], fun _ h => absurd h List.not_mem_nil, rfl⟩
  | gap c rest hc ih =>
    obtain ⟨back, hback, heq⟩ := ih
    refine ⟨back, hback, ?_⟩
    rw [runs_cons hc, ← heq]
    simp [hyphenate, hc]
  | run word rest hword hrest ih =>
    obtain ⟨back, hback, heq⟩ := ih
    rw [hyphenate_append hword, runs_append hword hrest]
    cases rest with
    | nil => exact ⟨[], fun _ h => absurd h List.not_mem_nil, rfl⟩
    | cons c rest =>
      have hc : isSlugChar c = false := hrest c rfl
      have hgap : hyphenate false (c :: rest) = '-' :: hyphenate true (c :: rest) := by
        simp [hyphenate, hc]
      rw [hgap, heq]
      by_cases hnone : runs isSlugChar (c :: rest) = []
      · exact ⟨'-' :: back, List.forall_mem_cons.2 ⟨rfl, hback⟩, by rw [hnone]; rfl⟩
      · exact ⟨back, hback, by rw [joinWith_cons _ _ hnone]; simp⟩

end

/-! ## Trimming -/

theorem dropWhile_hyphens {front core : Text} (hf : ∀ c ∈ front, c = '-')
    (hc : ∀ c ∈ core.head?, c ≠ '-') :
    (front ++ core).dropWhile (· = '-') = core := by
  rw [List.dropWhile_append_of_pos fun c h => decide_eq_true (hf c h)]
  cases core with
  | nil => rfl
  | cons c core => exact List.dropWhile_cons_of_neg (by simpa using hc c rfl)

/-- Hyphens at the two ends of a text that neither starts nor ends with one are taken away. -/
theorem trimHyphens_append {front core back : Text} (hf : ∀ c ∈ front, c = '-')
    (hb : ∀ c ∈ back, c = '-') (hhead : ∀ c ∈ core.head?, c ≠ '-')
    (hlast : ∀ c ∈ core.getLast?, c ≠ '-') :
    trimHyphens (front ++ (core ++ back)) = core := by
  have hleft : (front ++ (core ++ back)).dropWhile (· = '-') = core ++ back ∨
      core = [] ∧ (front ++ (core ++ back)).dropWhile (· = '-') = [] := by
    cases core with
    | nil =>
      refine Or.inr ⟨rfl, ?_⟩
      have hall := dropWhile_hyphens (List.forall_mem_append.2 ⟨hf, hb⟩) hhead
      rwa [List.append_nil] at hall
    | cons c core => exact Or.inl (dropWhile_hyphens hf hhead)
  rcases hleft with hleft | ⟨rfl, hleft⟩
  · rw [trimHyphens, hleft, List.reverse_append, dropWhile_hyphens, List.reverse_reverse]
    · exact fun c hc => hb c (List.mem_reverse.1 hc)
    · rwa [List.head?_reverse]
  · rw [trimHyphens, hleft]
    rfl

/-! ## Words -/

section

variable {words : List Text}

theorem joinWith_ne_nil (h : ∀ word ∈ words, IsRun isSlugChar word) (hne : words ≠ [])
    (separator : Text) : joinWith separator words ≠ [] := by
  obtain ⟨word, others, rfl⟩ := List.exists_cons_of_ne_nil hne
  obtain ⟨d, rest, rfl⟩ := List.exists_cons_of_ne_nil (h word List.mem_cons_self).1
  cases others <;> exact List.cons_ne_nil _ _

theorem head?_joinWith (h : ∀ word ∈ words, IsRun isSlugChar word) (separator : Text) :
    ∀ c ∈ (joinWith separator words).head?, isSlugChar c = true := by
  cases words with
  | nil => exact fun c hc => absurd hc (Option.not_mem_none c)
  | cons word words =>
    obtain ⟨⟨hne, hword⟩, -⟩ := List.forall_mem_cons.1 h
    obtain ⟨d, rest, rfl⟩ := List.exists_cons_of_ne_nil hne
    intro c hc
    have hhead : (joinWith separator ((d :: rest) :: words)).head? = some d := by
      cases words <;> rfl
    rw [hhead] at hc
    exact Option.some.inj hc ▸ hword d List.mem_cons_self

theorem getLast?_joinWith (h : ∀ word ∈ words, IsRun isSlugChar word) (separator : Text) :
    ∀ c ∈ (joinWith separator words).getLast?, isSlugChar c = true := by
  induction words with
  | nil => exact fun c hc => absurd hc (Option.not_mem_none c)
  | cons word words ih =>
    obtain ⟨⟨hne, hword⟩, hrest⟩ := List.forall_mem_cons.1 h
    by_cases hnone : words = []
    · subst hnone
      exact fun c hc => hword c (List.mem_of_getLast? hc)
    · rw [joinWith_cons _ _ hnone,
        List.getLast?_append_of_ne_nil _ (joinWith_ne_nil hrest hnone separator)]
      exact ih hrest

end

/-- Hyphens put for gaps and trimmed at the ends stand between the words. -/
theorem trimHyphens_hyphenate (text : Text) :
    trimHyphens (hyphenate false text) = joinWith ['-'] (runs isSlugChar text) := by
  obtain ⟨front, hfront, hfalse⟩ := exists_hyphenate_false text
  obtain ⟨back, hback, htrue⟩ := exists_hyphenate_true text
  have hwords := isRun_of_mem_runs isSlugChar text
  rw [hfalse, htrue]
  exact trimHyphens_append hfront hback
    (fun c hc => isSlugChar_ne_hyphen (head?_joinWith hwords _ c hc))
    fun c hc => isSlugChar_ne_hyphen (getLast?_joinWith hwords _ c hc)

/-! ## Slugs -/

/-- The words of a label, in lower case. -/
def slugWords (label : Text) : List Text := runs isSlugChar (lower label)

theorem slugify_eq_joinWith (label : Text) : slugify label = joinWith ['-'] (slugWords label) :=
  trimHyphens_hyphenate (lower label)

/-- The dot that the first letter has in lower case is a character of its own, and a gap. -/
example : slugify "İstanbul -- 2".toList = "i-stanbul-2".toList := by decide +kernel

/-- A slug: words of small letters and digits, with one hyphen between any two of them. -/
def IsSlug (text : Text) : Prop :=
  ∃ words, words ≠ [] ∧ (∀ word ∈ words, IsRun isSlugChar word) ∧ text = joinWith ['-'] words

/-- Words with hyphens between them are the words of what they make. -/
theorem slugWords_joinWith {words : List Text} (h : ∀ word ∈ words, IsRun isSlugChar word) :
    slugWords (joinWith ['-'] words) = words := by
  have hlower : lower (joinWith ['-'] words) = joinWith ['-'] words := by
    refine lowerAfter_eq_self (fun c hc => ?_) []
    rcases mem_joinWith hc with hc | ⟨word, hword, hc⟩
    · rw [List.mem_singleton.1 hc]
      exact isLower_of_ascii (by decide) (by decide)
    · exact isLower_of_isSlugChar ((h word hword).2 c hc)
  rw [slugWords, hlower]
  exact runs_joinWith (List.cons_ne_nil _ _) (List.forall_mem_singleton.2 rfl) h

theorem slugify_eq_nil_or_isSlug (label : Text) : slugify label = [] ∨ IsSlug (slugify label) := by
  rw [slugify_eq_joinWith]
  by_cases h : slugWords label = []
  · exact Or.inl (by rw [h]; rfl)
  · exact Or.inr ⟨_, h, isRun_of_mem_runs isSlugChar _, rfl⟩

/-- A text is its own slug exactly if it is empty or a slug. -/
theorem slugify_eq_self_iff {text : Text} : slugify text = text ↔ text = [] ∨ IsSlug text := by
  refine ⟨fun h => h ▸ slugify_eq_nil_or_isSlug text, ?_⟩
  rintro (rfl | ⟨words, -, hwords, rfl⟩)
  · rfl
  · rw [slugify_eq_joinWith, slugWords_joinWith hwords]

/-! ## Keys -/

theorem map_joinWith (f : Char → Char) (separator : Text) (pieces : List Text) :
    (joinWith separator pieces).map f = joinWith (separator.map f) (pieces.map (List.map f)) := by
  induction pieces with
  | nil => rfl
  | cons piece pieces ih =>
    by_cases hnone : pieces = []
    · rw [hnone]
      rfl
    · have hmapped : pieces.map (List.map f) ≠ [] := fun h => hnone (List.map_eq_nil_iff.1 h)
      rw [joinWith_cons _ _ hnone, List.map_append, List.map_append, ih, List.map_cons,
        joinWith_cons _ _ hmapped]

/-- In a slug only the hyphens between the words are put for something else. -/
theorem substitute_joinWith {words : List Text} (h : ∀ word ∈ words, IsRun isSlugChar word)
    {old new : Char} (hold : isSlugChar old = false) (separator : Text) :
    substitute old new (joinWith separator words) =
      joinWith (substitute old new separator) words := by
  have hword (word : Text) (hw : word ∈ words) : substitute old new word = id word := by
    refine (List.map_congr_left fun c hc => if_neg ?_).trans (List.map_id word)
    rintro rfl
    exact Bool.false_ne_true (hold.symm.trans ((h word hw).2 c hc))
  have hwords : words.map (substitute old new) = words :=
    (List.map_congr_left hword).trans (List.map_id words)
  exact (map_joinWith _ separator words).trans (congrArg (joinWith _) hwords)

namespace Field

theorem nodup_keys (field : Field) : field.keys.Nodup := nodup_eraseDups _

/-- The keys of a field: its labels and their upper-case forms, its number in four forms, and its
slug with hyphens or underscores, in small or in capital letters, as far as they are not empty. -/
theorem mem_keys_iff {field : Field} {key : Text} :
    key ∈ field.keys ↔ key ≠ [] ∧
      (key ∈ labelKeys field.adminLabel ∨ key ∈ labelKeys field.label ∨ key ∈ idKeys field.id ∨
        ∃ separator ∈ ['-', '_'], key ∈ labelKeys (joinWith [separator] (slugWords field.label))) := by
  have hwords := isRun_of_mem_runs isSlugChar (lower field.label)
  have hunderscored : substitute '-' '_' (joinWith ['-'] (slugWords field.label)) =
      joinWith ['_'] (slugWords field.label) := substitute_joinWith hwords rfl ['-']
  have hhyphened : substitute '_' '-' (joinWith ['-'] (slugWords field.label)) =
      joinWith ['-'] (slugWords field.label) := substitute_joinWith hwords rfl ['-']
  have hslug : key ∈ slugKeys (slugify field.label) ↔
      ∃ separator ∈ ['-', '_'],
        key ∈ labelKeys (joinWith [separator] (slugWords field.label)) := by
    rw [slugify_eq_joinWith, slugKeys, hunderscored, hhyphened]
    simp only [labelKeys, List.mem_cons, List.not_mem_nil, or_false, exists_eq_or_imp,
      exists_eq_left]
    tauto
  rw [keys, List.mem_eraseDups, List.mem_filter, List.mem_append, List.mem_append, List.mem_append,
    hslug, Bool.not_eq_true', List.isEmpty_eq_false_iff, and_comm, or_assoc, or_assoc]

end Field

/-- **Slugs are canonical.** The slug of a label is its words with one hyphen between any two: it is
empty, or it is a slug. The texts that are their own slug are the empty one and the slugs, so the
slug of a slug is that slug. No key of a field is empty, none comes twice, and the keys are all of
its labels, its number and its slug, with hyphens and with underscores, as they are and in capital
letters, that are not empty. -/
theorem slugify_canonical (label text : Text) (field : Field) :
    (slugify label = joinWith ['-'] (slugWords label) ∧
        (slugify label = [] ∨ IsSlug (slugify label))) ∧
      (slugify text = text ↔ text = [] ∨ IsSlug text) ∧
      slugify (slugify label) = slugify label ∧
      [] ∉ field.keys ∧ field.keys.Nodup ∧
      ∀ key, key ∈ field.keys ↔ key ≠ [] ∧
        (key ∈ Field.labelKeys field.adminLabel ∨ key ∈ Field.labelKeys field.label ∨
          key ∈ Field.idKeys field.id ∨
          ∃ separator ∈ ['-', '_'],
            key ∈ Field.labelKeys (joinWith [separator] (slugWords field.label))) :=
  ⟨⟨slugify_eq_joinWith label, slugify_eq_nil_or_isSlug label⟩, slugify_eq_self_iff,
    slugify_eq_self_iff.2 (slugify_eq_nil_or_isSlug label),
    fun h => (Field.mem_keys_iff.1 h).1 rfl, field.nodup_keys, fun _ => Field.mem_keys_iff⟩

end FormLetter
