import FormLetter.Escape
import FormLetter.Proofs.Text.Simultaneous

/-!
# Escaped values

The references of an escaped value are put in one kind of character after the other. That is the
same as writing each character on its own, because no reference holds a character that is escaped
later; and because the ampersand is escaped too, the references can be told from the value.

* `escapes`, `escapedChar`: the table in use, and what a single character becomes.
* `unescape`: the references of the table taken back in one pass from the left.
* `escapeValue_eq_flatMap`: escaping writes each character on its own.
* `unescape_escapeValue`: nothing of a value is lost.
* `escapeValue_exact`: escaping is exact and can be taken back.
-/

namespace FormLetter

open Text

/-! ## Characters on their own -/

/-- The characters that are escaped, with their references. -/
def escapes (escapeBraces : Bool) : List (Text × Text) :=
  if escapeBraces then markupEscapes ++ braceEscapes else markupEscapes

/-- What a character of a value becomes. -/
def escapedChar (escapeBraces : Bool) (c : Char) : Text :=
  match c with
  | '&' => "&amp;".toList
  | '<' => "&lt;".toList
  | '>' => "&gt;".toList
  | '{' => if escapeBraces then "&#123;".toList else ['{']
  | '}' => if escapeBraces then "&#125;".toList else ['}']
  | c => [c]

/-- A text with the references of the table taken back, met from the left. -/
def unescape (escapeBraces : Bool) (text : Text) : Text :=
  replaceAtOnce ((escapes escapeBraces).map Prod.swap) text

variable {escapeBraces : Bool}

theorem mem_escapes_true {entry : Text × Text} (he : entry ∈ escapes escapeBraces) :
    entry ∈ escapes true := by
  cases escapeBraces with
  | false => exact List.mem_append_left _ he
  | true => exact he

theorem prefixFree_escapes (escapeBraces : Bool) :
    PrefixFree (escapes escapeBraces) ∧ PrefixFree ((escapes escapeBraces).map Prod.swap) := by
  cases escapeBraces <;> decide

/-- Every reference is an ampersand with other characters behind it. -/
theorem exists_reference {sought reference : Text}
    (he : (sought, reference) ∈ escapes escapeBraces) :
    ∃ name, reference = '&' :: name ∧ '&' ∉ name := by
  have hall : ∀ entry ∈ escapes true, entry.2.head? = some '&' ∧ '&' ∉ entry.2.tail := by decide
  obtain ⟨hhead, htail⟩ := hall _ (mem_escapes_true he)
  obtain ⟨name, hname⟩ := List.head?_eq_some_iff.1 hhead
  rw [hname] at htail
  exact ⟨name, hname, htail⟩

/-- A character has an entry of its own, or it is no ampersand and stays as it is. -/
theorem escapedChar_cases (escapeBraces : Bool) (c : Char) :
    ([c], escapedChar escapeBraces c) ∈ escapes escapeBraces ∨
      escapedChar escapeBraces c = [c] ∧ c ≠ '&' ∧ ∀ entry ∈ escapes escapeBraces, c ∉ entry.1 := by
  unfold escapedChar
  split
  · exact Or.inl (by cases escapeBraces <;> decide)
  · exact Or.inl (by cases escapeBraces <;> decide)
  · exact Or.inl (by cases escapeBraces <;> decide)
  · cases escapeBraces with
    | false => exact Or.inr (by decide)
    | true => exact Or.inl (by decide)
  · cases escapeBraces with
    | false => exact Or.inr (by decide)
    | true => exact Or.inl (by decide)
  · rename_i hampersand hless hgreater hopen hclose
    refine Or.inr ⟨rfl, hampersand, fun entry he hc => ?_⟩
    have hall : ∀ entry ∈ escapes true, entry.1 ⊆ ['&', '<', '>', '{', '}'] := by decide
    have hmem := hall entry (mem_escapes_true he) hc
    simp only [List.mem_cons, List.not_mem_nil, or_false] at hmem
    rcases hmem with rfl | rfl | rfl | rfl | rfl
    · exact hampersand rfl
    · exact hless rfl
    · exact hgreater rfl
    · exact hopen rfl
    · exact hclose rfl

/-! ## Escaping -/

/-- The passes over the whole value write each character on its own. -/
theorem escapeValue_eq_flatMap (escapeBraces : Bool) (value : Text) :
    escapeValue escapeBraces value = value.flatMap (escapedChar escapeBraces) := by
  have hpasses : escapeValue escapeBraces = replaceEach (escapes escapeBraces) := by
    cases escapeBraces <;> rfl
  have hindependent : Independent (escapes escapeBraces) := by cases escapeBraces <;> decide
  have hne : ∀ entry ∈ escapes escapeBraces, entry.1 ≠ [] := by cases escapeBraces <;> decide
  rw [hpasses, replaceEach_eq_replaceAtOnce hindependent]
  induction value with
  | nil => exact replaceAtOnce_nil _
  | cons c rest ih =>
    rw [List.flatMap_cons, ← ih]
    rcases escapedChar_cases escapeBraces c with hentry | ⟨hkept, -, hnone⟩
    · exact replaceAtOnce_entry (prefixFree_escapes _).1 hentry (List.cons_ne_nil c []) rest
    · have hapart : ∀ entry ∈ escapes escapeBraces, entry.1 ≠ [] ∧ Apart entry.1 [c] := by
        intro entry he
        refine ⟨hne entry he, fun d hd hc => ?_⟩
        rw [List.mem_singleton.1 hc] at hd
        exact hnone entry he hd
      rw [hkept]
      exact replaceAtOnce_append hapart rest

/-- The reference of a character, or the character itself, is taken back. -/
theorem unescape_escapedChar (escapeBraces : Bool) (c : Char) (rest : Text) :
    unescape escapeBraces (escapedChar escapeBraces c ++ rest) =
      c :: unescape escapeBraces rest := by
  unfold unescape
  rcases escapedChar_cases escapeBraces c with hentry | ⟨hkept, hc, -⟩
  · have hswap : (escapedChar escapeBraces c, [c]) ∈ (escapes escapeBraces).map Prod.swap :=
      List.mem_map_of_mem hentry
    obtain ⟨name, hname, -⟩ := exists_reference hentry
    refine replaceAtOnce_entry (prefixFree_escapes _).2 hswap ?_ rest
    exact fun hnil => List.cons_ne_nil '&' name (hname ▸ hnil)
  · rw [hkept]
    apply replaceAtOnce_cons_of_not_isPrefix
    intro swapped hs hp
    obtain ⟨⟨sought, reference⟩, he, rfl⟩ := List.mem_map.1 hs
    obtain ⟨name, rfl, -⟩ := exists_reference he
    exact hc (List.cons_prefix_cons.1 hp).1.symm

theorem unescape_escapeValue (escapeBraces : Bool) (value : Text) :
    unescape escapeBraces (escapeValue escapeBraces value) = value := by
  rw [escapeValue_eq_flatMap]
  induction value with
  | nil => exact replaceAtOnce_nil _
  | cons c rest ih => rw [List.flatMap_cons, unescape_escapedChar, ih]

theorem suffix_of_suffix_append {c : Char} {front back text : Text} (hc : c ∉ front)
    (h : c :: back <:+ front ++ text) : c :: back <:+ text := by
  induction front with
  | nil => exact h
  | cons d front ih =>
    obtain ⟨hd, hfront⟩ := not_or.1 (List.mem_cons.not.1 hc)
    rcases List.suffix_cons_iff.1 h with h | h
    · exact absurd (List.cons.inj h).1 hd
    · exact ih hfront h

/-- Every ampersand of an escaped value begins a reference. -/
theorem exists_reference_of_suffix {value back : Text}
    (h : '&' :: back <:+ escapeValue escapeBraces value) :
    ∃ entry ∈ escapes escapeBraces, entry.2 <+: '&' :: back := by
  rw [escapeValue_eq_flatMap] at h
  induction value with
  | nil => exact absurd (List.suffix_nil.1 h) (List.cons_ne_nil _ _)
  | cons c rest ih =>
    rw [List.flatMap_cons] at h
    rcases escapedChar_cases escapeBraces c with hentry | ⟨hkept, hc, -⟩
    · obtain ⟨name, hname, hnot⟩ := exists_reference hentry
      rw [hname, List.cons_append, List.suffix_cons_iff] at h
      rcases h with h | h
      · refine ⟨_, hentry, ?_⟩
        rw [hname, h]
        exact List.prefix_append ('&' :: name) _
      · exact ih (suffix_of_suffix_append hnot h)
    · rw [hkept, List.singleton_append, List.suffix_cons_iff] at h
      rcases h with h | h
      · exact absurd (List.cons.inj h).1.symm hc
      · exact ih h

/-- **Escaping is exact.** Every character is written on its own, so that values one behind the other
are escaped apart; the references can be taken back from the left, so that different values stay
different; and no ampersand of the result is anything but the start of a reference. -/
theorem escapeValue_exact (escapeBraces : Bool) :
    (∀ value, escapeValue escapeBraces value = value.flatMap (escapedChar escapeBraces)) ∧
      (∀ front back, escapeValue escapeBraces (front ++ back) =
        escapeValue escapeBraces front ++ escapeValue escapeBraces back) ∧
      Function.Injective (escapeValue escapeBraces) ∧
      (∀ value, unescape escapeBraces (escapeValue escapeBraces value) = value) ∧
      ∀ value back, '&' :: back <:+ escapeValue escapeBraces value →
        ∃ entry ∈ escapes escapeBraces, entry.2 <+: '&' :: back := by
  refine ⟨escapeValue_eq_flatMap escapeBraces, ?_, ?_, unescape_escapeValue escapeBraces,
    fun _ _ => exists_reference_of_suffix⟩
  · intro front back
    rw [escapeValue_eq_flatMap, escapeValue_eq_flatMap, escapeValue_eq_flatMap, List.flatMap_append]
  · exact Function.LeftInverse.injective (unescape_escapeValue escapeBraces)

/-- A value that looks escaped already. -/
theorem escapeValue_exact_escaped :
    escapeValue true "&lt;\x7b".toList = "&amp;lt;&#123;".toList ∧
      unescape true "&amp;lt;&#123;".toList = "&lt;\x7b".toList ∧
      ∃ entry ∈ escapes true, entry.2 <+: "&#123;".toList := by
  obtain ⟨hvalue, -, -, hback, hbegins⟩ := escapeValue_exact true
  have hescaped : escapeValue true "&lt;\x7b".toList = "&amp;lt;&#123;".toList := hvalue _
  have hsuffix : "&#123;".toList <:+ escapeValue true "&lt;\x7b".toList :=
    hescaped ▸ ⟨"&amp;lt;".toList, rfl⟩
  exact ⟨hescaped, hescaped ▸ hback "&lt;\x7b".toList, hbegins _ _ hsuffix⟩

end FormLetter
