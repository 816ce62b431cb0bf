import FormLetter.Condition.Parser
import FormLetter.Proofs.Text.Cutting
import Mathlib.Data.List.Infix

/-!
# Cutting a condition at its conjunctions

A condition is cut at the words `and`, in any case, and `&&` between blanks, wherever they stand: a
literal between quotes is cut like everything else.

* `HoldsConjunction`: such a word stands in a text between two blanks.
* `Condition.not_holdsConjunction_of_mem`: no piece of a condition holds a conjunction.
* `Condition.IsOperand`: the texts that a conjunction may join.
* `Condition.splitConjunctions_joinWith`: operands that are joined are cut apart again.
* `Condition.parse_joinWith`: a condition that is decoded to joined operands.
-/

namespace FormLetter

open Text

/-! ## Conjunctions -/

/-- A word that joins two tests. -/
def IsConjunction (word : Text) : Prop :=
  word = ['&', '&'] ∨ word.map Char.toLower = ['a', 'n', 'd']

/-- Whether a word that joins two tests stands in a text between two blanks. -/
def HoldsConjunction (text : Text) : Prop :=
  ∃ front left word right back, isBlank left = true ∧ IsConjunction word ∧ isBlank right = true ∧
    text = front ++ left :: (word ++ right :: back)

theorem toLower_of_isBlank {c : Char} (h : isBlank c = true) : c.toLower = c := by
  unfold Char.toLower
  split
  · rename_i hupper
    have hc : c.isUpper = true := decide_eq_true hupper
    have hword : isWordChar c = true := by
      show (c.isUpper || c.isLower || c.isDigit || c == '_') = true
      rw [hc]
      rfl
    rw [isBlank_of_isWordChar hword] at h
    cases h
  · rfl

theorem IsConjunction.mem_cases {word : Text} (h : IsConjunction word) {c : Char} (hc : c ∈ word) :
    c = '&' ∨ c.toLower ∈ ['a', 'n', 'd'] := by
  rcases h with rfl | h
  · exact Or.inl (by simpa using hc)
  · rw [← h]
    exact Or.inr (List.mem_map_of_mem hc)

theorem IsConjunction.isBlank_of_mem {word : Text} (h : IsConjunction word) {c : Char}
    (hc : c ∈ word) : isBlank c = false := by
  rw [← Bool.not_eq_true]
  intro hblank
  rcases h.mem_cases hc with rfl | hmem
  · exact absurd hblank (by decide)
  · rw [toLower_of_isBlank hblank] at hmem
    have hletters : ['a', 'n', 'd'].any isBlank = false := by decide
    exact List.any_eq_false.1 hletters c hmem hblank

theorem IsConjunction.ne_nil {word : Text} (h : IsConjunction word) : word ≠ [] := by
  rintro rfl
  rcases h with h | h <;> cases h

theorem afterWord_eq_some_iff {text rest : Text} :
    (afterAnd? text).or (after? ['&', '&'] text) = some rest ↔
      ∃ word, IsConjunction word ∧ text = word ++ rest := by
  constructor
  · intro h
    rcases Option.or_eq_some_iff.1 h with h | ⟨-, h⟩
    · unfold afterAnd? at h
      split at h
      · rename_i a n d more _
        obtain ⟨hword, hrest⟩ := Option.ite_none_right_eq_some.1 h
        obtain rfl := Option.some.inj hrest
        exact ⟨[a, n, d], Or.inr hword, rfl⟩
      · cases h
    · exact ⟨['&', '&'], Or.inl rfl, after?_eq_some_iff.1 h⟩
  · rintro ⟨word, rfl | hword, rfl⟩
    · have hand : afterAnd? ('&' :: '&' :: rest) = none := by
        cases rest with
        | nil => rfl
        | cons c more =>
          unfold afterAnd?
          exact if_neg (by simp)
      show (afterAnd? ('&' :: '&' :: rest)).or (after? ['&', '&'] ('&' :: '&' :: rest)) = some rest
      rw [hand, Option.none_or]
      exact after?_eq_some_iff.2 rfl
    · obtain ⟨a, word, rfl, ha, hword⟩ := List.map_eq_cons_iff.1 hword
      obtain ⟨n, word, rfl, hn, hword⟩ := List.map_eq_cons_iff.1 hword
      obtain ⟨d, word, rfl, hd, hword⟩ := List.map_eq_cons_iff.1 hword
      obtain rfl := List.map_eq_nil_iff.1 hword
      have hand : afterAnd? (a :: n :: d :: rest) = some rest := if_pos (by rw [ha, hn, hd])
      show (afterAnd? (a :: n :: d :: rest)).or _ = some rest
      rw [hand, Option.some_or]

/-- A conjunction in front of a text is found. -/
theorem afterConjunction?_append {left right : Char} {word : Text} (hl : isBlank left = true)
    (hw : IsConjunction word) (hr : isBlank right = true) (back : Text) :
    afterConjunction? (left :: (word ++ right :: back)) = some (stripLeft back) := by
  have hblanks : afterBlanks? (left :: (word ++ right :: back)) = some (word ++ right :: back) := by
    have hword : stripLeft (word ++ right :: back) = word ++ right :: back := by
      apply stripLeft_eq_self
      intro c hc
      obtain ⟨d, more, rfl⟩ := List.exists_cons_of_ne_nil hw.ne_nil
      obtain rfl : d = c := by simpa using hc
      exact hw.isBlank_of_mem List.mem_cons_self
    rw [afterBlanks?, if_pos hl, hword]
  have hafter : afterBlanks? (right :: back) = some (stripLeft back) := by
    rw [afterBlanks?, if_pos hr]
  unfold afterConjunction?
  rw [hblanks]
  simp only [Option.bind_eq_bind, Option.bind_some]
  rw [afterWord_eq_some_iff.2 ⟨word, hw, rfl⟩, Option.bind_some, hafter]

/-- What is found in front of a text is a conjunction behind blanks. -/
theorem exists_of_afterConjunction? {text rest : Text} (h : afterConjunction? text = some rest) :
    ∃ blanks left word right back, isAllBlank blanks = true ∧ isBlank left = true ∧
      IsConjunction word ∧ isBlank right = true ∧
        text = blanks ++ left :: (word ++ right :: back) := by
  unfold afterConjunction? at h
  obtain ⟨behind, hblanks, hbind⟩ := Option.bind_eq_some_iff.1 h
  obtain ⟨middle, hword, hafter⟩ := Option.bind_eq_some_iff.1 hbind
  obtain ⟨word, hw, hbehind⟩ := afterWord_eq_some_iff.1 hword
  obtain ⟨right, back, hr, hmiddle⟩ : ∃ right back, isBlank right = true ∧ middle = right :: back := by
    cases middle with
    | nil => cases hafter
    | cons right back => exact ⟨right, back, (Option.ite_none_right_eq_some.1 hafter).1, rfl⟩
  cases text with
  | nil => cases hblanks
  | cons c more =>
    obtain ⟨hc, hstrip⟩ := Option.ite_none_right_eq_some.1 hblanks
    obtain ⟨front, hf, hmore⟩ := exists_stripLeft more
    have htext : c :: more = (c :: front) ++ word ++ right :: back := by
      rw [hmore, Option.some.inj hstrip, hbehind, hmiddle]
      simp
    obtain ⟨blanks, left, hlast⟩ := List.eq_nil_or_concat (c :: front) |>.resolve_left (by simp)
    have hall : ∀ d ∈ blanks ++ [left], isBlank d = true := by
      intro d hd
      rw [← List.concat_eq_append, ← hlast] at hd
      rcases List.mem_cons.1 hd with rfl | hd
      · exact hc
      · exact List.all_eq_true.1 hf d hd
    refine ⟨blanks, left, word, right, back, ?_, ?_, hw, hr, ?_⟩
    · exact List.all_eq_true.2 fun d hd => hall d (List.mem_append_left _ hd)
    · exact hall left (List.mem_append_right _ List.mem_cons_self)
    · rw [htext, hlast]
      simp

theorem holdsConjunction_iff {text : Text} :
    HoldsConjunction text ↔ ∃ tail ∈ text.tails, (afterConjunction? tail).isSome = true := by
  constructor
  · rintro ⟨front, left, word, right, back, hl, hw, hr, rfl⟩
    refine ⟨_, (List.mem_tails _ _).2 (List.suffix_append front _), ?_⟩
    rw [afterConjunction?_append hl hw hr]
    rfl
  · rintro ⟨tail, htail, hsome⟩
    obtain ⟨rest, hrest⟩ := Option.isSome_iff_exists.1 hsome
    obtain ⟨blanks, left, word, right, back, -, hl, hw, hr, rfl⟩ := exists_of_afterConjunction? hrest
    obtain ⟨front, rfl⟩ := (List.mem_tails _ _).1 htail
    exact ⟨front ++ blanks, left, word, right, back, hl, hw, hr, by simp⟩

instance (text : Text) : Decidable (HoldsConjunction text) :=
  decidable_of_iff _ holdsConjunction_iff.symm

theorem afterConjunction?_eq_none {text : Text} (h : ¬ HoldsConjunction text) :
    afterConjunction? text = none := by
  rw [← Option.not_isSome_iff_eq_none]
  intro hsome
  exact h (holdsConjunction_iff.2 ⟨text, (List.mem_tails _ _).2 (List.suffix_refl text), hsome⟩)

theorem HoldsConjunction.append {text : Text} (h : HoldsConjunction text) (front back : Text) :
    HoldsConjunction (front ++ text ++ back) := by
  obtain ⟨before, left, word, right, behind, hl, hw, hr, rfl⟩ := h
  refine ⟨front ++ before, left, word, right, behind ++ back, hl, hw, hr, ?_⟩
  simp

/-- A conjunction in a text stands in front of it or behind its first character. -/
theorem HoldsConjunction.cons_cases {c : Char} {rest : Text} (h : HoldsConjunction (c :: rest)) :
    (∀ back, (afterConjunction? (c :: (rest ++ back))).isSome = true) ∨ HoldsConjunction rest := by
  obtain ⟨front, left, word, right, behind, hl, hw, hr, he⟩ := h
  cases front with
  | nil =>
    refine Or.inl fun back => ?_
    have hfound := afterConjunction?_append hl hw hr (behind ++ back)
    have htext : c :: (rest ++ back) = left :: (word ++ right :: (behind ++ back)) := by
      obtain ⟨rfl, rfl⟩ := List.cons.inj he
      simp
    rw [htext, hfound]
    rfl
  | cons d front =>
    obtain ⟨rfl, rfl⟩ := List.cons.inj he
    exact Or.inr ⟨front, left, word, right, behind, hl, hw, hr, rfl⟩

/-- A conjunction needs two blanks. -/
theorem not_holdsConjunction_of_countP {text : Text} (h : text.countP isBlank < 2) :
    ¬ HoldsConjunction text := by
  rintro ⟨front, left, word, right, back, hl, hw, hr, rfl⟩
  rw [List.countP_append, List.countP_cons_of_pos hl, List.countP_append,
    List.countP_cons_of_pos hr] at h
  omega

/-- A character that is no blank and in no word parts the conjunctions of a text. -/
theorem HoldsConjunction.of_append_cons {front back : Text} {c : Char} (hc : isBlank c = false)
    (hword : ∀ word, IsConjunction word → c ∉ word) (h : HoldsConjunction (front ++ c :: back)) :
    HoldsConjunction front ∨ HoldsConjunction back := by
  obtain ⟨before, left, word, right, behind, hl, hw, hr, he⟩ := h
  have hnot : c ∉ left :: (word ++ [right]) := by
    intro hmem
    rcases List.mem_cons.1 hmem with rfl | hmem
    · exact Bool.false_ne_true (hc.symm.trans hl)
    · rcases List.mem_append.1 hmem with hmem | hmem
      · exact hword word hw hmem
      · rw [List.mem_singleton.1 hmem] at hc
        exact Bool.false_ne_true (hc.symm.trans hr)
  have hcut : front ++ c :: back = before ++ ((left :: (word ++ [right])) ++ behind) := by
    rw [he]
    simp
  rcases List.append_eq_append_iff.1 hcut with ⟨extra, rfl, hback⟩ | ⟨extra, rfl, hcore⟩
  · cases extra with
    | nil =>
      obtain ⟨rfl, -⟩ := List.cons.inj hback
      exact absurd List.mem_cons_self hnot
    | cons d extra =>
      obtain ⟨rfl, rfl⟩ := List.cons.inj hback
      exact Or.inr ⟨extra, left, word, right, behind, hl, hw, hr, by simp⟩
  · rcases List.append_eq_append_iff.1 hcore with ⟨rest, rfl, -⟩ | ⟨rest, hinside, hrest⟩
    · exact Or.inl ⟨before, left, word, right, rest, hl, hw, hr, by simp⟩
    · cases rest with
      | nil =>
        rw [List.append_nil] at hinside
        exact Or.inl ⟨before, left, word, right, [], hl, hw, hr, by rw [← hinside]⟩
      | cons d rest =>
        obtain ⟨rfl, -⟩ := List.cons.inj hrest
        rw [hinside] at hnot
        exact absurd (List.mem_append_right _ List.mem_cons_self) hnot

/-! ## Pieces -/

namespace Condition

theorem splitConjunctions_nil : splitConjunctions [] = [[]] := by
  rw [splitConjunctions]

theorem splitConjunctions_of_eq_some {text rest : Text} (h : afterConjunction? text = some rest) :
    splitConjunctions text = [] :: splitConjunctions rest := by
  cases text with
  | nil => cases h
  | cons c more =>
    rw [splitConjunctions]
    split
    · rename_i tail htail
      rw [h] at htail
      rw [Option.some.inj htail]
    · rename_i hnone
      rw [h] at hnone
      cases hnone

theorem splitConjunctions_ne_nil (text : Text) : splitConjunctions text ≠ [] := by
  cases text with
  | nil =>
    rw [splitConjunctions_nil]
    exact List.cons_ne_nil _ _
  | cons c rest =>
    rw [splitConjunctions]
    split
    · exact List.cons_ne_nil _ _
    · split <;> exact List.cons_ne_nil _ _

/-- A character that no conjunction starts at belongs to the piece in front. -/
theorem splitConjunctions_of_eq_none {c : Char} {rest : Text}
    (h : afterConjunction? (c :: rest) = none) :
    splitConjunctions (c :: rest) = (splitConjunctions rest).modifyHead (c :: ·) := by
  rw [splitConjunctions]
  split
  · rename_i tail htail
    rw [h] at htail
    cases htail
  · cases hpieces : splitConjunctions rest with
    | nil => exact absurd hpieces (splitConjunctions_ne_nil rest)
    | cons piece pieces => rfl

/-- The piece in front of all others is the front of the text. -/
theorem exists_splitConjunctions (text : Text) :
    ∃ piece pieces back, splitConjunctions text = piece :: pieces ∧ text = piece ++ back := by
  fun_induction splitConjunctions text with
  | case1 => exact ⟨[], [], [], rfl, rfl⟩
  | case2 c rest => exact ⟨[], _, c :: rest, rfl, rfl⟩
  | case3 c rest _ hpieces => exact absurd hpieces (splitConjunctions_ne_nil rest)
  | case4 c rest _ piece pieces hpieces ih =>
    obtain ⟨first, others, back, hsplit, hrest⟩ := ih
    obtain ⟨rfl, rfl⟩ := List.cons.inj (hpieces.symm.trans hsplit)
    exact ⟨c :: piece, pieces, back, rfl, congrArg (c :: ·) hrest⟩

theorem not_holdsConjunction_nil : ¬ HoldsConjunction [] := by
  rintro ⟨front, left, word, right, back, -, -, -, he⟩
  exact absurd he (by simp)

/-- No piece of a condition holds a conjunction. -/
theorem not_holdsConjunction_of_mem {text piece : Text} (h : piece ∈ splitConjunctions text) :
    ¬ HoldsConjunction piece := by
  fun_induction splitConjunctions text generalizing piece with
  | case1 =>
    rw [List.mem_singleton.1 h]
    exact not_holdsConjunction_nil
  | case2 c rest tail _ ih =>
    rcases List.mem_cons.1 h with rfl | h
    · exact not_holdsConjunction_nil
    · exact ih h
  | case3 c rest _ hpieces => exact absurd hpieces (splitConjunctions_ne_nil rest)
  | case4 c rest hnone first pieces hpieces ih =>
    rcases List.mem_cons.1 h with rfl | h
    · intro hconjunction
      obtain ⟨_, _, back, hsplit, hrest⟩ := exists_splitConjunctions rest
      obtain ⟨rfl, -⟩ := List.cons.inj (hpieces.symm.trans hsplit)
      rcases hconjunction.cons_cases with hfound | hfirst
      · have hsome := hfound back
        rw [← hrest, hnone] at hsome
        cases hsome
      · exact ih (by rw [hpieces]; exact List.mem_cons_self) hfirst
    · exact ih (by rw [hpieces]; exact List.mem_cons_of_mem _ h)

theorem splitConjunctions_of_not {text : Text} (h : ¬ HoldsConjunction text) :
    splitConjunctions text = [text] := by
  induction text with
  | nil => exact splitConjunctions_nil
  | cons c rest ih =>
    have hrest : ¬ HoldsConjunction rest := by
      intro hrest
      have := hrest.append [c] []
      rw [List.append_nil] at this
      exact h this
    rw [splitConjunctions_of_eq_none (afterConjunction?_eq_none h), ih hrest]
    rfl

/-- No conjunction starts in a text that ends in another character than a blank, if none is
completed by the blank that follows. -/
theorem afterConjunction?_append_eq_none {front : Text} {blank : Char} (hne : front ≠ [])
    (hl : ∀ c ∈ front.getLast?, isBlank c = false) (hb : isBlank blank = true)
    (hf : ¬ HoldsConjunction (front ++ [blank])) (back : Text) :
    afterConjunction? (front ++ blank :: back) = none := by
  rw [Option.eq_none_iff_forall_ne_some]
  intro rest hrest
  obtain ⟨blanks, left, word, right, behind, hblanks, hleft, hw, hr, he⟩ :=
    exists_of_afterConjunction? hrest
  have hcut : (front ++ [blank]) ++ back = (blanks ++ left :: (word ++ [right])) ++ behind := by
    simpa using he
  rcases List.append_eq_append_iff.1 hcut with ⟨extra, hlong, -⟩ | ⟨extra, hshort, -⟩
  · rcases List.eq_nil_or_concat extra with rfl | ⟨more, last, rfl⟩
    · exact hf ⟨blanks, left, word, right, [], hleft, hw, hr, by simpa using hlong.symm⟩
    · -- The blank behind the text stands in front of the word or inside it.
      have hword : (blanks ++ [left]) ++ word = front ++ blank :: more := by
        have hconcat : ((blanks ++ [left]) ++ word) ++ [right] = (front ++ blank :: more) ++ [last] := by
          simpa using hlong
        exact (List.append_inj' hconcat rfl).1
      rcases List.append_eq_append_iff.1 hword with ⟨inner, -, hinside⟩ | ⟨inner, hinside, -⟩
      · have hmem : blank ∈ word := by
          rw [hinside]
          exact List.mem_append_right _ List.mem_cons_self
        rw [hw.isBlank_of_mem hmem] at hb
        cases hb
      · have hlast := List.getLast?_eq_some_getLast hne
        have hmem : front.getLast hne ∈ blanks ++ [left] := by
          rw [hinside]
          exact List.mem_append_left _ (List.getLast_mem hne)
        have hblank : isBlank (front.getLast hne) = true := by
          rcases List.mem_append.1 hmem with hmem | hmem
          · exact List.all_eq_true.1 hblanks _ hmem
          · rw [List.mem_singleton.1 hmem]
            exact hleft
        rw [hl _ hlast] at hblank
        cases hblank
  · exact hf ⟨blanks, left, word, right, extra, hleft, hw, hr, by simpa using hshort⟩

/-- What stands in front of a blank and is no conjunction belongs to the piece in front. -/
theorem splitConjunctions_append {front : Text} {blank : Char} (hb : isBlank blank = true)
    (hl : ∀ c ∈ front.getLast?, isBlank c = false) (hf : ¬ HoldsConjunction (front ++ [blank]))
    (back : Text) :
    splitConjunctions (front ++ blank :: back) =
      (splitConjunctions (blank :: back)).modifyHead (front ++ ·) := by
  induction front with
  | nil =>
    obtain ⟨piece, pieces, _, hsplit, -⟩ := exists_splitConjunctions (blank :: back)
    rw [List.nil_append, hsplit]
    rfl
  | cons c front ih =>
    have hlast : ∀ d ∈ front.getLast?, isBlank d = false := by
      intro d hd
      apply hl
      rw [List.getLast?_cons, hd]
      rfl
    have hrest : ¬ HoldsConjunction (front ++ [blank]) := by
      intro h
      have := h.append [c] []
      rw [List.append_nil] at this
      exact hf this
    have hnone : afterConjunction? (c :: (front ++ blank :: back)) = none :=
      afterConjunction?_append_eq_none (List.cons_ne_nil c front) hl hb hf back
    rw [List.cons_append, splitConjunctions_of_eq_none hnone, ih hlast hrest,
      List.modifyHead_modifyHead]
    rfl

/-! ## Operands -/

/-- A text without blanks at its ends is left as it is. -/
theorem strip_eq_self {text : Text} (hleft : stripLeft text = text) (hright : EndsSolid text) :
    strip text = text := by
  obtain ⟨front, c, rfl, hc⟩ := hright
  rw [strip, hleft]
  refine stripRight_eq_self fun d hd => ?_
  rw [List.getLast?_concat] at hd
  rwa [← Option.some.inj hd]

/-- A text that a conjunction may join: it has no blanks at its ends, and neither it nor a blank
behind it makes a conjunction. -/
structure IsOperand (text : Text) : Prop where
  /-- It starts with another character than a blank. -/
  head : ∀ c ∈ text.head?, isBlank c = false
  /-- It ends in another character than a blank. -/
  endsSolid : EndsSolid text
  /-- No conjunction stands in it or ends at a blank behind it. -/
  whole : ¬ HoldsConjunction (text ++ [' '])

namespace IsOperand

variable {text : Text}

theorem ne_nil (h : IsOperand text) : text ≠ [] := by
  obtain ⟨front, c, rfl, -⟩ := h.endsSolid
  exact List.append_ne_nil_of_right_ne_nil _ (List.cons_ne_nil _ _)

theorem last (h : IsOperand text) : ∀ c ∈ text.getLast?, isBlank c = false := by
  obtain ⟨front, d, rfl, hd⟩ := h.endsSolid
  intro c hc
  obtain rfl : d = c := by simpa using hc
  exact hd

theorem not_holdsConjunction (h : IsOperand text) : ¬ HoldsConjunction text :=
  fun hholds => h.whole (hholds.append [] [' '])

theorem stripLeft_append (h : IsOperand text) (back : Text) :
    stripLeft (text ++ back) = text ++ back := by
  obtain ⟨d, rest, rfl⟩ := List.exists_cons_of_ne_nil h.ne_nil
  exact stripLeft_eq_self fun c hc => h.head c hc

theorem strip_eq (h : IsOperand text) : strip text = text := by
  have hleft := h.stripLeft_append []
  rw [List.append_nil] at hleft
  exact strip_eq_self hleft h.endsSolid

/-- A text without blanks is an operand. -/
theorem of_any (hne : text ≠ []) (h : text.any isBlank = false) : IsOperand text := by
  have hall := List.any_eq_false.1 h
  refine ⟨?_, endsSolid_of_any hne h, not_holdsConjunction_of_countP ?_⟩
  · intro c hc
    exact Bool.not_eq_true _ ▸ hall c (List.mem_of_mem_head? hc)
  · rw [List.countP_append, List.countP_eq_zero.2 hall]
    decide

end IsOperand

section

variable {texts : List Text}

/-- Joined operands have no blanks at their ends. -/
theorem strip_joinWith (hne : texts ≠ []) (h : ∀ text ∈ texts, IsOperand text) :
    stripLeft (joinWith " and ".toList texts) = joinWith " and ".toList texts ∧
      EndsSolid (joinWith " and ".toList texts) := by
  induction texts with
  | nil => exact absurd rfl hne
  | cons text texts ih =>
    obtain ⟨htext, htexts⟩ := List.forall_mem_cons.1 h
    cases texts with
    | nil =>
      have hleft := htext.stripLeft_append []
      rw [List.append_nil] at hleft
      exact ⟨hleft, htext.endsSolid⟩
    | cons next texts =>
      obtain ⟨-, hright⟩ := ih (List.cons_ne_nil _ _) htexts
      rw [joinWith_cons _ _ (List.cons_ne_nil _ _), List.append_assoc]
      exact ⟨htext.stripLeft_append _, (hright.append _).append _⟩

theorem afterConjunction?_and (back : Text) :
    afterConjunction? (" and ".toList ++ back) = some (stripLeft back) :=
  have hand : IsConjunction ['a', 'n', 'd'] := Or.inr (by decide)
  afterConjunction?_append (by decide) hand (by decide) back

/-- Operands that are joined are cut apart again. -/
theorem splitConjunctions_joinWith (hne : texts ≠ []) (h : ∀ text ∈ texts, IsOperand text) :
    splitConjunctions (joinWith " and ".toList texts) = texts := by
  induction texts with
  | nil => exact absurd rfl hne
  | cons text texts ih =>
    obtain ⟨htext, htexts⟩ := List.forall_mem_cons.1 h
    cases texts with
    | nil => exact splitConjunctions_of_not htext.not_holdsConjunction
    | cons next texts =>
      have hne' := List.cons_ne_nil next texts
      have hfound := afterConjunction?_and (joinWith " and ".toList (next :: texts))
      rw [(strip_joinWith hne' htexts).1] at hfound
      have hsplit : splitConjunctions (text ++ (" and ".toList ++
          joinWith " and ".toList (next :: texts))) = _ :=
        splitConjunctions_append (by decide) htext.last htext.whole _
      rw [joinWith_cons _ _ hne', List.append_assoc, hsplit]
      show (splitConjunctions (" and ".toList ++ _)).modifyHead _ = _
      rw [splitConjunctions_of_eq_some hfound, ih hne' htexts]
      show (text ++ []) :: next :: texts = _
      rw [List.append_nil]

/-- A condition that is decoded to joined operands is read as their conjunction. -/
theorem parse_joinWith (hne : texts ≠ []) (h : ∀ text ∈ texts, IsOperand text) {text : Text}
    (hd : decode text = joinWith " and ".toList texts) :
    Condition.parse text = .ofAtoms (texts.map Atom.parse) := by
  obtain ⟨hleft, hright⟩ := strip_joinWith hne h
  rw [Condition.parse, hd, strip_eq_self hleft hright, splitConjunctions_joinWith hne h]

end

end Condition

end FormLetter
