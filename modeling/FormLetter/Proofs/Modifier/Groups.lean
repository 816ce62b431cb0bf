import FormLetter.Modifier.Phone
import FormLetter.Proofs.Text.Numeral
import Mathlib.Algebra.Ring.Nat

/-!
# Groups of digits

A phone pattern says which digits of a value stand where. It is read from the left, a percent sign
with a digit from 1 to 9 behind it as a group of that many digits and every other character on its
own; the groups then take the digits in order, and no digit is dropped between them or taken twice.

* `PhoneReading`: the items that a pattern is read as.
* `phoneReading_iff`: every pattern is read in exactly one way.
* `LaidOut`: digits in groups of given sizes, as far as they go.
* `placed`: groups put in their places among the characters of a pattern.
* `formatPhone_laidOut`: the digits of a value are laid out in the groups of the pattern.
-/

namespace FormLetter

/-! ## Reading a pattern -/

/-- The items that a pattern is read as from the left. -/
inductive PhoneReading : Text → List PhoneItem → Prop
  /-- Nothing is left. -/
  | nil : PhoneReading [] []
  /-- A group in front. -/
  | group {size : Nat} {pattern : Text} {items : List PhoneItem} (positive : 1 ≤ size)
      (le_nine : size ≤ 9) (behind : PhoneReading pattern items) :
      PhoneReading ('%' :: Nat.digitChar size :: pattern) (.group size :: items)
  /-- A character in front with which no group starts. -/
  | single {c : Char} {pattern : Text} {items : List PhoneItem}
      (lone : c = '%' → ∀ size, 1 ≤ size → size ≤ 9 → pattern.head? ≠ some (Nat.digitChar size))
      (behind : PhoneReading pattern items) :
      PhoneReading (c :: pattern) (.single c :: items)

theorem groupSize?_eq_some_iff {c : Char} {size : Nat} :
    groupSize? c = some size ↔ 1 ≤ size ∧ size ≤ 9 ∧ c = Nat.digitChar size := by
  unfold groupSize?
  constructor
  · intro h
    simp only [Option.ite_none_right_eq_some, Option.some.injEq] at h
    obtain ⟨⟨hlow, hhigh⟩, rfl⟩ := h
    have hone : '1'.toNat ≤ c.toNat := hlow
    have hnine : c.toNat ≤ '9'.toNat := hhigh
    obtain ⟨n, hn, rfl⟩ := Text.exists_digitChar
      (Char.isDigit_iff_toNat.2 ⟨Nat.le_trans (by decide) hone, hnine⟩)
    rw [Nat.toNat_digitChar_of_lt_ten hn] at hone ⊢
    have hvalue : 48 + n - 0x30 = n := by omega
    rw [hvalue]
    exact ⟨Nat.le_of_add_le_add_left hone, by omega, rfl⟩
  · rintro ⟨hlow, hhigh, rfl⟩
    have hn : (Nat.digitChar size).toNat = 48 + size := Nat.toNat_digitChar_of_lt_ten (by omega)
    have hone : '1' ≤ Nat.digitChar size := by
      show '1'.toNat ≤ (Nat.digitChar size).toNat
      rw [hn]
      exact Nat.add_le_add_left hlow 48
    have hnine : Nat.digitChar size ≤ '9' := by
      show (Nat.digitChar size).toNat ≤ '9'.toNat
      rw [hn]
      exact Nat.add_le_add_left hhigh 48
    rw [if_pos ⟨hone, hnine⟩, hn]
    simp

theorem phoneReading_phoneItems (pattern : Text) : PhoneReading pattern (phoneItems pattern) := by
  fun_induction phoneItems pattern with
  | case1 => exact .nil
  | case2 c pattern size hsize ih =>
    obtain ⟨positive, le_nine, rfl⟩ := groupSize?_eq_some_iff.1 hsize
    exact .group positive le_nine ih
  | case3 c pattern hnone ih =>
    refine .single (fun _ size positive le_nine hhead => ?_) ih
    rw [groupSize?_eq_some_iff.2 ⟨positive, le_nine, Option.some.inj hhead⟩] at hnone
    cases hnone
  | case4 c pattern hlone ih =>
    refine .single (fun hc size _ _ hhead => ?_) ih
    obtain ⟨tail, rfl⟩ := List.head?_eq_some_iff.1 hhead
    exact hlone _ _ hc rfl

/-- Every pattern is read in exactly one way. -/
theorem phoneReading_iff {pattern : Text} {items : List PhoneItem} :
    PhoneReading pattern items ↔ items = phoneItems pattern := by
  constructor
  · intro h
    induction h with
    | nil => rfl
    | group positive le_nine _ ih =>
      rw [phoneItems, groupSize?_eq_some_iff.2 ⟨positive, le_nine, rfl⟩, ih]
    | @single c pattern items lone _ ih =>
      rw [ih]
      by_cases hc : c = '%'
      · subst hc
        cases pattern with
        | nil => rfl
        | cons d pattern =>
          have hnone : groupSize? d = none := by
            refine Option.eq_none_iff_forall_not_mem.2 fun size hsize => ?_
            obtain ⟨positive, le_nine, rfl⟩ := groupSize?_eq_some_iff.1 hsize
            exact lone rfl size positive le_nine rfl
          rw [phoneItems, hnone]
      · rw [phoneItems]
        exact fun _ _ h _ => hc h
  · rintro rfl
    exact phoneReading_phoneItems pattern

/-! ## Laying out -/

/-- The sizes of the groups among items. -/
def groupSizes (items : List PhoneItem) : List Nat :=
  items.filterMap fun
    | .group size => some size
    | .single _ => none

/-- Groups put in their places among single characters. -/
def placed : List PhoneItem → List Text → Text
  | [], _ => []
  | .single c :: items, groups => c :: placed items groups
  | .group _ :: items, [] => placed items []
  | .group _ :: items, group :: groups => group ++ placed items groups

/-- Digits cut into groups of the given sizes. -/
def cutGroups (digits : Text) : List Nat → List Text
  | [] => []
  | size :: sizes => digits.take size :: cutGroups (digits.drop size) sizes

/-- Digits in groups of the given sizes: none is dropped or repeated, and every group is full until
the digits run out; the group where they do holds the rest, and those behind it are empty. -/
structure LaidOut (digits : Text) (sizes : List Nat) (groups : List Text) : Prop where
  /-- There is a group for each size. -/
  length_eq : groups.length = sizes.length
  /-- The groups hold the first digits, in order. -/
  flatten_eq : groups.flatten = digits.take (min digits.length sizes.sum)
  /-- A group is full as long as there are digits for it. -/
  full : ∀ k size group, sizes[k]? = some size → groups[k]? = some group →
    (sizes.take k).sum + size ≤ digits.length → group.length = size
  /-- Otherwise it holds what remains, -/
  remainder : ∀ k size group, sizes[k]? = some size → groups[k]? = some group →
    digits.length < (sizes.take k).sum + size → group = digits.drop (sizes.take k).sum
  /-- and the groups behind it are empty. -/
  exhausted : ∀ k size, sizes[k]? = some size →
    digits.length < (sizes.take k).sum + size → ∀ group ∈ groups.drop (k + 1), group = []

theorem layDigits_eq_placed (digits : Text) (items : List PhoneItem) :
    layDigits digits items = placed items (cutGroups digits (groupSizes items)) := by
  induction items generalizing digits with
  | nil => rfl
  | cons item items ih =>
    cases item with
    | group size => exact congrArg (digits.take size ++ ·) (ih (digits.drop size))
    | single c => exact congrArg (c :: ·) (ih digits)

theorem length_cutGroups (digits : Text) (sizes : List Nat) :
    (cutGroups digits sizes).length = sizes.length := by
  induction sizes generalizing digits with
  | nil => rfl
  | cons size sizes ih => rw [cutGroups, List.length_cons, List.length_cons, ih]

theorem flatten_cutGroups (digits : Text) (sizes : List Nat) :
    (cutGroups digits sizes).flatten = digits.take sizes.sum := by
  induction sizes generalizing digits with
  | nil => rfl
  | cons size sizes ih => rw [cutGroups, List.flatten_cons, ih, List.sum_cons, List.take_add]

/-- A group holds the digits behind those that the groups in front take. -/
theorem getElem?_cutGroups (digits : Text) (sizes : List Nat) (k : Nat) :
    (cutGroups digits sizes)[k]? =
      sizes[k]?.map fun size => (digits.drop (sizes.take k).sum).take size := by
  induction sizes generalizing digits k with
  | nil => rfl
  | cons size sizes ih =>
    cases k with
    | zero => rfl
    | succ k =>
      rw [cutGroups, List.getElem?_cons_succ, List.getElem?_cons_succ, ih, List.take_succ_cons,
        List.sum_cons]
      simp only [List.drop_drop]

theorem sum_take_succ {sizes : List Nat} {k size : Nat} (h : sizes[k]? = some size) :
    (sizes.take (k + 1)).sum = (sizes.take k).sum + size := by
  rw [List.take_add_one, h, List.sum_append]
  rfl

theorem sum_take_le_add (sizes : List Nat) (k l : Nat) :
    (sizes.take k).sum ≤ (sizes.take (k + l)).sum := by
  rw [List.take_add, List.sum_append]
  exact Nat.le_add_right _ _

theorem laidOut_cutGroups (digits : Text) (sizes : List Nat) :
    LaidOut digits sizes (cutGroups digits sizes) := by
  have hgroup {k size : Nat} {group : Text} (hsize : sizes[k]? = some size)
      (hcut : (cutGroups digits sizes)[k]? = some group) :
      group = (digits.drop (sizes.take k).sum).take size := by
    rw [getElem?_cutGroups, hsize] at hcut
    exact (Option.some.inj hcut).symm
  refine ⟨length_cutGroups digits sizes, ?_, ?_, ?_, ?_⟩
  · rw [flatten_cutGroups, List.take_eq_take_min, Nat.min_comm]
  · intro k size group hsize hcut henough
    rw [hgroup hsize hcut, List.length_take, List.length_drop]
    omega
  · intro k size group hsize hcut hshort
    rw [hgroup hsize hcut, List.take_of_length_le]
    rw [List.length_drop]
    omega
  · intro k size hsize hshort group hmem
    obtain ⟨i, hi⟩ := List.mem_iff_getElem?.1 hmem
    rw [List.getElem?_drop, getElem?_cutGroups] at hi
    obtain ⟨later, -, rfl⟩ := Option.map_eq_some_iff.1 hi
    have hpast : digits.length ≤ (sizes.take (k + 1 + i)).sum := by
      have hmono := sum_take_le_add sizes (k + 1) i
      rw [sum_take_succ hsize] at hmono
      omega
    rw [List.drop_of_length_le hpast, List.take_nil]

/-- **No digit is dropped or repeated.** A pattern is read in one way only, and the digits of a value
are laid out in its groups, each group in its place among the other characters of the pattern. -/
theorem formatPhone_laidOut (pattern value : Text) :
    ∃ items, (∀ other, PhoneReading pattern other ↔ other = items) ∧
      ∃ groups, LaidOut (value.filter Char.isDigit) (groupSizes items) groups ∧
        formatPhone pattern value = placed items groups :=
  ⟨phoneItems pattern, fun _ => phoneReading_iff,
    cutGroups (value.filter Char.isDigit) (groupSizes (phoneItems pattern)),
    laidOut_cutGroups _ _, layDigits_eq_placed _ _⟩

/-- A percent sign that starts no group, and a group for which too few digits are left. -/
example : formatPhone "%%2 (%4) %0%1".toList "+6-1 2".toList = "%61 (2) %0".toList := by decide

end FormLetter
