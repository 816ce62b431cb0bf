import Mathlib.Data.List.Nodup

/-!
# Lists without repetition

The first occurrences of the elements of a list, in order.

* `nodup_eraseDups`: none of them comes twice.
* `eraseDups_filter`, `eraseDups_eraseDups`, `eraseDups_append_filter`: first occurrences in part of
  a list, in a list of first occurrences, and in two lists.
-/

namespace FormLetter

/-- No first occurrence comes twice. -/
theorem nodup_eraseDups {α : Type} [BEq α] [LawfulBEq α] :
    (elements : List α) → elements.eraseDups.Nodup
  | [] => List.nodup_nil
  | first :: elements => by
    rw [List.eraseDups_cons]
    refine List.nodup_cons.2 ⟨fun hfirst => ?_, nodup_eraseDups _⟩
    have hother := (List.mem_filter.1 (List.mem_eraseDups.1 hfirst)).2
    simp at hother
  termination_by elements => elements.length
  decreasing_by
    exact Nat.lt_succ_of_le (List.length_filter_le _ _)

/-- Of the elements that are kept, the first occurrences are those of the whole list. -/
theorem eraseDups_filter {α : Type} [BEq α] [LawfulBEq α] (p : α → Bool) :
    (elements : List α) → (elements.filter p).eraseDups = elements.eraseDups.filter p
  | [] => rfl
  | first :: elements => by
    have hrest := eraseDups_filter p (elements.filter fun element => !element == first)
    rw [List.filter_filter] at hrest
    rw [List.eraseDups_cons]
    by_cases hp : p first = true
    · rw [List.filter_cons_of_pos hp, List.filter_cons_of_pos hp, List.eraseDups_cons,
        List.filter_filter, ← hrest]
      simp only [Bool.and_comm]
    · have hkept : elements.filter p =
          elements.filter fun element => p element && !element == first := by
        refine List.filter_congr fun element _ => ?_
        by_cases he : element = first
        · simpa [he] using hp
        · simp [he]
      rw [List.filter_cons_of_neg hp, List.filter_cons_of_neg hp, hkept, hrest]
  termination_by elements => elements.length
  decreasing_by
    exact Nat.lt_succ_of_le (List.length_filter_le _ _)

/-- A list without repetition is not changed. -/
theorem eraseDups_eraseDups {α : Type} [BEq α] [LawfulBEq α] :
    (elements : List α) → elements.eraseDups.eraseDups = elements.eraseDups
  | [] => rfl
  | first :: elements => by
    have hrest := eraseDups_eraseDups (elements.filter fun element => !element == first)
    rw [List.eraseDups_cons, List.eraseDups_cons, ← eraseDups_filter, List.filter_filter]
    simpa only [Bool.and_self, List.cons.injEq, true_and] using hrest
  termination_by elements => elements.length
  decreasing_by
    exact Nat.lt_succ_of_le (List.length_filter_le _ _)

/-- The first occurrences in two lists, one behind the other. -/
theorem eraseDups_append_filter {α : Type} [BEq α] [LawfulBEq α] (front back : List α) :
    front.eraseDups ++ back.eraseDups.filter (fun element => !front.eraseDups.contains element) =
      (front ++ back).eraseDups := by
  have hcontains (element : α) : front.eraseDups.contains element = front.contains element := by
    rw [Bool.eq_iff_iff, List.contains_iff_mem, List.contains_iff_mem, List.mem_eraseDups]
  rw [List.eraseDups_append, List.removeAll, eraseDups_filter]
  simp only [hcontains]

end FormLetter
