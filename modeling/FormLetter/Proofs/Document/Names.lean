import FormLetter.Document.Basic

/-!
# Documents from names

A document gives its parts in canonical order, and does not depend on the order in which they were
given, as long as no two names are those of one part.

* `Document.present`: the parts that are present.
* `Document.namedParts`: the parts that names give, with their markup.
* `markup?_ofNames_iff`: what a document from names holds.
* `ofNames_perm`: the same names in another order give the same document.
-/

namespace FormLetter

namespace Document

/-! ## Canonical order -/

/-- The parts that are present, in canonical order. -/
def present (document : Document) : List Part :=
  Part.all.filter fun part => (document.markup? part).isSome

theorem map_fst_items (document : Document) :
    document.items.map Prod.fst = document.present := by
  unfold items present
  rw [List.map_filterMap, ← List.filterMap_eq_filter]
  congr 1
  funext part
  cases h : document.markup? part <;> simp [Option.guard, h]

theorem mem_items_iff {document : Document} {part : Part} {markup : Text} :
    (part, markup) ∈ document.items ↔ document.markup? part = some markup := by
  unfold items
  rw [List.mem_filterMap]
  constructor
  · rintro ⟨other, -, hother⟩
    obtain ⟨found, hfound, heq⟩ := Option.map_eq_some_iff.1 hother
    cases heq
    exact hfound
  · intro h
    refine ⟨part, Part.mem_all part, ?_⟩
    rw [h, Option.map_some]

/-! ## Parts given one after the other -/

theorem markup?_set (part : Part) (markup : Text) (document : Document) (other : Part) :
    (document.set part markup).markup? other =
      if other = part then some markup else document.markup? other := rfl

/-- Of parts that are given once each, a document holds all that are given. -/
theorem markup?_foldl_set {entries : List (Part × Text)} (h : (entries.map Prod.fst).Nodup)
    (document : Document) (part : Part) (markup : Text) :
    (entries.foldl (fun document entry => document.set entry.1 entry.2) document).markup? part =
        some markup ↔
      (part, markup) ∈ entries ∨
        part ∉ entries.map Prod.fst ∧ document.markup? part = some markup := by
  induction entries generalizing document with
  | nil => simp
  | cons entry entries ih =>
    obtain ⟨first, text⟩ := entry
    obtain ⟨hfirst, hnodup⟩ := List.nodup_cons.1 h
    rw [List.foldl_cons, ih hnodup, markup?_set, List.mem_cons, List.map_cons, List.mem_cons]
    by_cases hpart : part = first
    · subst hpart
      have hentries (other : Text) : (part, other) ∉ entries := fun hmem =>
        hfirst (List.mem_map.2 ⟨(part, other), hmem, rfl⟩)
      simp [hentries, hfirst, eq_comm]
    · simp [hpart]

theorem markup?_ofParts_iff {entries : List (Part × Text)} (h : (entries.map Prod.fst).Nodup)
    (part : Part) (markup : Text) :
    (ofParts entries).markup? part = some markup ↔ (part, markup) ∈ entries := by
  rw [ofParts, markup?_foldl_set h]
  simp [empty]

/-! ## Names -/

/-- The parts that names give, with their markup. -/
def namedParts (names : List (Text × Option Text)) : List (Part × Text) :=
  names.filterMap fun (name, markup) => do
    let part ← Part.parse? name
    let markup ← markup
    some (part, markup)

theorem mem_namedParts_iff {names : List (Text × Option Text)} {part : Part} {markup : Text} :
    (part, markup) ∈ namedParts names ↔
      ∃ name, (name, some markup) ∈ names ∧ Part.parse? name = some part := by
  unfold namedParts
  rw [List.mem_filterMap]
  constructor
  · rintro ⟨⟨name, given⟩, hmem, hgiven⟩
    obtain ⟨found, hfound, hgiven⟩ := Option.bind_eq_some_iff.1 hgiven
    obtain ⟨text, rfl, heq⟩ := Option.bind_eq_some_iff.1 hgiven
    cases heq
    exact ⟨name, hmem, hfound⟩
  · rintro ⟨name, hmem, hname⟩
    refine ⟨(name, some markup), hmem, ?_⟩
    simp [hname]

theorem map_fst_namedParts_sublist (names : List (Text × Option Text)) :
    ((namedParts names).map Prod.fst).Sublist
      (names.filterMap fun entry => Part.parse? entry.1) := by
  unfold namedParts
  induction names with
  | nil => exact List.Sublist.slnil
  | cons entry names ih =>
    obtain ⟨name, markup⟩ := entry
    cases hname : Part.parse? name with
    | none => simpa [hname] using ih
    | some part =>
      cases markup with
      | none => simpa [hname] using ih.cons part
      | some markup => simpa [hname] using ih

section

variable {names others : List (Text × Option Text)}

/-- What a document from names holds, if no two names are those of one part. -/
theorem markup?_ofNames_iff (h : (names.filterMap fun entry => Part.parse? entry.1).Nodup)
    (part : Part) (markup : Text) :
    (ofNames names).markup? part = some markup ↔
      ∃ name, (name, some markup) ∈ names ∧ Part.parse? name = some part := by
  rw [← mem_namedParts_iff]
  exact markup?_ofParts_iff (h.sublist (map_fst_namedParts_sublist names)) part markup

/-- The same names in another order give the same document. -/
theorem ofNames_perm (h : (names.filterMap fun entry => Part.parse? entry.1).Nodup)
    (hperm : others.Perm names) : ofNames others = ofNames names := by
  have hothers : (others.filterMap fun entry => Part.parse? entry.1).Nodup :=
    (hperm.filterMap _).nodup_iff.2 h
  have hmarkup : (ofNames others).markup? = (ofNames names).markup? := by
    funext part
    apply Option.ext
    intro markup
    rw [markup?_ofNames_iff hothers, markup?_ofNames_iff h]
    simp only [hperm.mem_iff]
  exact congrArg Document.mk hmarkup

end

end Document

end FormLetter
