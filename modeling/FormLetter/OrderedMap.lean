import FormLetter.Text.Basic

/-!
# Ordered maps

A map from texts to values that remembers in which order its keys were first put in. Writing to a
key that is present changes its value and keeps its place.

* `OrderedMap.get?`, `OrderedMap.keys`: the two views of a map.
* `OrderedMap.insert`, `OrderedMap.erase`, `OrderedMap.ofList`.

Main statements: `get?_insert`, `entries_insert_of_notMem`, `keys_insert_of_mem` and
`keys_insert_of_notMem`.
-/

namespace FormLetter

/-- A map from texts to values in the order of the first insertion of each key. -/
structure OrderedMap (α : Type) where
  /-- The keys with their values, in order. -/
  entries : List (Text × α)
  /-- No key is there twice. -/
  nodup : (entries.map (·.1)).Nodup
  deriving Repr

namespace OrderedMap

variable {α β : Type}

/-- The map without keys. -/
def empty : OrderedMap α := ⟨[], List.nodup_nil⟩

instance : Inhabited (OrderedMap α) := ⟨empty⟩

/-- The keys in order. -/
def keys (m : OrderedMap α) : List Text := m.entries.map (·.1)

/-- The number of keys. -/
def size (m : OrderedMap α) : Nat := m.entries.length

/-- The value of a key. -/
def get? (m : OrderedMap α) (key : Text) : Option α := m.entries.lookup key

theorem get?_eq_none_iff {m : OrderedMap α} {key : Text} : m.get? key = none ↔ key ∉ m.keys := by
  unfold get? keys
  rw [List.lookup_eq_none_iff, List.mem_map]
  constructor
  · rintro h ⟨entry, hmem, rfl⟩
    simpa using h entry hmem
  · intro h entry hmem
    exact bne_iff_ne.2 fun heq => h ⟨entry, hmem, heq.symm⟩

/-- Whether a key is present. -/
def contains (m : OrderedMap α) (key : Text) : Bool := (m.get? key).isSome

/-! ## Insertion -/

/-- The entries after a write: a present key keeps its place, a new one comes last. -/
def insertEntry (key : Text) (value : α) : List (Text × α) → List (Text × α)
  | [] => [(key, value)]
  | (k, v) :: rest => if k = key then (key, value) :: rest else (k, v) :: insertEntry key value rest

theorem map_fst_insertEntry (key : Text) (value : α) (entries : List (Text × α)) :
    (insertEntry key value entries).map (·.1) =
      if key ∈ entries.map (·.1) then entries.map (·.1) else entries.map (·.1) ++ [key] := by
  induction entries with
  | nil => simp [insertEntry]
  | cons entry rest ih =>
    obtain ⟨k, v⟩ := entry
    by_cases h : k = key
    · simp [insertEntry, h]
    · simp only [insertEntry, h, if_false, List.map_cons, ih, List.mem_cons, Ne.symm h, false_or]
      split <;> simp

theorem lookup_insertEntry (key : Text) (value : α) (entries : List (Text × α)) (k : Text) :
    (insertEntry key value entries).lookup k =
      if k = key then some value else entries.lookup k := by
  induction entries with
  | nil =>
    by_cases h : k = key
    · simp [insertEntry, h]
    · simp [insertEntry, List.lookup_cons, h, beq_eq_false_iff_ne.2 h]
  | cons entry rest ih =>
    obtain ⟨k', v'⟩ := entry
    by_cases h' : k' = key
    · subst h'
      by_cases h : k = k'
      · simp [insertEntry, h]
      · simp [insertEntry, List.lookup_cons, h, beq_eq_false_iff_ne.2 h]
    · simp only [insertEntry, h', if_false, List.lookup_cons, ih]
      by_cases h : k = key
      · subst h
        simp [beq_eq_false_iff_ne.2 (Ne.symm h')]
      · simp [h]

theorem insertEntry_of_notMem {key : Text} {entries : List (Text × α)}
    (h : key ∉ entries.map (·.1)) (value : α) :
    insertEntry key value entries = entries ++ [(key, value)] := by
  induction entries with
  | nil => rfl
  | cons entry rest ih =>
    obtain ⟨k, v⟩ := entry
    rw [List.map_cons, List.mem_cons, not_or] at h
    rw [insertEntry, if_neg (Ne.symm h.1), ih h.2, List.cons_append]

/-- Writes a value to a key. -/
def insert (m : OrderedMap α) (key : Text) (value : α) : OrderedMap α where
  entries := insertEntry key value m.entries
  nodup := by
    rw [map_fst_insertEntry]
    split
    · exact m.nodup
    · rename_i h
      exact List.nodup_append.2 ⟨m.nodup, by simp, by
        intro a ha b hb hab
        simp only [List.mem_singleton] at hb
        exact h (hb ▸ hab ▸ ha)⟩

theorem get?_insert (m : OrderedMap α) (key : Text) (value : α) (k : Text) :
    (m.insert key value).get? k = if k = key then some value else m.get? k :=
  lookup_insertEntry key value m.entries k

theorem entries_insert_of_notMem {m : OrderedMap α} {key : Text} (h : key ∉ m.keys) (value : α) :
    (m.insert key value).entries = m.entries ++ [(key, value)] :=
  insertEntry_of_notMem h value

theorem keys_insert_of_mem {m : OrderedMap α} {key : Text} (h : key ∈ m.keys) (value : α) :
    (m.insert key value).keys = m.keys :=
  (map_fst_insertEntry key value m.entries).trans (if_pos h)

theorem keys_insert_of_notMem {m : OrderedMap α} {key : Text} (h : key ∉ m.keys) (value : α) :
    (m.insert key value).keys = m.keys ++ [key] :=
  (map_fst_insertEntry key value m.entries).trans (if_neg h)

/-- The map that comes of writing the pairs one after the other. -/
def ofList (pairs : List (Text × α)) : OrderedMap α :=
  pairs.foldl (fun m pair => m.insert pair.1 pair.2) empty

/-! ## Other operations -/

/-- The map without a key. -/
def erase (m : OrderedMap α) (key : Text) : OrderedMap α where
  entries := m.entries.filter fun entry => entry.1 ≠ key
  nodup := List.Nodup.sublist (List.filter_sublist.map _) m.nodup

/-- The entries that satisfy a test. -/
def filter (p : Text → α → Bool) (m : OrderedMap α) : OrderedMap α where
  entries := m.entries.filter fun entry => p entry.1 entry.2
  nodup := List.Nodup.sublist (List.filter_sublist.map _) m.nodup

end OrderedMap

end FormLetter
