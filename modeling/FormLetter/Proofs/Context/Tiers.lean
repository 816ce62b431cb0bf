import FormLetter.Context.Lookup

/-!
# Tiers of keys

Each key by itself matches an identifier in some tier. A key that is added to a context changes a
look-up only if its tier is better than the one that decided so far.

* `Tier.rank`: the order of the tiers.
* `Tier.ofKey`: the tier in which a key matches an identifier.
* `Tier.first`: the outcome of a look-up from what each tier gives by itself.
* `Context.lookup_insert_of_notMem`: a look-up after a key was added, and without partial matches.
-/

namespace FormLetter

open Text

namespace Tier

/-- The place of a tier in the order from the best. -/
def rank : Tier → Nat
  | exact => 0
  | caseInsensitive => 1
  | fragment => 2
  | absent => 3

/-- The best tier of a match that is exact, up to case, or partial. -/
def ofMatch (isExact isCase isPart : Bool) : Tier :=
  if isExact then exact else if isCase then caseInsensitive else if isPart then fragment else absent

/-- The tier in which a key matches an identifier. -/
def ofKey (allowPartial : Bool) (identifier key : Text) : Tier :=
  ofMatch (key = identifier) (lower key = lower identifier)
    (allowPartial && matchesInPart (lower identifier) key)

/-- The outcome of a look-up from the values that its tiers give. -/
def first (inFull inCase inPart : Option Text) : Option Text × Tier :=
  match inFull, inCase, inPart with
  | some value, _, _ => (some value, exact)
  | none, some value, _ => (some value, caseInsensitive)
  | none, none, some value => (some value, fragment)
  | none, none, none => (none, absent)

/-- A value behind those of the tiers decides if it matches in a better tier than they do. -/
theorem first_or (inFull inCase inPart : Option Text) (isExact isCase isPart : Bool)
    (value : Text) :
    first (inFull.or (if isExact then some value else none))
        (inCase.or (if isCase then some value else none))
        (inPart.or (if isPart then some value else none)) =
      if (ofMatch isExact isCase isPart).rank < (first inFull inCase inPart).2.rank then
        (some value, ofMatch isExact isCase isPart)
      else first inFull inCase inPart := by
  cases isExact <;> cases isCase <;> cases isPart <;> cases inFull <;> cases inCase <;>
    cases inPart <;> rfl

theorem first_none (inFull inCase inPart : Option Text) :
    first inFull inCase none =
      if (first inFull inCase inPart).2 = fragment then (none, absent)
      else first inFull inCase inPart := by
  cases inFull <;> cases inCase <;> cases inPart <;> rfl

end Tier

namespace Context

variable {context : Context} {identifier key : Text}

/-- The value of the first key that differs from an identifier in case only. -/
def inCase? (context : Context) (identifier : Text) : Option Text :=
  (context.entries.find? fun entry => lower entry.1 = lower identifier).map (·.2)

theorem lookup_eq_first (ne : identifier ≠ []) (allowPartial : Bool) (context : Context) :
    context.lookup allowPartial identifier =
      Tier.first (context.get? identifier) (context.inCase? identifier)
        (if allowPartial then (context.inPart? identifier).map (·.2) else none) := by
  simp only [lookup, inCase?, if_neg ne]
  cases context.get? identifier with
  | some value => rfl
  | none =>
    cases context.entries.find? fun entry => lower entry.1 = lower identifier with
    | some entry => rfl
    | none => cases allowPartial <;> cases context.inPart? identifier <;> rfl

/-- Without partial matches a look-up that matched in part finds nothing, and any other stays. -/
theorem lookup_false (context : Context) (identifier : Text) :
    context.lookup false identifier =
      if (context.lookup true identifier).2 = .fragment then (none, .absent)
      else context.lookup true identifier := by
  by_cases ne : identifier = []
  · subst ne
    rfl
  · rw [lookup_eq_first ne, lookup_eq_first ne]
    exact Tier.first_none _ _ _

/-! ## A new key -/

theorem get?_insert_of_notMem (h : key ∉ context.keys) (value : Text) :
    (context.insert key value).get? identifier =
      (context.get? identifier).or (if decide (key = identifier) then some value else none) := by
  rw [OrderedMap.get?_insert]
  by_cases hkey : identifier = key
  · subst hkey
    simp [OrderedMap.get?_eq_none_iff.2 h]
  · simp [hkey, Ne.symm hkey]

theorem find?_insert_of_notMem (h : key ∉ context.keys) (value : Text) (p : Text × Text → Bool) :
    ((context.insert key value).entries.find? p).map (·.2) =
      ((context.entries.find? p).map (·.2)).or (if p (key, value) then some value else none) := by
  rw [OrderedMap.entries_insert_of_notMem h, List.find?_append, List.find?_singleton]
  cases context.entries.find? p with
  | some entry => rfl
  | none => cases p (key, value) <;> rfl

/-- **A new key.** A key that is added to a context decides a look-up, and gives its value, if it
matches the identifier in a better tier than the keys before it; otherwise the look-up stays as it
is. Without partial matches a look-up is the same, except that one that would match in part finds
nothing. -/
theorem lookup_insert_of_notMem (ne : identifier ≠ []) (h : key ∉ context.keys) (value : Text) :
    (∀ allowPartial,
      lookup allowPartial (context.insert key value) identifier =
        if (Tier.ofKey allowPartial identifier key).rank <
            (context.lookup allowPartial identifier).2.rank then
          (some value, Tier.ofKey allowPartial identifier key)
        else context.lookup allowPartial identifier) ∧
      context.lookup false identifier =
        if (context.lookup true identifier).2 = .fragment then (none, .absent)
        else context.lookup true identifier := by
  refine ⟨fun allowPartial => ?_, lookup_false context identifier⟩
  have hcase : inCase? (context.insert key value) identifier =
      (context.inCase? identifier).or
        (if decide (lower key = lower identifier) then some value else none) :=
    find?_insert_of_notMem h value _
  have hpart : (if allowPartial then (inPart? (context.insert key value) identifier).map (·.2)
        else none) =
      (if allowPartial then (context.inPart? identifier).map (·.2) else none).or
        (if allowPartial && matchesInPart (lower identifier) key then some value else none) := by
    cases allowPartial with
    | false => rfl
    | true => exact find?_insert_of_notMem h value _
  rw [lookup_eq_first ne, lookup_eq_first ne, get?_insert_of_notMem h, hcase, hpart]
  exact Tier.first_or _ _ _ _ _ _ value

/-- The only key contains the identifier. A new key in lower case decides the look-up; another one
that contains the identifier does not. -/
theorem lookup_insert_of_notMem_state :
    let context : Context := .ofList [("Home_State".toList, "NSW".toList)]
    let identifier := "STATE".toList
    identifier ≠ [] ∧ "state".toList ∉ context.keys ∧ "Old_State".toList ∉ context.keys ∧
      context.lookup true identifier = (some "NSW".toList, .fragment) ∧
      context.lookup false identifier = (none, .absent) ∧
      lookup true (context.insert "state".toList "VIC".toList) identifier =
        (some "VIC".toList, .caseInsensitive) ∧
      lookup true (context.insert "Old_State".toList "WA".toList) identifier =
        (some "NSW".toList, .fragment) ∧
      lookup false (context.insert "Old_State".toList "WA".toList) identifier =
        (none, .absent) := by
  intro context identifier
  have ne : identifier ≠ [] := by decide
  have hlower : "state".toList ∉ context.keys := by decide +kernel
  have hlonger : "Old_State".toList ∉ context.keys := by decide +kernel
  have hfound : context.lookup true identifier = (some "NSW".toList, .fragment) := by
    decide +kernel
  obtain ⟨hcase, hfalse⟩ := lookup_insert_of_notMem ne hlower "VIC".toList
  obtain ⟨hpart, -⟩ := lookup_insert_of_notMem ne hlonger "WA".toList
  refine ⟨ne, hlower, hlonger, hfound, ?_, ?_, ?_, ?_⟩
  · rw [hfalse, hfound]
    rfl
  · rw [hcase true, hfound]
    decide +kernel
  · rw [hpart true, hfound]
    decide +kernel
  · rw [hpart false, hfalse, hfound]
    decide +kernel

end Context

end FormLetter
