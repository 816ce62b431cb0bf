import FormLetter.Context.Basic
import FormLetter.Text.Casing

/-!
# Looking up identifiers

An identifier is looked up in three tiers, and the first tier with a match decides: the key itself;
a key that differs in case only; and, if partial matches are allowed, a key that contains the
identifier or is contained in it, whatever the case. Within a tier the first key counts.

* `Tier`: the tiers.
* `Context.inPart?`: the entry that matches an identifier in part.
* `Context.lookup`: the value of an identifier and the tier that gave it.
* `Context.resolve`: the value alone.
-/

namespace FormLetter

open Text

/-- How an identifier was found. -/
inductive Tier where
  /-- The key is the identifier. -/
  | exact
  /-- The key differs from the identifier in case only. -/
  | caseInsensitive
  /-- One of the key and the identifier contains the other, whatever the case. -/
  | fragment
  /-- No key matches. -/
  | absent
  deriving Repr, DecidableEq

/-- Every tier, from the best. -/
def Tier.all : List Tier := [.exact, .caseInsensitive, .fragment, .absent]

/-- The name of a tier. -/
def Tier.name : Tier → String
  | .exact => "exact"
  | .caseInsensitive => "case_insensitive"
  | .fragment => "partial"
  | .absent => "none"

/-- Whether a key matches a lower-case identifier in part; an empty key matches nothing. -/
def matchesInPart (wanted key : Text) : Bool :=
  let key' := lower key
  !key.isEmpty && (occursIn wanted key' || occursIn key' wanted)

namespace Context

/-- The first entry whose key matches an identifier in part. -/
def inPart? (context : Context) (identifier : Text) : Option (Text × Text) :=
  let wanted := lower identifier
  context.entries.find? fun entry => matchesInPart wanted entry.1

/-- The value of an identifier and the tier that gave it. The empty identifier has none. -/
def lookup (allowPartial : Bool) (context : Context) (identifier : Text) : Option Text × Tier :=
  if identifier = [] then (none, .absent)
  else
    match context.get? identifier with
    | some value => (some value, .exact)
    | none =>
      let wanted := lower identifier
      match context.entries.find? fun entry => lower entry.1 = wanted with
      | some (_, value) => (some value, .caseInsensitive)
      | none =>
        if allowPartial then
          match context.inPart? identifier with
          | some (_, value) => (some value, .fragment)
          | none => (none, .absent)
        else (none, .absent)

/-- The value of an identifier, if any tier has one. -/
def resolve (allowPartial : Bool) (context : Context) (identifier : Text) : Option Text :=
  (context.lookup allowPartial identifier).1

end Context

end FormLetter
