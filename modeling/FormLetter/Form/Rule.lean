import FormLetter.Number.Extended
import FormLetter.OrderedMap
import FormLetter.Text.Casing

/-!
# Matching rules

A rule fills a tag from the key that suits its keywords best. A key gets ten points for each keyword
that it contains, twenty more if it is the keyword, five more if it starts with it, and loses
fifteen points for each excluded keyword that it contains. The score is the number of points times
the priority of the rule.

* `Rule`: a rule.
* `Weighing`: how points are weighed by a priority, exactly or rounded.
* `Rule.points`, `Rule.score`: the points and the score of a key.
* `Rule.best?`: the key with the highest positive score among those with a value.
-/

namespace FormLetter

open Text

/-- A rule that fills one tag. -/
structure Rule where
  /-- The tag. -/
  tag : Text
  /-- What a suitable key contains, in lower case. -/
  keywords : List Text := []
  /-- What a suitable key does not contain, in lower case. -/
  excluded : List Text := []
  /-- The weight of the rule. -/
  priority : Binary64 := .ofInt 1
  deriving Repr, DecidableEq

/-! ## Scores -/

/-- How a number of points is weighed by a priority. -/
abbrev Weighing := Binary64 → Int → Extended

/-- The product of priority and points. -/
def Weighing.exact : Weighing := fun priority points =>
  (Extended.ofBinary64 priority).scale points

/-- The binary64 number nearest to the product. -/
def Weighing.rounded : Weighing := fun priority points =>
  .ofBinary64 (exact priority points).round

namespace Rule

/-- The points of a lower-case key for one keyword. -/
def keywordPoints (key keyword : Text) : Int :=
  if occursIn keyword key then
    10 + (if key = keyword then 20 else 0) + (if keyword.isPrefixOf key then 5 else 0)
  else 0

/-- The points of a key. -/
def points (rule : Rule) (key : Text) : Int :=
  let key := lower key
  (rule.keywords.map (keywordPoints key)).foldr (· + ·) 0 -
    15 * (rule.excluded.filter fun keyword => occursIn keyword key).length

/-- The score of a key under a weighing. -/
def score (weigh : Weighing) (rule : Rule) (key : Text) : Extended :=
  weigh rule.priority (rule.points key)

/-- A score with a number of decimals. A score of zero has the sign of the product. -/
def scoreText (places : Nat) (priority : Binary64) (points : Int) : Text :=
  let rounded := (Weighing.exact priority points).round
  let rounded : Binary64 :=
    match rounded, priority with
    | .finite _ 0 exponent, .finite negative _ _ =>
      .finite (if points < 0 then !negative else negative) 0 exponent
    | _, _ => rounded
  rounded.fixed places

/-! ## The best entry -/

/-- An entry that suits a rule, with its score. -/
structure Match where
  /-- The key. -/
  key : Text
  /-- The value of the key. -/
  value : Text
  /-- The points of the key. -/
  points : Int
  /-- The score of the key. -/
  score : Extended
  deriving Repr, DecidableEq

/-- The better of the best entry so far and the next one; only a higher score replaces the best. -/
def better (weigh : Weighing) (rule : Rule) (best : Option Match) (entry : Text × Text) :
    Option Match :=
  let (key, value) := entry
  let score := rule.score weigh key
  let found : Match := { key, value, points := rule.points key, score }
  if value = [] || !score.exceeds (.finite 0) then best
  else
    match best with
    | none => some found
    | some previous => if score.exceeds previous.score then some found else best

/-- The entry with the highest score among those that have a value and a positive score; of equal
scores the first counts. -/
def bestBy? (weigh : Weighing) (rule : Rule) (entries : List (Text × Text)) : Option Match :=
  entries.foldl (rule.better weigh) none

/-- The best entry by rounded scores. -/
def best? (rule : Rule) (entries : List (Text × Text)) : Option Match :=
  rule.bestBy? .rounded entries

end Rule

end FormLetter
