import FormLetter.Form.Filling
import FormLetter.Log.Basic

/-!
# The log of filling a context

The log tells which entries of the mapping set nothing, which tags were filled by a rule, and how
much there is in the end.

* `MappingNote.logEntry`, `RuleMatch.logEntry`: the lines for an entry of the mapping and for a
  rule.
* `Filled.log`: the lines from the rules on.
-/

namespace FormLetter

/-- The line for an entry of the mapping that sets nothing. -/
def MappingNote.logEntry (note : MappingNote) : LogEntry :=
  let line (tag id : Text) (reason : String) : LogEntry :=
    ⟨.debug, .filling,
      s!"Direct mapping {String.ofList tag} -> field {String.ofList id}: {reason}"⟩
  match note with
  | noSuchField tag id => line tag id "no such field"
  | emptyValue tag id => line tag id "value empty"

/-- The line for a tag that a rule filled. -/
def RuleMatch.logEntry (filled : RuleMatch) : LogEntry :=
  let score := Rule.scoreText 1 filled.rule.priority filled.found.points
  ⟨.debug, .filling,
    s!"Matched {String.ofList filled.rule.tag} from key {String.ofList filled.found.key.quoted} " ++
      s!"(score {String.ofList score})"⟩

/-- The lines for the rules and the totals of a context that was filled from a number of fields. -/
def Filled.log (fields : Nat) (filled : Filled) : List LogEntry :=
  filled.matched.map RuleMatch.logEntry ++
    [⟨.info, .filling,
      s!"Built merge context: {filled.context.size} keys from {fields} fields, " ++
        s!"{filled.matched.length} canonical tags matched"⟩]

end FormLetter
