import FormLetter.Diagnostic.Basic

/-!
# Collecting diagnostics

* `Collector`: keeps diagnostics in the order in which they come, and attributes those without a
  part to its own.
* `Collector.relay`: records a diagnostic and hands what was recorded on to a second collector.

Main statement: `diagnostics_record`.
-/

namespace FormLetter

/-- Keeps diagnostics. -/
structure Collector where
  /-- The part of diagnostics that have none. -/
  part : Option String := none
  /-- What was recorded, in order. -/
  diagnostics : List Diagnostic := []
  deriving Repr

namespace Collector

/-- Records a diagnostic. -/
def record (diagnostic : Diagnostic) (collector : Collector) : Collector :=
  { collector with diagnostics := collector.diagnostics ++ [diagnostic.inPart collector.part] }

/-- What was recorded of a kind. -/
def ofKind (kind : Diagnostic.Kind) (collector : Collector) : List Diagnostic :=
  collector.diagnostics.filter fun diagnostic => diagnostic.kind = kind

/-- How many diagnostics of a kind were recorded. -/
def count (kind : Diagnostic.Kind) (collector : Collector) : Nat := (collector.ofKind kind).length

/-- The collector with nothing recorded. -/
def clear (collector : Collector) : Collector := { collector with diagnostics := [] }

/-- Records a diagnostic in one collector, and what was recorded there in another. -/
def relay (diagnostic : Diagnostic) (front back : Collector) : Collector × Collector :=
  (front.record diagnostic, back.record (diagnostic.inPart front.part))

theorem diagnostics_record (diagnostic : Diagnostic) (collector : Collector) :
    (collector.record diagnostic).diagnostics =
      collector.diagnostics ++ [diagnostic.inPart collector.part] := rfl

end Collector

end FormLetter
