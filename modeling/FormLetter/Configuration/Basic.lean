import FormLetter.Form.Catalogue
import FormLetter.Settings.Basic

/-!
# Configurations

A configuration is the settings of a merge and the rules that fill a context.

* `Configuration`: a configuration; the default one has the catalogue of rules.
* `Configuration.ruleFor?`: the rule of a tag.
-/

namespace FormLetter

/-- The version of the form of configurations. -/
def schemaVersion : Text := "1.0.0".toList

/-- The settings of a merge and the rules that fill a context. -/
structure Configuration where
  /-- The settings. -/
  settings : Settings := {}
  /-- The rules, in order. -/
  rules : List Rule := catalogue
  /-- The version of the form in which the configuration was written. -/
  version : Text := schemaVersion
  deriving Repr

namespace Configuration

/-- The first rule of a tag. -/
def ruleFor? (configuration : Configuration) (tag : Text) : Option Rule :=
  configuration.rules.find? fun rule => rule.tag = tag

end Configuration

end FormLetter
