import FormLetter.Calendar.Date
import FormLetter.Calendar.Iso
import FormLetter.Calendar.Layout
import FormLetter.Calendar.Reading
import FormLetter.Calendar.Rendering
import FormLetter.Command.Arguments
import FormLetter.Command.Failure
import FormLetter.Command.Input
import FormLetter.Command.Program
import FormLetter.Command.Request
import FormLetter.Command.Source
import FormLetter.Condition.Basic
import FormLetter.Condition.Evaluation
import FormLetter.Condition.Parser
import FormLetter.Configuration.Basic
import FormLetter.Configuration.Check
import FormLetter.Configuration.File
import FormLetter.Configuration.Problem
import FormLetter.Configuration.Scalar
import FormLetter.Context.Basic
import FormLetter.Context.Lookup
import FormLetter.Diagnostic.Basic
import FormLetter.Diagnostic.Collector
import FormLetter.Diagnostic.Fault
import FormLetter.Diagnostic.Finding
import FormLetter.Document.Basic
import FormLetter.Document.Part
import FormLetter.Escape
import FormLetter.File.Path
import FormLetter.File.Storage
import FormLetter.Form.Abbreviation
import FormLetter.Form.Catalogue
import FormLetter.Form.Field
import FormLetter.Form.Filling
import FormLetter.Form.Rule
import FormLetter.Json.Printer
import FormLetter.Json.Reader
import FormLetter.Json.Token
import FormLetter.Log.Basic
import FormLetter.Log.Filling
import FormLetter.Log.Merging
import FormLetter.Log.Rendering
import FormLetter.Main
import FormLetter.Markup.Normal
import FormLetter.Markup.Splice
import FormLetter.Markup.Tag
import FormLetter.Merge.Basic
import FormLetter.Merge.Relay
import FormLetter.Merge.Report
import FormLetter.Modifier.Application
import FormLetter.Modifier.Basic
import FormLetter.Modifier.Parser
import FormLetter.Modifier.Phone
import FormLetter.Number.Binary64
import FormLetter.Number.Decimal
import FormLetter.Number.Extended
import FormLetter.Number.Reading
import FormLetter.Number.Rounding
import FormLetter.OrderedMap
import FormLetter.Proofs.Calendar.Exchange
import FormLetter.Proofs.Calendar.Letter
import FormLetter.Proofs.Calendar.Missed
import FormLetter.Proofs.Calendar.Numbers
import FormLetter.Proofs.Calendar.Ordinal
import FormLetter.Proofs.Calendar.Outline
import FormLetter.Proofs.Calendar.Piece
import FormLetter.Proofs.Calendar.RoundTrip
import FormLetter.Proofs.Calendar.Standard
import FormLetter.Proofs.Calendar.Written
import FormLetter.Proofs.Command.Reading
import FormLetter.Proofs.Command.Writing
import FormLetter.Proofs.Condition.Conjunction
import FormLetter.Proofs.Condition.Encoded
import FormLetter.Proofs.Condition.Test
import FormLetter.Proofs.Condition.Written
import FormLetter.Proofs.Configuration.Accepted
import FormLetter.Proofs.Configuration.Checked
import FormLetter.Proofs.Context.Tiers
import FormLetter.Proofs.Document.Names
import FormLetter.Proofs.File.Content
import FormLetter.Proofs.Form.Best
import FormLetter.Proofs.Form.Gaps
import FormLetter.Proofs.Form.Priority
import FormLetter.Proofs.Form.Rules
import FormLetter.Proofs.Form.Slug
import FormLetter.Proofs.Form.Writes
import FormLetter.Proofs.Markup.Balance
import FormLetter.Proofs.Markup.Cut
import FormLetter.Proofs.Markup.Interruption
import FormLetter.Proofs.Markup.Joint
import FormLetter.Proofs.Markup.Nesting
import FormLetter.Proofs.Markup.Passage
import FormLetter.Proofs.Markup.Restoration
import FormLetter.Proofs.Markup.Shortcut
import FormLetter.Proofs.Markup.Span
import FormLetter.Proofs.Markup.Stability
import FormLetter.Proofs.Markup.Stepwise
import FormLetter.Proofs.Merge.Agreement
import FormLetter.Proofs.Merge.Forwarding
import FormLetter.Proofs.Merge.Independence
import FormLetter.Proofs.Merge.Rerun
import FormLetter.Proofs.Merge.Strict
import FormLetter.Proofs.Merge.Writing
import FormLetter.Proofs.Modifier.Chain
import FormLetter.Proofs.Modifier.Groups
import FormLetter.Proofs.Modifier.Written
import FormLetter.Proofs.Render.Alternative
import FormLetter.Proofs.Render.Count
import FormLetter.Proofs.Render.Dependence
import FormLetter.Proofs.Render.Kept
import FormLetter.Proofs.Render.Path
import FormLetter.Proofs.Render.Skeleton
import FormLetter.Proofs.Template.Assembly
import FormLetter.Proofs.Template.Blocks
import FormLetter.Proofs.Template.Brace
import FormLetter.Proofs.Template.Budget
import FormLetter.Proofs.Template.Chain
import FormLetter.Proofs.Template.Following
import FormLetter.Proofs.Template.Ledger
import FormLetter.Proofs.Template.Literal
import FormLetter.Proofs.Template.Mark
import FormLetter.Proofs.Template.Marker
import FormLetter.Proofs.Template.NestingLimit
import FormLetter.Proofs.Template.Opening
import FormLetter.Proofs.Template.Pairing
import FormLetter.Proofs.Template.Piece
import FormLetter.Proofs.Template.Reduction
import FormLetter.Proofs.Template.Reflection
import FormLetter.Proofs.Template.Role
import FormLetter.Proofs.Template.Shape
import FormLetter.Proofs.Template.Truncation
import FormLetter.Proofs.Template.Written
import FormLetter.Proofs.Text.Cutting
import FormLetter.Proofs.Text.Distinct
import FormLetter.Proofs.Text.Escaping
import FormLetter.Proofs.Text.Lowercase
import FormLetter.Proofs.Text.Numeral
import FormLetter.Proofs.Text.Replacement
import FormLetter.Proofs.Text.Run
import FormLetter.Proofs.Text.Simultaneous
import FormLetter.Render
import FormLetter.Settings.Basic
import FormLetter.Template.Block
import FormLetter.Template.Parser
import FormLetter.Template.Piece
import FormLetter.Template.Token
import FormLetter.Text.Basic
import FormLetter.Text.Blank
import FormLetter.Text.CaseTable
import FormLetter.Text.Casing
import FormLetter.Text.Digit
import FormLetter.Text.Printable
import FormLetter.Text.Quoted
import FormLetter.Text.Surrogate
import FormLetter.Validation
import FormLetter.Value
import FormLetter.Yaml.Block
import FormLetter.Yaml.Cursor
import FormLetter.Yaml.Fault
import FormLetter.Yaml.Lexer
import FormLetter.Yaml.Name
import FormLetter.Yaml.Node
import FormLetter.Yaml.Plain
import FormLetter.Yaml.Quoted
import FormLetter.Yaml.Reader
import FormLetter.Yaml.Scalar
import FormLetter.Yaml.Tag
import FormLetter.Yaml.Token
