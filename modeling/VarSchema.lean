import VarSchema.Assembly
import VarSchema.CommandLine.Arguments
import VarSchema.CommandLine.Outcome
import VarSchema.CommandLine.Run
import VarSchema.Condition.Basic
import VarSchema.Condition.Meaning
import VarSchema.Condition.Wire
import VarSchema.Constraint.Basic
import VarSchema.Constraint.Conformity
import VarSchema.Constraint.Error
import VarSchema.Constraint.Wire
import VarSchema.Document
import VarSchema.ExtendedPattern.Action
import VarSchema.ExtendedPattern.Basic
import VarSchema.ExtendedPattern.Portable
import VarSchema.ExtendedPattern.Reader
import VarSchema.ExtendedPattern.Search
import VarSchema.FileSystem
import VarSchema.Form
import VarSchema.Json.Basic
import VarSchema.Json.Printer
import VarSchema.Json.Reader
import VarSchema.KeyMap
import VarSchema.Main
import VarSchema.Number.Basic
import VarSchema.Number.Binary64
import VarSchema.Number.Power
import VarSchema.Number.Reader
import VarSchema.Number.Shortest
import VarSchema.Number.Text
import VarSchema.Options
import VarSchema.Path
import VarSchema.Pattern.Anchor
import VarSchema.Pattern.Basic
import VarSchema.Pattern.Error
import VarSchema.Pattern.Match
import VarSchema.Pattern.OfText
import VarSchema.Pattern.OfTree
import VarSchema.Pattern.Reader
import VarSchema.Pattern.Size
import VarSchema.Pattern.Tree
import VarSchema.Rule.Basic
import VarSchema.Rule.Enumeration
import VarSchema.Rule.Range
import VarSchema.Rule.Reason
import VarSchema.Schema.Acceptance
import VarSchema.Schema.Node
import VarSchema.Schema.Nullable
import VarSchema.Schema.Pointer
import VarSchema.Schema.Translation
import VarSchema.Schema.Uri
import VarSchema.Schema.Violation
import VarSchema.Schema.Vocabulary
import VarSchema.Schema.WellFormed
import VarSchema.SchemaPattern
import VarSchema.Text.Digit
import VarSchema.Text.Quoted
import VarSchema.Text.Shown
import VarSchema.Unicode.Age
import VarSchema.Unicode.ByteRange
import VarSchema.Unicode.CaseFolding
import VarSchema.Unicode.Category
import VarSchema.Unicode.CharSet
import VarSchema.Unicode.Name
import VarSchema.Unicode.Property
import VarSchema.Unicode.Script
import VarSchema.Unicode.Segmentation
import VarSchema.Variable
import VarSchema.Yaml.Block
import VarSchema.Yaml.Form
import VarSchema.Yaml.Plain
import VarSchema.Yaml.Scalar
import VarSchema.Yaml.Tag
import VarSchema.Yaml.Token
import VarSchema.Yaml.Tree
import VarSchema.Proofs.Number.Exact
import VarSchema.Proofs.Number.Rounding
import VarSchema.Proofs.Schema.Bounds
import VarSchema.Proofs.Condition.Views
import VarSchema.Proofs.Rule.Range
import VarSchema.Proofs.Rule.Meaning
import VarSchema.Proofs.Schema.Record
import VarSchema.Proofs.Schema.Nullable
import VarSchema.Proofs.Schema.Translation
import VarSchema.Proofs.Assembly.Parts
import VarSchema.Proofs.Assembly.Root
import VarSchema.Proofs.Rule.Delta
import VarSchema.Proofs.Assembly.Conditions
import VarSchema.Proofs.Assembly.Enforcement
import VarSchema.Proofs.Rule.Counts
import VarSchema.Proofs.Assembly.Acceptance
import VarSchema.Proofs.Assembly.Conformity
import VarSchema.Proofs.Assembly.Nullability
import VarSchema.Proofs.Schema.Form
import VarSchema.Proofs.Assembly.WellFormed
import VarSchema.Proofs.Rule.Recognition
import VarSchema.Proofs.Rule.Exclusion
import VarSchema.Proofs.Rule.Spelling
import VarSchema.Proofs.Constraint.RoundTrip
import VarSchema.Proofs.Schema.Tightest
import VarSchema.Proofs.Rule.Given
import VarSchema.Proofs.Assembly.Runs
import VarSchema.Proofs.Variable.RoundTrip
import VarSchema.Proofs.Assembly.Verdict
import VarSchema.Proofs.Assembly.Independence
import VarSchema.Proofs.Assembly.Deletion
import VarSchema.Proofs.Rule.NumberBound
import VarSchema.Proofs.Assembly.Relaxation
import VarSchema.Proofs.Schema.Pointer
import VarSchema.Proofs.Schema.Violation
import VarSchema.Proofs.Schema.Location
import VarSchema.Proofs.Schema.Refusal
import VarSchema.Proofs.Assembly.Attribution
import VarSchema.Proofs.Variable.Retyping
import VarSchema.Proofs.Assembly.Containment
import VarSchema.Proofs.Condition.Grammar
import VarSchema.Proofs.Rule.EqualityChain
import VarSchema.Proofs.Rule.RangeChain
import VarSchema.Proofs.Rule.BoundValues
import VarSchema.Proofs.Schema.Merge
import VarSchema.Proofs.Schema.Wrapping
import VarSchema.Proofs.Schema.Agreement
import VarSchema.Proofs.Constraint.FirstFault
import VarSchema.Proofs.Constraint.ReadFault
import VarSchema.Proofs.CommandLine.Generate
import VarSchema.Proofs.Rule.BoundNumber
import VarSchema.Proofs.Text.Line
import VarSchema.Proofs.Condition.Display
import VarSchema.Proofs.Pattern.Report
import VarSchema.Proofs.Rule.Details
