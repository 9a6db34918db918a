import MessageConstraints.Check.Basic
import MessageConstraints.Check.Compile
import MessageConstraints.Check.Number
import MessageConstraints.Combination
import MessageConstraints.CommandLine
import MessageConstraints.CommandLine.Arguments
import MessageConstraints.CommandLine.Report
import MessageConstraints.Constraint.Basic
import MessageConstraints.Constraint.Registry
import MessageConstraints.Constraint.RuleSet
import MessageConstraints.Constraint.Set
import MessageConstraints.Descriptor.Basic
import MessageConstraints.Descriptor.Declaration
import MessageConstraints.Descriptor.File
import MessageConstraints.Descriptor.FileSet
import MessageConstraints.Descriptor.Link
import MessageConstraints.Descriptor.Numbering
import MessageConstraints.Descriptor.Scope
import MessageConstraints.Descriptor.Setting
import MessageConstraints.Descriptor.Standard
import MessageConstraints.Descriptor.WellKnown
import MessageConstraints.Evaluation
import MessageConstraints.Event
import MessageConstraints.Failure
import MessageConstraints.FieldPath
import MessageConstraints.Json.Basic
import MessageConstraints.Json.Number
import MessageConstraints.Json.Parser
import MessageConstraints.Json.Token
import MessageConstraints.Main
import MessageConstraints.NameMap
import MessageConstraints.Number.Arithmetic
import MessageConstraints.Number.Binary
import MessageConstraints.Number.Bound
import MessageConstraints.Number.Layout
import MessageConstraints.Number.Reading
import MessageConstraints.Number.Rounding
import MessageConstraints.Number.Shortest
import MessageConstraints.Outcome
import MessageConstraints.Pattern
import MessageConstraints.Pattern.Automaton
import MessageConstraints.Pattern.LiteralTree
import MessageConstraints.Pattern.Matcher
import MessageConstraints.Pattern.Meaning
import MessageConstraints.Pattern.Parser
import MessageConstraints.Pattern.Search
import MessageConstraints.Pattern.Syntax
import MessageConstraints.Schema.Basic
import MessageConstraints.Schema.Literal
import MessageConstraints.Schema.Options
import MessageConstraints.Store
import MessageConstraints.Template
import MessageConstraints.Text.Base64
import MessageConstraints.Text.Blank
import MessageConstraints.Text.Escaped
import MessageConstraints.Text.Quoted
import MessageConstraints.Text.Split
import MessageConstraints.Text.Unescaped
import MessageConstraints.Text.Utf8
import MessageConstraints.Unicode.Age
import MessageConstraints.Unicode.Break
import MessageConstraints.Unicode.Category
import MessageConstraints.Unicode.CharSet
import MessageConstraints.Unicode.Classes
import MessageConstraints.Unicode.Folding
import MessageConstraints.Unicode.Latest
import MessageConstraints.Unicode.Property
import MessageConstraints.Unicode.Script
import MessageConstraints.Unicode.ScriptExtension
import MessageConstraints.Unicode.Utf8Range
import MessageConstraints.Validator
import MessageConstraints.Value
import MessageConstraints.Value.Json
import MessageConstraints.Value.Moment
import MessageConstraints.Value.WellKnown
import MessageConstraints.Violation
import MessageConstraints.Wire.Record
import MessageConstraints.Wire.Value
import MessageConstraints.Proofs.Combination.Grammar
import MessageConstraints.Proofs.FailFast
import MessageConstraints.Proofs.Evaluation
import MessageConstraints.Proofs.Store
import MessageConstraints.Proofs.Broken
import MessageConstraints.Proofs.Reporting
import MessageConstraints.Proofs.Transparency
import MessageConstraints.Proofs.Compilation
import MessageConstraints.Proofs.Collecting
import MessageConstraints.Proofs.Failing
import MessageConstraints.Proofs.Calls
import MessageConstraints.Proofs.Visiting
import MessageConstraints.Proofs.Depth
import MessageConstraints.Proofs.Linked
import MessageConstraints.Proofs.Eager
import MessageConstraints.Proofs.Elements
import MessageConstraints.Proofs.Listing
import MessageConstraints.Proofs.Composition
import MessageConstraints.Proofs.Order
import MessageConstraints.Proofs.Rendering
import MessageConstraints.Proofs.PathText
import MessageConstraints.Proofs.Once
import MessageConstraints.Proofs.Refusal
import MessageConstraints.Proofs.StoredDefaults
import MessageConstraints.Proofs.Frozen
import MessageConstraints.Proofs.Integers
import MessageConstraints.Proofs.RangeEnds
import MessageConstraints.Proofs.Duplicates
import MessageConstraints.Proofs.Presence
import MessageConstraints.Proofs.Tables
import MessageConstraints.Proofs.ConstraintSets
import MessageConstraints.Proofs.RuleSets
import MessageConstraints.Proofs.Resolution
import MessageConstraints.Proofs.Options
import MessageConstraints.Proofs.StrayBraces
import MessageConstraints.Proofs.MapOrder
import MessageConstraints.Proofs.Overlooked
import MessageConstraints.Proofs.OptionValues
import MessageConstraints.Proofs.Loading
import MessageConstraints.Proofs.Errors
import MessageConstraints.Proofs.NameOrder
