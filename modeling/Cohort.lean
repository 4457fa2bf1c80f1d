import Cohort.Text.WordCase
import Cohort.Text.Quoted
import Cohort.Text.Slice
import Cohort.Text.Blank
import Cohort.Text.Noun
import Cohort.Number.Basic
import Cohort.Expression.Basic
import Cohort.Expression.Plan
import Cohort.Expression.Simplify
import Cohort.Expression.Wire
import Cohort.Dialect
import Cohort.Context
import Cohort.Builder.Basic
import Cohort.Builder.Wire
import Cohort.Builder.Hook
import Cohort.Builder.TemplateBuilder
import Cohort.Stock.Operator
import Cohort.Stock.Source
import Cohort.Stock.Field
import Cohort.Stock.Event
import Cohort.Registry
import Cohort.Compile
import Cohort.Toml.Reader
import Cohort.Text.Digits
import Cohort.Files.Path
import Cohort.Files.Access
import Cohort.Settings
import Cohort.Catalog
import Cohort.CommandLine.Arguments
import Cohort.CommandLine.Run
import Cohort.Main
import Cohort.Proofs.Expression.WellFormed
import Cohort.Proofs.Expression.Meaning
import Cohort.Proofs.Expression.Simplify
import Cohort.Proofs.Expression.Steps
import Cohort.Proofs.Expression.NormalForm
import Cohort.Proofs.Compile.InOrder
import Cohort.Proofs.Compile.Stitched
import Cohort.Proofs.Compile.Sequential
import Cohort.Proofs.Compile.Simplified
import Cohort.Proofs.Expression.Shape
import Cohort.Proofs.Text.Parentheses
import Cohort.Proofs.Compile.Readable
import Cohort.Proofs.Template.Skeleton
import Cohort.Proofs.Template.BlockScope
import Cohort.Proofs.Template.Prints
import Cohort.Proofs.Template.PrintLinear
import Cohort.Proofs.Template.Traced
import Cohort.Proofs.Template.TracedEvaluation
import Cohort.Proofs.Template.SharedContext
import Cohort.Proofs.Template.BoundOnly
import Cohort.Proofs.Builder.Open
import Cohort.Proofs.Compile.Placeholders
import Cohort.Proofs.Text.LetterBlank
import Cohort.Proofs.Template.Source.Printing
import Cohort.Proofs.Template.Source.Words
import Cohort.Proofs.Template.Source.Grammar
import Cohort.Proofs.Template.Source.Actions
import Cohort.Proofs.Template.Source.Scanning
import Cohort.Proofs.Template.Source.Reading
import Cohort.Proofs.Template.Source.Layout
import Cohort.Proofs.Template.Source.Interleaving
import Cohort.Proofs.Template.Source.Steps
import Cohort.Proofs.Template.Source.Comments
import Cohort.Proofs.Template.Elements
import Cohort.Proofs.Template.Source.Checked
import Cohort.Proofs.Template.Faults
import Cohort.Proofs.Template.Safety
import Cohort.Proofs.Template.Choice
import Cohort.Proofs.Stock.Lines
import Cohort.Proofs.Stock.Trees
import Cohort.Proofs.Fragment.Passing
import Cohort.Proofs.Stock.Answers
import Cohort.Proofs.Stock.Numbers
import Cohort.Proofs.Fragment.Reading
import Cohort.Proofs.Text.Split
import Cohort.Proofs.Stock.Texts
import Cohort.Proofs.Registry.Coherent
import Cohort.Proofs.CommandLine.Checking
import Cohort.Proofs.Stock.ClientFaults
import Cohort.Proofs.Fragment.Wire
import Cohort.Proofs.Registry.Views
import Cohort.Proofs.Registry.Extension
import Cohort.Proofs.Registry.Groups
import Cohort.Proofs.Registry.Installing
import Cohort.Proofs.Compile.Lasting
import Cohort.Proofs.Compile.Overlooked
import Cohort.Proofs.Fragment.Outcome
import Cohort.Proofs.Fragment.Skipping
import Cohort.Proofs.Template.Literals
import Cohort.Proofs.Stock.EventNames
import Cohort.Proofs.Template.Spreading
import Cohort.Proofs.Builder.Offered
import Cohort.Proofs.Number.Rounding
import Cohort.Proofs.Template.Comparing
import Cohort.Proofs.Value.Equality
import Cohort.Proofs.Fragment.Absent
import Cohort.Proofs.Template.Formatting
import Cohort.Proofs.Text.Compact
import Cohort.Proofs.Document.Respelling
import Cohort.Proofs.Expression.Wire
