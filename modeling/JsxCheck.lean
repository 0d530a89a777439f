import JsxCheck.Config.Basic
import JsxCheck.Config.OptionError
import JsxCheck.Config.OptionFormat
import JsxCheck.Config.Schema
import JsxCheck.Diagnostic
import JsxCheck.Grammar.Classes
import JsxCheck.Grammar.Elements
import JsxCheck.Grammar.Escape
import JsxCheck.Grammar.Exports
import JsxCheck.Grammar.Expressions
import JsxCheck.Grammar.Functions
import JsxCheck.Grammar.Names
import JsxCheck.Grammar.Parser
import JsxCheck.Grammar.Program
import JsxCheck.Grammar.Statements
import JsxCheck.Grammar.Targets
import JsxCheck.Grammar.Token
import JsxCheck.Grammar.Types
import JsxCheck.Json.Decimal
import JsxCheck.Json.Reader
import JsxCheck.Json.Value
import JsxCheck.Lint.Basic
import JsxCheck.Lint.Check
import JsxCheck.Lint.NamePass
import JsxCheck.Lint.Pass
import JsxCheck.Lint.Walk
import JsxCheck.Pattern.Basic
import JsxCheck.Pattern.CharSet
import JsxCheck.Pattern.Match
import JsxCheck.Pattern.Property
import JsxCheck.Pattern.Reader
import JsxCheck.Proofs.Config.Entries
import JsxCheck.Proofs.Config.Objects
import JsxCheck.Proofs.Config.RoundTrip
import JsxCheck.Proofs.Config.Schemas
import JsxCheck.Proofs.Config.Settings
import JsxCheck.Proofs.Fix.Carried
import JsxCheck.Proofs.Fix.Gaps
import JsxCheck.Proofs.Fix.Order
import JsxCheck.Proofs.Fix.Splice
import JsxCheck.Proofs.Fix.Text
import JsxCheck.Proofs.Grammar.Strings
import JsxCheck.Proofs.Guarded.Fault
import JsxCheck.Proofs.Guarded.Gaps
import JsxCheck.Proofs.Guarded.Layout
import JsxCheck.Proofs.Guarded.Lines
import JsxCheck.Proofs.Guarded.Run
import JsxCheck.Proofs.Guarded.Texts
import JsxCheck.Proofs.Json.Fields
import JsxCheck.Proofs.Lint.Applicable
import JsxCheck.Proofs.Lint.Fixes
import JsxCheck.Proofs.Lint.Isolation
import JsxCheck.Proofs.Lint.Issued
import JsxCheck.Proofs.Lint.KeptComments
import JsxCheck.Proofs.Lint.MethodRefs
import JsxCheck.Proofs.Lint.MissingKeys
import JsxCheck.Proofs.Lint.NameWalk
import JsxCheck.Proofs.Lint.Passes
import JsxCheck.Proofs.Lint.Positions
import JsxCheck.Proofs.Lint.Repeats
import JsxCheck.Proofs.Lint.Reporter
import JsxCheck.Proofs.Lint.Sliceable
import JsxCheck.Proofs.Lint.Variants
import JsxCheck.Proofs.Lint.Walk
import JsxCheck.Proofs.Report.Merge
import JsxCheck.Proofs.Report.MergedPasses
import JsxCheck.Proofs.Rule.AlignedTags
import JsxCheck.Proofs.Rule.Applicable
import JsxCheck.Proofs.Rule.AtNodes
import JsxCheck.Proofs.Rule.BesideTokens
import JsxCheck.Proofs.Rule.ElementsOnce
import JsxCheck.Proofs.Rule.Issued
import JsxCheck.Proofs.Rule.KeptComments
import JsxCheck.Proofs.Rule.LayoutOnce
import JsxCheck.Proofs.Rule.ListKeys
import JsxCheck.Proofs.Rule.NodesOnce
import JsxCheck.Proofs.Rule.OnTags
import JsxCheck.Proofs.Rule.PartsOnce
import JsxCheck.Proofs.Rule.Quotes
import JsxCheck.Proofs.Rule.ReplacedRuns
import JsxCheck.Proofs.Rule.Runs
import JsxCheck.Proofs.Rule.SearchedTwice
import JsxCheck.Proofs.Rule.SettledSpacing
import JsxCheck.Proofs.Rule.SortedAttributes
import JsxCheck.Proofs.Rule.SortedMembers
import JsxCheck.Proofs.Rule.TagsOnce
import JsxCheck.Proofs.Source.Boundaries
import JsxCheck.Proofs.Source.ByteOrder
import JsxCheck.Proofs.Source.Bytes
import JsxCheck.Proofs.Source.Characters
import JsxCheck.Proofs.Source.Columns
import JsxCheck.Proofs.Source.Comments
import JsxCheck.Proofs.Source.Lines
import JsxCheck.Proofs.Source.Occurrences
import JsxCheck.Proofs.Source.Search
import JsxCheck.Proofs.Syntax.Faithful
import JsxCheck.Proofs.Syntax.Formed
import JsxCheck.Proofs.Syntax.Placed
import JsxCheck.Proofs.Syntax.PrunedWalks
import JsxCheck.Proofs.Syntax.Searches
import JsxCheck.Proofs.Syntax.Seats
import JsxCheck.Proofs.Syntax.Sites
import JsxCheck.Proofs.Syntax.Tree
import JsxCheck.Proofs.Syntax.Views
import JsxCheck.Proofs.Text.Collation
import JsxCheck.Report
import JsxCheck.Resolve.Binding
import JsxCheck.Resolve.Resolver
import JsxCheck.Resolve.Scope
import JsxCheck.Rule.Attributes.Bans
import JsxCheck.Rule.Attributes.Forms
import JsxCheck.Rule.Attributes.FreshValues
import JsxCheck.Rule.Attributes.Order
import JsxCheck.Rule.Attributes.StringRefs
import JsxCheck.Rule.Attributes.Translation
import JsxCheck.Rule.Children.Fragments
import JsxCheck.Rule.Children.Keys
import JsxCheck.Rule.Components.Identifiers
import JsxCheck.Rule.Components.MethodRefs
import JsxCheck.Rule.Components.PrimitiveProps
import JsxCheck.Rule.Components.PropInterfaces
import JsxCheck.Rule.Components.SimpleProps
import JsxCheck.Rule.Components.State
import JsxCheck.Rule.Layout.Alignment
import JsxCheck.Rule.Layout.BraceSpacing
import JsxCheck.Rule.Layout.EqualsSpacing
import JsxCheck.Rule.Layout.NonBreakingSpace
import JsxCheck.Rule.Layout.TrailingSlash
import JsxCheck.Rule.Layout.Wrapping
import JsxCheck.Rule.Metadata
import JsxCheck.Rule.Name
import JsxCheck.Rule.Options
import JsxCheck.Source.Dialect
import JsxCheck.Source.Document
import JsxCheck.Source.Gap
import JsxCheck.Source.Guarded
import JsxCheck.Source.Lines
import JsxCheck.Source.Span
import JsxCheck.Source.Text
import JsxCheck.Syntax.CallShape
import JsxCheck.Syntax.ClassShape
import JsxCheck.Syntax.Element
import JsxCheck.Syntax.Node
import JsxCheck.Syntax.Tag
import JsxCheck.Syntax.TypeShape
import JsxCheck.Syntax.Visit
import JsxCheck.Syntax.Walk
import JsxCheck.Text.Blank
import JsxCheck.Text.CaseCycle
import JsxCheck.Text.CaseRun
import JsxCheck.Text.Category
import JsxCheck.Text.Collation
import JsxCheck.Text.Collation.Weights
import JsxCheck.Text.Decomposition
import JsxCheck.Text.Identifier
import JsxCheck.Text.Lowercase
import JsxCheck.Text.Property
import JsxCheck.Text.Quoted
import JsxCheck.Text.RangeTable
import JsxCheck.Text.Script
