import GatherMap.Key
import GatherMap.Gather
import GatherMap.Error
import GatherMap.LookupTable
import GatherMap.Event
import GatherMap.MaskSearch
import GatherMap.Placement
import GatherMap.Duplicates
import GatherMap.PerfectKeyset
import GatherMap.OrderedKeyset
import GatherMap.Keyset
import GatherMap.Builder
import GatherMap.Map
import GatherMap.Text.Printable
import GatherMap.Text.GraphemeExtend
import GatherMap.Text.Escape
import GatherMap.Code.Token
import GatherMap.Code.Generator
import GatherMap.Code.Value
import GatherMap.Code.Keyset
import GatherMap.Describe
import GatherMap.Text.Identifier
import GatherMap.Text.Alphabetic
import GatherMap.Text.Case
import GatherMap.Text.Blank
import GatherMap.Text.Emoji
import GatherMap.Code.Scan.Basic
import GatherMap.Code.Scan.Strict
import GatherMap.Code.Scan.Loose
import GatherMap.Code.Scan
import GatherMap.Code.Scan.Recover
import GatherMap.Samples
import GatherMap.Code.Literal
import GatherMap.Code.Syntax
import GatherMap.Code.Grammar.Cursor
import GatherMap.Code.Grammar.Rules
import GatherMap.Inline.Input
import GatherMap.Inline.Keys
import GatherMap.Inline.Expand
import GatherMap.Inline.Constant
import GatherMap.Decimal.Float
import GatherMap.Decimal.Functions
import GatherMap.Decimal.Elementary
import GatherMap.Inline.Types
import GatherMap.Inline.Names
import GatherMap.Inline.Integer
import GatherMap.Inline.Primitive
import GatherMap.Inline.TypeSyntax
import GatherMap.Inline.Format
import GatherMap.Inline.Typing
import GatherMap.Inline.Evaluate
import GatherMap.Inline.Library
import GatherMap.Inline.Probes
import GatherMap.Inline.Exhaustive
import GatherMap.Inline.Compile
import GatherMap.Decimal.Shortest
import GatherMap.Decimal.Notation
import GatherMap.Proofs.Gather
import GatherMap.Proofs.Runs
import GatherMap.Proofs.Duplicates
import GatherMap.Proofs.Placement
import GatherMap.Proofs.PerfectBuild
import GatherMap.Proofs.MapBuild
import GatherMap.Proofs.Validation
import GatherMap.Proofs.RawParts
import GatherMap.Proofs.MapRead
import GatherMap.Proofs.Reload
import GatherMap.Proofs.InputOrder
import GatherMap.Proofs.LowerBound
import GatherMap.Proofs.MaskChoice
import GatherMap.Proofs.Layout
import GatherMap.Proofs.InlineReports
import GatherMap.Proofs.RemovalChain
import GatherMap.Proofs.EntryErrors
import GatherMap.Proofs.DuplicateReport
import GatherMap.Proofs.Rebuild
import GatherMap.Proofs.OffsetWidth
import GatherMap.Proofs.SeparatingBits
import GatherMap.Proofs.Retry
import GatherMap.Proofs.Multiplier
import GatherMap.Proofs.Carries
import GatherMap.Proofs.TwoRuns
import GatherMap.Proofs.ShiftBounds
import GatherMap.Proofs.NarrowKeys
import GatherMap.Proofs.HexNumbers
import GatherMap.Proofs.Imports
import GatherMap.Proofs.LiteralText
import GatherMap.Proofs.CodeReading
import GatherMap.Proofs.KeysetReading
import GatherMap.Proofs.GeneratedCode
import GatherMap.Proofs.KeyRange
