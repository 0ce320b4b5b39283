import ContentVisibility.Attributes.Basic
import ContentVisibility.Attributes.Json
import ContentVisibility.Attributes.Scan
import ContentVisibility.Condition
import ContentVisibility.Decimal.Layout
import ContentVisibility.Decimal.Shortest
import ContentVisibility.Description
import ContentVisibility.Hooks
import ContentVisibility.HostError
import ContentVisibility.Json.Error
import ContentVisibility.Json.Number
import ContentVisibility.Json.Printer
import ContentVisibility.Json.Quoted
import ContentVisibility.Json.Reader
import ContentVisibility.Json.Record
import ContentVisibility.Json.Value
import ContentVisibility.Main
import ContentVisibility.Renderer
import ContentVisibility.Rule.Json
import ContentVisibility.Rule.Judgement
import ContentVisibility.Rule.Listing
import ContentVisibility.Rule.Predicate
import ContentVisibility.Rule.RuleSet
import ContentVisibility.Rule.Segment
import ContentVisibility.Run
import ContentVisibility.Selector
import ContentVisibility.Settings.Assignments
import ContentVisibility.Settings.Basic
import ContentVisibility.Settings.Environment
import ContentVisibility.Settings.Error
import ContentVisibility.Settings.Load
import ContentVisibility.Shortcode.Opening
import ContentVisibility.Shortcode.Tiling
import ContentVisibility.Specification
import ContentVisibility.Text.Basic
import ContentVisibility.Text.Blank
import ContentVisibility.Text.Cut
import ContentVisibility.Text.Keyword
import ContentVisibility.Text.Order
import ContentVisibility.Text.Quoted
import ContentVisibility.Text.Ranges
import ContentVisibility.Text.Word
import ContentVisibility.Trace.Basic
import ContentVisibility.Trace.Event
import ContentVisibility.Viewer.Basic
import ContentVisibility.Viewer.Json
import ContentVisibility.Viewer.NameSet
import ContentVisibility.Proofs.Shortcode.Opening
import ContentVisibility.Proofs.Shortcode.Tiling
import ContentVisibility.Proofs.Rendering.Tiling
import ContentVisibility.Proofs.Selection
import ContentVisibility.Proofs.Rendering.Depth
import ContentVisibility.Proofs.Shortcode.Replacement
import ContentVisibility.Proofs.Rendering.Secrecy
import ContentVisibility.Proofs.Judgement
import ContentVisibility.Proofs.Attributes
import ContentVisibility.Proofs.Rendering.WrittenNames
import ContentVisibility.Proofs.Requirement
import ContentVisibility.Proofs.Rendering.TagSet
import ContentVisibility.Proofs.Rendering.SingleBlock
import ContentVisibility.Proofs.Questions
import ContentVisibility.Proofs.Rendering.HookCalls
import ContentVisibility.Proofs.Rendering.Subsequence
import ContentVisibility.Proofs.Rendering.Alternatives
import ContentVisibility.Proofs.Anonymous
import ContentVisibility.Proofs.Exclusion
import ContentVisibility.Proofs.Attributes.Grammar
import ContentVisibility.Proofs.Attributes.Choices
import ContentVisibility.Proofs.Attributes.Leftmost
import ContentVisibility.Proofs.Attributes.Writing
import ContentVisibility.Proofs.Json.Literal
import ContentVisibility.Proofs.Json.Numeral
import ContentVisibility.Proofs.Json.Tree
import ContentVisibility.Proofs.Json.Record
import ContentVisibility.Proofs.Json.Compact
import ContentVisibility.Proofs.Snapshot
import ContentVisibility.Proofs.Negation
import ContentVisibility.Proofs.Scan
import ContentVisibility.Proofs.Union
import ContentVisibility.Proofs.Promotion
import ContentVisibility.Proofs.Listing
import ContentVisibility.Proofs.Formula
import ContentVisibility.Proofs.Text.Bytes
import ContentVisibility.Proofs.Shortcode.Rounds
import ContentVisibility.Proofs.Rendering.Rounds
