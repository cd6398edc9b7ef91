import CodeFold.Cache
import CodeFold.Command.Arguments
import CodeFold.Command.Run
import CodeFold.Command.Starter
import CodeFold.Config.Basic
import CodeFold.Config.Decode
import CodeFold.Config.Error
import CodeFold.Config.Registry
import CodeFold.Config.Validation
import CodeFold.Data.DateTime
import CodeFold.Data.Json
import CodeFold.Data.JsonReader
import CodeFold.Data.JsonText
import CodeFold.Data.SortedMap
import CodeFold.Data.Toml.Reader
import CodeFold.Data.Toml.Value
import CodeFold.Data.Tree
import CodeFold.Files.Detector
import CodeFold.Files.Execute
import CodeFold.Files.Ignore
import CodeFold.Files.Path
import CodeFold.Files.Tree
import CodeFold.Files.Walk
import CodeFold.Fold
import CodeFold.Glob.Basic
import CodeFold.Glob.Parser
import CodeFold.Glob.Token
import CodeFold.Language
import CodeFold.Main
import CodeFold.Number.Binary64
import CodeFold.Number.Shortest
import CodeFold.Pattern.Basic
import CodeFold.Pattern.Error
import CodeFold.Pattern.Expr
import CodeFold.Pattern.Meaning
import CodeFold.Pattern.Parser
import CodeFold.Pattern.Program
import CodeFold.Pattern.Search
import CodeFold.Pattern.Tree
import CodeFold.Proofs.Arena
import CodeFold.Proofs.Frame
import CodeFold.Proofs.HitSpan
import CodeFold.Proofs.MatchSpan
import CodeFold.Proofs.Run
import CodeFold.Proofs.Scope
import CodeFold.Range
import CodeFold.Report.Human
import CodeFold.Report.Jsonl
import CodeFold.Report.Styled
import CodeFold.Report.Validation
import CodeFold.Rule.Basic
import CodeFold.Rule.Codec
import CodeFold.Rule.Compile
import CodeFold.Rule.Diagnostic
import CodeFold.Rule.Entry
import CodeFold.Rule.Template
import CodeFold.Scan.Basic
import CodeFold.Scan.Event
import CodeFold.Scan.Hit
import CodeFold.Scan.LineRule
import CodeFold.Scan.Scope
import CodeFold.Text.Digit
import CodeFold.Text.Line
import CodeFold.Text.Quoted
import CodeFold.Unicode.Age
import CodeFold.Unicode.Amendment
import CodeFold.Unicode.Binary
import CodeFold.Unicode.Break
import CodeFold.Unicode.CaseFolding
import CodeFold.Unicode.Category
import CodeFold.Unicode.CharSet
import CodeFold.Unicode.Lowercase
import CodeFold.Unicode.Property
import CodeFold.Unicode.Script
import CodeFold.Unicode.WhiteSpace
import CodeFold.Proofs.Coherence
import CodeFold.Proofs.PlainSearch
import CodeFold.Proofs.CheckedHit
import CodeFold.Proofs.Pending
import CodeFold.Proofs.CheckedScan
import CodeFold.Proofs.Events
import CodeFold.Proofs.History
import CodeFold.Proofs.Nesting
import CodeFold.Proofs.Share
import CodeFold.Proofs.Offside
import CodeFold.Proofs.Consecutive
import CodeFold.Proofs.Reach
import CodeFold.Proofs.WellNested
import CodeFold.Proofs.Sealed
import CodeFold.Proofs.Delimiters
import CodeFold.Proofs.Append
import CodeFold.Proofs.Shift
import CodeFold.Proofs.Parts
import CodeFold.Proofs.Kept
import CodeFold.Proofs.Preorder
import CodeFold.Proofs.Labels
import CodeFold.Proofs.Dropped
import CodeFold.Proofs.Visits
import CodeFold.Proofs.Registry
import CodeFold.Proofs.Decoding
import CodeFold.Proofs.RoundTrip
import CodeFold.Proofs.RangeList
import CodeFold.Proofs.Places
import CodeFold.Proofs.Balance
import CodeFold.Proofs.Bounds
import CodeFold.Proofs.Literal
import CodeFold.Proofs.Matching
import CodeFold.Proofs.Brackets
import CodeFold.Proofs.LanguageKey
import CodeFold.Proofs.Lookahead
import CodeFold.Proofs.ClassLookahead
import CodeFold.Proofs.GroupLookahead
import CodeFold.Proofs.Reader
import CodeFold.Proofs.SameMeaning
import CodeFold.Proofs.EscapedText
import CodeFold.Proofs.TemplateText
import CodeFold.Proofs.Holes
import CodeFold.Proofs.Substitution
import CodeFold.Proofs.Reference
import CodeFold.Proofs.Validation
import CodeFold.Proofs.SharedCache
import CodeFold.Proofs.Progress
import CodeFold.Proofs.Execution
import CodeFold.Proofs.JsonLines
