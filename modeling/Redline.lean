import Redline.Command.Arguments
import Redline.Command.Grammar
import Redline.Command.Reach
import Redline.Command.Run
import Redline.Data.Atom
import Redline.Data.Calendar
import Redline.Data.Document
import Redline.Data.Json
import Redline.Data.Scalar
import Redline.Data.Slots
import Redline.Data.Value
import Redline.Data.Yaml.Cursor
import Redline.Data.Yaml.Document
import Redline.Data.Yaml.Fault
import Redline.Data.Yaml.Merge
import Redline.Data.Yaml.Node
import Redline.Data.Yaml.Scalar
import Redline.Data.Yaml.Source
import Redline.Data.Yaml.Tag
import Redline.Data.Yaml.Token
import Redline.Data.Yaml.Token.Block
import Redline.Data.Yaml.Token.Label
import Redline.Data.Yaml.Token.Plain
import Redline.Data.Yaml.Token.Queue
import Redline.Data.Yaml.Token.Quoted
import Redline.Diff.Alignment
import Redline.Diff.Hunk
import Redline.Diff.Patch
import Redline.Diff.Report
import Redline.Diff.Unified
import Redline.Disk.Operations
import Redline.Disk.Path
import Redline.Disk.Tree
import Redline.Log
import Redline.Main
import Redline.Metrics.Journal
import Redline.Metrics.Statistics
import Redline.Moment
import Redline.Number.Based
import Redline.Number.Decimal
import Redline.Number.Floating
import Redline.Number.Real
import Redline.Omission.Pattern
import Redline.Omission.Rules
import Redline.Omission.Scan
import Redline.Proofs.Diff.Body
import Redline.Proofs.Diff.Placement
import Redline.Proofs.Outcome
import Redline.Proofs.Text.Lines
import Redline.Review.Coloring
import Redline.Review.Console
import Redline.Review.Decision
import Redline.Review.Surface
import Redline.Review.Viewer
import Redline.Settings.Basic
import Redline.Settings.File
import Redline.Syntax.Check
import Redline.Syntax.Tree
import Redline.Text.Basic
import Redline.Text.Casing
import Redline.Text.Digit
import Redline.Text.Lower
import Redline.Text.Printable
import Redline.Text.Quoted
import Redline.Text.Reader
import Redline.Text.Row
import Redline.Text.Sextets
import Redline.Text.Utf8
import Redline.Text.Wording
import Redline.Write.Execution
import Redline.Write.Failure
import Redline.Write.Framing
import Redline.Write.Preview
import Redline.Write.Response
import Redline.Write.Session
import Redline.Write.Store
import Redline.Proofs.Diff.Accurate
import Redline.Proofs.Diff.Alignment
import Redline.Proofs.Diff.Grouping
import Redline.Proofs.Number.Decimal
import Redline.Proofs.Text.Rows
import Redline.Proofs.Diff.ReviewRoundTrip
import Redline.Proofs.Disk.Frame
import Redline.Proofs.Disk.Naming
import Redline.Proofs.Write.Storing
import Redline.Proofs.Write.Approval
import Redline.Proofs.Write.SavedPath
import Redline.Proofs.Diff.Repeats
import Redline.Proofs.Write.Consent
import Redline.Proofs.Command.Line
import Redline.Proofs.Command.Unattended
import Redline.Proofs.Write.Streaming
import Redline.Proofs.Diff.Reparsing
import Redline.Proofs.Diff.Unambiguous
import Redline.Proofs.Text.Utf8
import Redline.Proofs.Text.Reader
import Redline.Proofs.Data.Json
import Redline.Proofs.Disk.Shunned
import Redline.Proofs.Metrics.Journal
import Redline.Proofs.Write.Atomic
import Redline.Proofs.Metrics.Statistics
import Redline.Proofs.Write.Journaled
import Redline.Proofs.Write.Accounting
import Redline.Proofs.Write.Rest
import Redline.Proofs.Diff.Origins
import Redline.Proofs.Omission.Findings
import Redline.Proofs.Omission.Patched
import Redline.Proofs.Write.Scanned
import Redline.Proofs.Disk.Apart
import Redline.Proofs.Metrics.Confined
import Redline.Proofs.Write.Agreement
import Redline.Proofs.Write.Advisory
import Redline.Proofs.Diff.Partition
import Redline.Proofs.Diff.Grammar
import Redline.Proofs.Diff.Blame
import Redline.Proofs.Diff.Rounds
import Redline.Proofs.Diff.Attempt
import Redline.Proofs.Diff.Visible
import Redline.Proofs.Text.Trim
import Redline.Proofs.Write.Entities
import Redline.Proofs.Write.Framing
import Redline.Proofs.Omission.Passes
import Redline.Proofs.Omission.Antitone
import Redline.Proofs.Write.Aborted
import Redline.Proofs.Write.History
import Redline.Proofs.Omission.Vocabulary
import Redline.Proofs.Syntax.FirstFault
import Redline.Proofs.Review.Answers
import Redline.Proofs.Text.Ends
import Redline.Proofs.Data.Numerals
import Redline.Proofs.Metrics.Ranking
import Redline.Proofs.Metrics.Damaged
import Redline.Proofs.Diff.FinalFeed
import Redline.Proofs.Data.Written
import Redline.Proofs.Data.Renumbered
import Redline.Proofs.Settings.Priority
