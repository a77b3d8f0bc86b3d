import SqlGuard.Text.Word
import SqlGuard.Text.Upper
import SqlGuard.Text.Basic
import SqlGuard.Text.Lower
import SqlGuard.Text.Units
import SqlGuard.Text.Quoted
import SqlGuard.Text.Integer
import SqlGuard.Json.Decimal
import SqlGuard.Json.Double
import SqlGuard.Json.Basic
import SqlGuard.Json.Shown
import SqlGuard.Json.Reader
import SqlGuard.Json.Printer
import SqlGuard.Statement.Comment
import SqlGuard.Statement.Filter
import SqlGuard.Rules
import SqlGuard.Report
import SqlGuard.Verdict
import SqlGuard.Repair
import SqlGuard.Answer
import SqlGuard.Log
import SqlGuard.Engine.Basic
import SqlGuard.Engine.Submission
import SqlGuard.Engine.Check
import SqlGuard.Engine.Mend
import SqlGuard.Audit
import SqlGuard.Settings
import SqlGuard.Wire.Utf8
import SqlGuard.Wire.Encoding
import SqlGuard.Wire.Percent
import SqlGuard.Wire.Address
import SqlGuard.Http.Limit
import SqlGuard.Http.Abort
import SqlGuard.Http.Request
import SqlGuard.Http.Part
import SqlGuard.Http.Route
import SqlGuard.Http.Framework
import SqlGuard.Http.Config
import SqlGuard.Http.Handler
import SqlGuard.Http.Form
import SqlGuard.Http.Response
import SqlGuard.Http.Service
import SqlGuard.Proofs.Text.Lines
import SqlGuard.Proofs.Text.Search
import SqlGuard.Proofs.Text.Words
import SqlGuard.Proofs.Text.Upper
import SqlGuard.Proofs.Text.Case
import SqlGuard.Proofs.Statement.Split
import SqlGuard.Proofs.Statement.Comment
import SqlGuard.Proofs.Statement.Code
import SqlGuard.Proofs.Statement.Block
import SqlGuard.Proofs.Statement.Clean
import SqlGuard.Proofs.Statement.Filler
import SqlGuard.Proofs.Statement.Filter
import SqlGuard.Proofs.Statement.Grammar
import SqlGuard.Proofs.Statement.Spacing
import SqlGuard.Proofs.Statement.Sweep
import SqlGuard.Proofs.Statement.Detect
import SqlGuard.Proofs.Statement.Case
import SqlGuard.Proofs.Verdict.Meaning
import SqlGuard.Proofs.Verdict.Concat
import SqlGuard.Proofs.Verdict.Filter
import SqlGuard.Proofs.Verdict.Header
import SqlGuard.Proofs.Verdict.Between
import SqlGuard.Proofs.Verdict.TableDrop
import SqlGuard.Proofs.Verdict.Strictness
import SqlGuard.Proofs.Verdict.Attribution
import SqlGuard.Proofs.Verdict.Consistency
import SqlGuard.Proofs.Rules.Flag
import SqlGuard.Proofs.Rules.Override
import SqlGuard.Proofs.Verdict.Remark
import SqlGuard.Proofs.Repair.Statement
import SqlGuard.Proofs.Repair.Live
import SqlGuard.Proofs.Repair.Input
import SqlGuard.Proofs.Repair.Report
import SqlGuard.Proofs.Repair.Kind
import SqlGuard.Proofs.Repair.Case
import SqlGuard.Proofs.Engine.Run
import SqlGuard.Proofs.Engine.Trace
import SqlGuard.Proofs.Engine.Faults
import SqlGuard.Proofs.Http.Endpoint
import SqlGuard.Proofs.Http.Answer
import SqlGuard.Proofs.Http.Isolation
import SqlGuard.Proofs.Http.Trail
import SqlGuard.Proofs.Repair.Clause
import SqlGuard.Proofs.Repair.Spacing
import SqlGuard.Proofs.Repair.Origin
import SqlGuard.Proofs.Repair.Plain
