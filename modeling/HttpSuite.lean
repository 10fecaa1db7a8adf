import HttpSuite.Text.Blank
import HttpSuite.Text.Lines
import HttpSuite.Text.Search
import HttpSuite.Number.Power
import HttpSuite.Text.Ascii
import HttpSuite.Table
import HttpSuite.Number.Notation
import HttpSuite.Json.Reader
import HttpSuite.Json.Writer
import HttpSuite.JsonPath
import HttpSuite.Text.Template
import HttpSuite.Text.Quoted
import HttpSuite.Http.Method
import HttpSuite.Files
import HttpSuite.Calendar
import HttpSuite.Variables.Generator
import HttpSuite.Variables.State
import HttpSuite.Document.Compile
import HttpSuite.Assertion.Evaluate
import HttpSuite.Script.Syntax
import HttpSuite.Text.Units
import HttpSuite.Script.Token
import HttpSuite.Script.Grammar
import HttpSuite.Script.Expression
import HttpSuite.Script.Statement
import HttpSuite.Script.Value
import HttpSuite.Script.Heap
import HttpSuite.Text.Case
import HttpSuite.Number.Rounding
import HttpSuite.Script.Datum
import HttpSuite.Script.Freeze
import HttpSuite.Script.Convert
import HttpSuite.Script.Engine
import HttpSuite.Script.Library.Object
import HttpSuite.Script.Library.Array
import HttpSuite.Script.Library.Text
import HttpSuite.Script.Library.Number
import HttpSuite.Script.Library.Promise
import HttpSuite.Script.Library.Host
import HttpSuite.Script.Operators
import HttpSuite.Script.Evaluate
import HttpSuite.Script.Machine
import HttpSuite.Script.Realm
import HttpSuite.Script.Trial
import HttpSuite.Script.Sandbox
import HttpSuite.Text.Percent
import HttpSuite.Url.Address
import HttpSuite.Url.Punycode
import HttpSuite.Text.Runs
import HttpSuite.Text.Composition
import HttpSuite.Text.Direction
import HttpSuite.Url.Folding
import HttpSuite.Url.Label
import HttpSuite.Url.Domain
import HttpSuite.Url.Basic
import HttpSuite.Url.Reader
import HttpSuite.Error
import HttpSuite.Http.Target
import HttpSuite.Http.Header
import HttpSuite.Http.Request
import HttpSuite.Http.Response
import HttpSuite.Exchange.Source
import HttpSuite.Exchange.Result
import HttpSuite.Exchange.Run
import HttpSuite.Exchange.Report
import HttpSuite.Toml.Basic
import HttpSuite.Toml.Scalar
import HttpSuite.Toml.Reader
import HttpSuite.Configuration
import HttpSuite.Document.Json
import HttpSuite.CommandLine.Arguments
import HttpSuite.CommandLine.Perform
import HttpSuite.Main
import HttpSuite.Proofs.Variables.Frame
import HttpSuite.Proofs.Exchange.Course
import HttpSuite.Proofs.Exchange.Verdict
import HttpSuite.Proofs.Exchange.Failure
import HttpSuite.Proofs.Text.Lines
import HttpSuite.Proofs.Document.Draft
import HttpSuite.Proofs.Document.RoundTrip
import HttpSuite.Proofs.Variables.Placeholder
import HttpSuite.Proofs.Variables.TwoPhase
import HttpSuite.Proofs.Document.Separation
import HttpSuite.Proofs.Document.Extraction
import HttpSuite.Proofs.Document.Account
import HttpSuite.Proofs.Variables.History
import HttpSuite.Proofs.Exchange.Overrides
import HttpSuite.Proofs.Document.Roles
import HttpSuite.Proofs.Text.Decimal
import HttpSuite.Proofs.JsonPath.Composition
import HttpSuite.Proofs.JsonPath.Address
import HttpSuite.Proofs.Variables.Reference
import HttpSuite.Proofs.Variables.BodyPath
import HttpSuite.Proofs.Document.WellFormed
import HttpSuite.Proofs.Exchange.Provenance
import HttpSuite.Proofs.Exchange.Recording
import HttpSuite.Proofs.Document.Rescan
import HttpSuite.Proofs.Document.Target
import HttpSuite.Proofs.Document.LineEnds
import HttpSuite.Proofs.Document.Isolation
import HttpSuite.Proofs.Variables.Occurrence
import HttpSuite.Proofs.Variables.Snapshot
import HttpSuite.Proofs.Json.Document
import HttpSuite.Proofs.JsonPath.Descent
import HttpSuite.Proofs.JsonPath.Plain
import HttpSuite.Proofs.Assertion.Notation
import HttpSuite.Proofs.Number.Order
import HttpSuite.Proofs.Assertion.Comparison
import HttpSuite.Proofs.Assertion.Containment
import HttpSuite.Proofs.Assertion.Presence
import HttpSuite.Proofs.Script.Heap
import HttpSuite.Proofs.Script.Freezing
import HttpSuite.Proofs.Script.Account
import HttpSuite.Proofs.Script.DeepFreeze
import HttpSuite.Proofs.Script.Layering
import HttpSuite.Proofs.Script.ResponseObject
import HttpSuite.Proofs.Script.HeaderViews
import HttpSuite.Proofs.Script.Rejections
import HttpSuite.Proofs.Script.Silent
import HttpSuite.Proofs.Script.Telling
import HttpSuite.Proofs.Script.Turns
import HttpSuite.Proofs.Script.Unhandled
import HttpSuite.Proofs.Script.FrozenResponse
import HttpSuite.Proofs.Script.Trials
import HttpSuite.Proofs.Document.Spacing
import HttpSuite.Proofs.Http.ShortTarget
import HttpSuite.Proofs.Document.Blocks
import HttpSuite.Proofs.Document.Body
import HttpSuite.Proofs.Text.ByteOrder
import HttpSuite.Proofs.Script.Variables
import HttpSuite.Proofs.Exchange.Merging
import HttpSuite.Proofs.Calendar
import HttpSuite.Proofs.Variables.Arguments
import HttpSuite.Proofs.Variables.Offset
import HttpSuite.Proofs.Variables.Timestamp
import HttpSuite.Proofs.Variables.Dotenv
import HttpSuite.Proofs.Document.Delimiters
