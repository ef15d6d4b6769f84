import SchemaCheck.Activity
import SchemaCheck.Activity.Schedule
import SchemaCheck.Bytes
import SchemaCheck.Call
import SchemaCheck.Client
import SchemaCheck.Client.Multi
import SchemaCheck.Collector
import SchemaCheck.CommandLine
import SchemaCheck.Config
import SchemaCheck.Config.Loader
import SchemaCheck.Config.Selection
import SchemaCheck.Config.Toml
import SchemaCheck.Context
import SchemaCheck.Demo
import SchemaCheck.Fault
import SchemaCheck.Finding
import SchemaCheck.Identifier
import SchemaCheck.Json.Parser
import SchemaCheck.Json.Printer
import SchemaCheck.Json.Value
import SchemaCheck.Main
import SchemaCheck.Message.Check
import SchemaCheck.Message.Codec
import SchemaCheck.Message.Listing
import SchemaCheck.Message.Method
import SchemaCheck.Options
import SchemaCheck.Plugin
import SchemaCheck.Proofs.Activity.Calm
import SchemaCheck.Proofs.Activity.Interleaving
import SchemaCheck.Proofs.Activity.Keeping
import SchemaCheck.Proofs.Activity.Live
import SchemaCheck.Proofs.Activity.Runs
import SchemaCheck.Proofs.Activity.Stalling
import SchemaCheck.Proofs.Call.Context
import SchemaCheck.Proofs.Client.Agreement
import SchemaCheck.Proofs.Client.Cache
import SchemaCheck.Proofs.Client.Collision
import SchemaCheck.Proofs.Client.Composition
import SchemaCheck.Proofs.Client.Configured
import SchemaCheck.Proofs.Client.Course
import SchemaCheck.Proofs.Client.Draining
import SchemaCheck.Proofs.Client.Exchange
import SchemaCheck.Proofs.Client.FanOut
import SchemaCheck.Proofs.Client.Listing
import SchemaCheck.Proofs.Client.Local
import SchemaCheck.Proofs.Client.Log
import SchemaCheck.Proofs.Client.Merging
import SchemaCheck.Proofs.Client.Mirror
import SchemaCheck.Proofs.Client.Refused
import SchemaCheck.Proofs.Client.Serving
import SchemaCheck.Proofs.Client.Settling
import SchemaCheck.Proofs.Client.Stopping
import SchemaCheck.Proofs.Client.Union
import SchemaCheck.Proofs.Client.Unlisted
import SchemaCheck.Proofs.Collector.Adding
import SchemaCheck.Proofs.Collector.Answers
import SchemaCheck.Proofs.Collector.Judging
import SchemaCheck.Proofs.Config.Exclusion
import SchemaCheck.Proofs.Config.Expansion
import SchemaCheck.Proofs.Config.Selection
import SchemaCheck.Proofs.Context.Family
import SchemaCheck.Proofs.Demo
import SchemaCheck.Proofs.Demo.Crowd
import SchemaCheck.Proofs.Demo.Findings
import SchemaCheck.Proofs.Demo.Suggestion
import SchemaCheck.Proofs.Fault.Hops
import SchemaCheck.Proofs.Finding.Canonical
import SchemaCheck.Proofs.Finding.Order
import SchemaCheck.Proofs.Json.Grammar
import SchemaCheck.Proofs.Json.RoundTrip
import SchemaCheck.Proofs.Message.AnySpelling
import SchemaCheck.Proofs.Message.Depth
import SchemaCheck.Proofs.Message.Framing
import SchemaCheck.Proofs.Message.Lawful
import SchemaCheck.Proofs.Message.Reencoding
import SchemaCheck.Proofs.Message.RoundTrip
import SchemaCheck.Proofs.Message.Spelling
import SchemaCheck.Proofs.Options.Canonical
import SchemaCheck.Proofs.Plugin.Interchange
import SchemaCheck.Proofs.Plugin.Serving
import SchemaCheck.Proofs.Provider.Agreement
import SchemaCheck.Proofs.Provider.ArrivalOrder
import SchemaCheck.Proofs.Provider.Checking
import SchemaCheck.Proofs.Provider.Paging
import SchemaCheck.Proofs.Provider.SideBySide
import SchemaCheck.Proofs.Provider.Traversal
import SchemaCheck.Proofs.Provider.Verdict
import SchemaCheck.Proofs.Request.Building
import SchemaCheck.Proofs.Request.Messages
import SchemaCheck.Proofs.Request.Splitting
import SchemaCheck.Proofs.Schema.Addresses
import SchemaCheck.Proofs.Schema.Memo
import SchemaCheck.Proofs.Spec.Registry
import SchemaCheck.Proofs.Spec.Validity
import SchemaCheck.Proofs.Text.ByteOrder
import SchemaCheck.Proofs.Text.LowerCase
import SchemaCheck.Proofs.Text.SnakeCase
import SchemaCheck.Proofs.Text.SnakeForm
import SchemaCheck.Proofs.Walk.Coverage
import SchemaCheck.Proofs.Walk.InputOnly
import SchemaCheck.Proofs.Walk.Visits
import SchemaCheck.Provider
import SchemaCheck.Request
import SchemaCheck.Rule
import SchemaCheck.Schema.Codec
import SchemaCheck.Schema.Descriptor
import SchemaCheck.Schema.Item
import SchemaCheck.Schema.Location
import SchemaCheck.Spec
import SchemaCheck.Spec.Validation
import SchemaCheck.Testing.Behaviour
import SchemaCheck.Testing.Case
import SchemaCheck.Testing.Digest
import SchemaCheck.Testing.Disk
import SchemaCheck.Testing.Expression.Matching
import SchemaCheck.Testing.Expression.Syntax
import SchemaCheck.Testing.Fleet
import SchemaCheck.Testing.Host.Chars
import SchemaCheck.Testing.Host.Files
import SchemaCheck.Testing.Host.Process
import SchemaCheck.Testing.Host.Quoting
import SchemaCheck.Testing.Host.Schedule
import SchemaCheck.Testing.Host.World
import SchemaCheck.Testing.Number.Floating
import SchemaCheck.Testing.Number.Layout
import SchemaCheck.Testing.Shell
import SchemaCheck.Testing.Shell.Arithmetic
import SchemaCheck.Testing.Shell.Builtin
import SchemaCheck.Testing.Shell.Condition
import SchemaCheck.Testing.Shell.Execution
import SchemaCheck.Testing.Shell.Expansion
import SchemaCheck.Testing.Shell.Glob
import SchemaCheck.Testing.Shell.Pattern
import SchemaCheck.Testing.Shell.Printing
import SchemaCheck.Testing.Shell.Reading
import SchemaCheck.Testing.Shell.Script
import SchemaCheck.Testing.Shell.State
import SchemaCheck.Testing.Tools
import SchemaCheck.Testing.Tools.Basic
import SchemaCheck.Testing.Tools.Columns
import SchemaCheck.Testing.Tools.Copying
import SchemaCheck.Testing.Tools.Counting
import SchemaCheck.Testing.Tools.Editing
import SchemaCheck.Testing.Tools.Editing.Reading
import SchemaCheck.Testing.Tools.Encoding
import SchemaCheck.Testing.Tools.Letters
import SchemaCheck.Testing.Tools.Lines
import SchemaCheck.Testing.Tools.Ordering
import SchemaCheck.Testing.Tools.Records
import SchemaCheck.Testing.Tools.Records.Reading
import SchemaCheck.Testing.Tools.Searching
import SchemaCheck.Testing.Tools.Starting
import SchemaCheck.Testing.Tools.Storing
import SchemaCheck.Text.CharClass
import SchemaCheck.Text.LowerCase
import SchemaCheck.Text.Quoted
import SchemaCheck.Text.SnakeCase
import SchemaCheck.Text.Sorted
import SchemaCheck.Transport
import SchemaCheck.Walk
