import ScriptClient.Bounded
import ScriptClient.Calendar
import ScriptClient.Call.Raw
import ScriptClient.Call.Typed
import ScriptClient.Channel
import ScriptClient.CommandLine.Arguments
import ScriptClient.CommandLine.Program
import ScriptClient.Demonstration.Calls
import ScriptClient.Demonstration.Probe
import ScriptClient.Demonstration.Tally
import ScriptClient.Demonstration.Whole
import ScriptClient.Endpoint.Authority
import ScriptClient.Endpoint.PathAndQuery
import ScriptClient.Endpoint.Target
import ScriptClient.Json
import ScriptClient.Log.Directive
import ScriptClient.Log.Display
import ScriptClient.Log.Event
import ScriptClient.Log.Filter
import ScriptClient.Log.Line
import ScriptClient.Main
import ScriptClient.Message.Build
import ScriptClient.Message.Health
import ScriptClient.Message.Script
import ScriptClient.Mode
import ScriptClient.Proofs.Calendar.Count
import ScriptClient.Proofs.Calendar.Formula
import ScriptClient.Proofs.Calendar.Words
import ScriptClient.Proofs.Call.Correlation
import ScriptClient.Proofs.Channel
import ScriptClient.Proofs.CommandLine.Accounts
import ScriptClient.Proofs.CommandLine.Program
import ScriptClient.Proofs.Delivery
import ScriptClient.Proofs.Demonstration.Closing
import ScriptClient.Proofs.Demonstration.Failures
import ScriptClient.Proofs.Demonstration.Health
import ScriptClient.Proofs.Demonstration.Sections
import ScriptClient.Proofs.Demonstration.Typed
import ScriptClient.Proofs.Demonstration.Whole
import ScriptClient.Proofs.Json.Reader
import ScriptClient.Proofs.Json.RoundTrip
import ScriptClient.Proofs.Log.Line
import ScriptClient.Proofs.Rpc.Metadata
import ScriptClient.Proofs.Rpc.RequestId
import ScriptClient.Proofs.Session.Logs
import ScriptClient.Proofs.Session.Quiet
import ScriptClient.Proofs.Session.Story
import ScriptClient.Proofs.SortedMap
import ScriptClient.Proofs.StopPoint
import ScriptClient.Proofs.Text.Decimal
import ScriptClient.Proofs.Text.Hex
import ScriptClient.Proofs.Text.Pieces
import ScriptClient.Proofs.Trace.Canonical
import ScriptClient.Proofs.Trace.Reachable
import ScriptClient.Proofs.Wire.Grammar
import ScriptClient.Proofs.Wire.Kind
import ScriptClient.Proofs.Wire.Overlay
import ScriptClient.Proofs.Wire.Prefix
import ScriptClient.Proofs.Wire.Record
import ScriptClient.Proofs.Wire.Schema
import ScriptClient.Proofs.Wire.Unknown
import ScriptClient.Rpc.Ask
import ScriptClient.Rpc.Failure
import ScriptClient.Rpc.Metadata
import ScriptClient.Rpc.Method
import ScriptClient.Session.Basic
import ScriptClient.Session.Run
import ScriptClient.Settings.Basic
import ScriptClient.Settings.Connection
import ScriptClient.Settings.Environment
import ScriptClient.Settings.Logging
import ScriptClient.Settings.Problem
import ScriptClient.SortedMap
import ScriptClient.Text.Alphanumeric
import ScriptClient.Text.Blank
import ScriptClient.Text.CharRange
import ScriptClient.Text.Decimal
import ScriptClient.Text.Hex
import ScriptClient.Text.Lowercase
import ScriptClient.Text.Pattern
import ScriptClient.Text.Pattern.Class
import ScriptClient.Text.Pattern.Escape
import ScriptClient.Text.Pattern.Mode
import ScriptClient.Text.Pieces
import ScriptClient.Text.Position
import ScriptClient.Text.Printable
import ScriptClient.Text.Quoted
import ScriptClient.Text.Utf8
import ScriptClient.Timeout
import ScriptClient.Timestamp
import ScriptClient.Trace.Context
import ScriptClient.Trace.Id
import ScriptClient.Transcript
import ScriptClient.Wire.Key
import ScriptClient.Wire.Message
import ScriptClient.Wire.Skip
import ScriptClient.Wire.Varint
import ScriptClient.Proofs.Timeout
import ScriptClient.Proofs.Settings.Load
import ScriptClient.Proofs.Call.Raw
import ScriptClient.Proofs.Demonstration.CutShort
import ScriptClient.Proofs.Trace.Grammar
import ScriptClient.Proofs.Log.Message
import ScriptClient.Proofs.CommandLine.Reports
import ScriptClient.Proofs.CommandLine.Override
import ScriptClient.Proofs.Endpoint.Target
import ScriptClient.Proofs.Timeout.Spellings
import ScriptClient.Proofs.Call.RemotePath
import ScriptClient.Proofs.Message.Build
import ScriptClient.Proofs.Timestamp
import ScriptClient.Proofs.Trace.Distinct
import ScriptClient.Proofs.Trace.Injection
import ScriptClient.Proofs.Text.Quoted
import ScriptClient.Proofs.Demonstration.Responses
