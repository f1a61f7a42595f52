import SessionMonitor.Backend.Address
import SessionMonitor.Backend.Answer
import SessionMonitor.Backend.Client
import SessionMonitor.Backend.Message
import SessionMonitor.Backend.Operation
import SessionMonitor.Backend.Status
import SessionMonitor.CommandLine
import SessionMonitor.CommandLine.Help
import SessionMonitor.Console
import SessionMonitor.Console.Detail
import SessionMonitor.Console.Executor
import SessionMonitor.Console.Keys
import SessionMonitor.Controller
import SessionMonitor.Decimal.Dyadic
import SessionMonitor.Decimal.Layout
import SessionMonitor.Decimal.Reading
import SessionMonitor.Decimal.Shortest
import SessionMonitor.Engine
import SessionMonitor.Failure
import SessionMonitor.History
import SessionMonitor.Json.Draft
import SessionMonitor.Json.Number
import SessionMonitor.Json.Reader
import SessionMonitor.Json.Token
import SessionMonitor.Json.Value
import SessionMonitor.Main
import SessionMonitor.Monitor
import SessionMonitor.Network
import SessionMonitor.Polling
import SessionMonitor.Program
import SessionMonitor.Refusal
import SessionMonitor.Screen.Area
import SessionMonitor.Screen.Dashboard
import SessionMonitor.Screen.DetailPopup
import SessionMonitor.Screen.ExecutorPage
import SessionMonitor.Screen.Grid
import SessionMonitor.Screen.Line
import SessionMonitor.Screen.Picture
import SessionMonitor.Screen.PlanTable
import SessionMonitor.Screen.SessionTable
import SessionMonitor.Screen.StatusBar
import SessionMonitor.Screen.Style
import SessionMonitor.Selection
import SessionMonitor.Session
import SessionMonitor.Session.Row
import SessionMonitor.Settings
import SessionMonitor.Settings.Credentials
import SessionMonitor.Settings.Fault
import SessionMonitor.Snapshot
import SessionMonitor.Summary
import SessionMonitor.Text.Blank
import SessionMonitor.Text.CaseData
import SessionMonitor.Text.Contains
import SessionMonitor.Text.InvisibleData
import SessionMonitor.Text.Layout
import SessionMonitor.Text.Lowercase
import SessionMonitor.Text.Percent
import SessionMonitor.Text.Quoted
import SessionMonitor.Text.Ranges
import SessionMonitor.Text.Truncate
import SessionMonitor.Text.Width
import SessionMonitor.Text.WidthData
import SessionMonitor.Timer
import SessionMonitor.Toml.Document
import SessionMonitor.Toml.Scalar
import SessionMonitor.Toml.Value
import SessionMonitor.View
import SessionMonitor.View.Filter
import SessionMonitor.View.Sorting
import SessionMonitor.Wire.Access
import SessionMonitor.Wire.Advice
import SessionMonitor.Wire.Execute
import SessionMonitor.Wire.Kill
import SessionMonitor.Wire.Records
import SessionMonitor.Proofs.Engine.Coherence
import SessionMonitor.Proofs.Polling.Tracking
import SessionMonitor.Proofs.Engine.Freshness
import SessionMonitor.Proofs.Engine.Marks
import SessionMonitor.Proofs.Console.Modes
import SessionMonitor.Proofs.Controller.Kills
import SessionMonitor.Proofs.View.Arrangement
import SessionMonitor.Proofs.Decimal.Words
import SessionMonitor.Proofs.Session.Grammar
import SessionMonitor.Proofs.Decimal.Wording
import SessionMonitor.Proofs.Session.Canonical
import SessionMonitor.Proofs.Console.Popup
import SessionMonitor.Proofs.Controller.Advice
import SessionMonitor.Proofs.Engine.Failures
import SessionMonitor.Proofs.Engine.ViewEdits
import SessionMonitor.Proofs.Console.Typing
import SessionMonitor.Proofs.Console.Edits
import SessionMonitor.Proofs.Controller.Answers
import SessionMonitor.Proofs.Controller.Separation
import SessionMonitor.Proofs.Screen.SessionTable
import SessionMonitor.Proofs.Console.Cursor
import SessionMonitor.Proofs.Controller.Cursor
import SessionMonitor.Proofs.History
import SessionMonitor.Proofs.Console.Notices
import SessionMonitor.Proofs.Controller.Marks
import SessionMonitor.Proofs.Console.Executor
import SessionMonitor.Proofs.Controller.Exchanges
import SessionMonitor.Proofs.Controller.Statements
import SessionMonitor.Proofs.Polling.Accounts
import SessionMonitor.Proofs.Controller.Tickets
import SessionMonitor.Proofs.Controller.Typing
import SessionMonitor.Proofs.Json.Fields
import SessionMonitor.Proofs.Json.Document
import SessionMonitor.Proofs.Json.Records
import SessionMonitor.Proofs.Wire.RoundTrip
import SessionMonitor.Proofs.Text.Lowercase
import SessionMonitor.Proofs.View.Search
import SessionMonitor.Proofs.Summary
import SessionMonitor.Proofs.Session.Spelling
import SessionMonitor.Proofs.Timer
import SessionMonitor.Proofs.Backend.Replies
import SessionMonitor.Proofs.Controller.Refreshes
import SessionMonitor.Proofs.Console.Databases
import SessionMonitor.Proofs.Text.Truncate
import SessionMonitor.Proofs.Screen.ExecutorPage
import SessionMonitor.Proofs.Screen.PlanTable
import SessionMonitor.Proofs.Decimal.Sums
import SessionMonitor.Proofs.Screen.Totals
import SessionMonitor.Proofs.Screen.GroupBars
import SessionMonitor.Proofs.Settings.BaseUrl
import SessionMonitor.Proofs.Settings.Launch
import SessionMonitor.Proofs.Text.OneLine
import SessionMonitor.Proofs.Screen.Painting
import SessionMonitor.Proofs.Screen.Cells
import SessionMonitor.Proofs.Controller.Refusals
