import Dashboard.Badge
import Dashboard.Binary64.Basic
import Dashboard.Binary64.Grain
import Dashboard.Binary64.Reading
import Dashboard.Binary64.Shortest
import Dashboard.Bus
import Dashboard.Command
import Dashboard.Command.Feed
import Dashboard.Command.Stream
import Dashboard.Context.Control
import Dashboard.Context.Snapshot
import Dashboard.Context.State
import Dashboard.Context.Usage
import Dashboard.Context.View
import Dashboard.Count
import Dashboard.Cron.Control
import Dashboard.Cron.Snapshot
import Dashboard.Cron.State
import Dashboard.Cron.View
import Dashboard.Daemon
import Dashboard.Fault
import Dashboard.Fault.Details
import Dashboard.Figure.Duration
import Dashboard.Figure.Quantity
import Dashboard.Figure.Scale
import Dashboard.Figure.Span
import Dashboard.Json.Basic
import Dashboard.Json.Parser
import Dashboard.Json.Printer
import Dashboard.Json.Record
import Dashboard.Json.Spelling
import Dashboard.Machine.Basic
import Dashboard.Machine.FileTree
import Dashboard.Machine.Path
import Dashboard.Machine.Still
import Dashboard.Main
import Dashboard.Markup.Basic
import Dashboard.Markup.Data
import Dashboard.Markup.Element
import Dashboard.Markup.Fragment
import Dashboard.Markup.Printer
import Dashboard.Markup.Token
import Dashboard.Notice
import Dashboard.Panel.Agenda
import Dashboard.Panel.Attempts
import Dashboard.Panel.Basic
import Dashboard.Panel.Course
import Dashboard.Panel.Document
import Dashboard.Panel.Drive
import Dashboard.Panel.Frame
import Dashboard.Panel.Received
import Dashboard.Panel.Selection
import Dashboard.Panel.Service
import Dashboard.Panel.Session
import Dashboard.Panel.Site
import Dashboard.Payload
import Dashboard.Program.Arguments
import Dashboard.Program.Log
import Dashboard.Program.Outcome
import Dashboard.Program.Plan
import Dashboard.Proofs.ActiveTab
import Dashboard.Proofs.Addressing
import Dashboard.Proofs.AttemptCounts
import Dashboard.Proofs.Broadcast
import Dashboard.Proofs.CalendarDays
import Dashboard.Proofs.CommandEffects
import Dashboard.Proofs.CommandStream
import Dashboard.Proofs.ContextUsage
import Dashboard.Proofs.ControlAgreement
import Dashboard.Proofs.ControlEvents
import Dashboard.Proofs.CountReading
import Dashboard.Proofs.DocumentMarkup
import Dashboard.Proofs.DoubleRounding
import Dashboard.Proofs.Drivers
import Dashboard.Proofs.DurationText
import Dashboard.Proofs.EscapedText
import Dashboard.Proofs.EventMessages
import Dashboard.Proofs.FailureViews
import Dashboard.Proofs.FieldSpelling
import Dashboard.Proofs.FindingSearch
import Dashboard.Proofs.FrameAnswers
import Dashboard.Proofs.FrameLines
import Dashboard.Proofs.FrameMethods
import Dashboard.Proofs.FrameStream
import Dashboard.Proofs.Freshness
import Dashboard.Proofs.HistoryLimit
import Dashboard.Proofs.InstantReading
import Dashboard.Proofs.Isolation
import Dashboard.Proofs.JsonMembers
import Dashboard.Proofs.JsonReading
import Dashboard.Proofs.JsonValues
import Dashboard.Proofs.LoadHistory
import Dashboard.Proofs.LoadParts
import Dashboard.Proofs.LoadQueries
import Dashboard.Proofs.LowerCaseParts
import Dashboard.Proofs.MarkupReading
import Dashboard.Proofs.NumberReading
import Dashboard.Proofs.NumberText
import Dashboard.Proofs.PanelSteps
import Dashboard.Proofs.PickedElements
import Dashboard.Proofs.Rankings
import Dashboard.Proofs.ReachedTabs
import Dashboard.Proofs.RequestHistory
import Dashboard.Proofs.ScaledFigures
import Dashboard.Proofs.ScriptAgreement
import Dashboard.Proofs.ScriptRegistrations
import Dashboard.Proofs.ScriptText
import Dashboard.Proofs.SessionEnd
import Dashboard.Proofs.SettingsRepair
import Dashboard.Proofs.SeverityChoice
import Dashboard.Proofs.SeverityCounts
import Dashboard.Proofs.SnapshotSpelling
import Dashboard.Proofs.StableSort
import Dashboard.Proofs.StampReading
import Dashboard.Proofs.StreamLines
import Dashboard.Proofs.SwitchOrder
import Dashboard.Proofs.Switches
import Dashboard.Proofs.TabShare
import Dashboard.Proofs.TabSteps
import Dashboard.Proofs.TabTurns
import Dashboard.Proofs.ViewElements
import Dashboard.Proofs.ViewMarkup
import Dashboard.Proofs.ViewParts
import Dashboard.Reply
import Dashboard.Rpc.History
import Dashboard.Rpc.Ledger
import Dashboard.Rpc.Message
import Dashboard.Settings.Basic
import Dashboard.Settings.Document
import Dashboard.Settings.Endpoint
import Dashboard.Settings.Json
import Dashboard.Settings.Location
import Dashboard.Settings.Repair
import Dashboard.Settings.Source
import Dashboard.Settings.Standing
import Dashboard.Settings.Store
import Dashboard.Slop.Control
import Dashboard.Slop.Filter
import Dashboard.Slop.Severity
import Dashboard.Slop.Snapshot
import Dashboard.Slop.State
import Dashboard.Slop.View
import Dashboard.Stats.Control
import Dashboard.Stats.Snapshot
import Dashboard.Stats.State
import Dashboard.Stats.View
import Dashboard.Tab
import Dashboard.Tab.Calls
import Dashboard.Tab.Choice
import Dashboard.Tab.Content
import Dashboard.Tab.Drive
import Dashboard.Tab.History
import Dashboard.Tab.Identity
import Dashboard.Tab.Load
import Dashboard.Tab.Part
import Dashboard.Tab.Ranking
import Dashboard.Tab.Reaction
import Dashboard.Tab.Report
import Dashboard.Tab.Selector
import Dashboard.Tab.Spelling
import Dashboard.Tab.Switch
import Dashboard.Tab.Vocabulary
import Dashboard.Text.Basic
import Dashboard.Text.CaseTable
import Dashboard.Text.Composed
import Dashboard.Text.ComposedTable
import Dashboard.Text.Escape
import Dashboard.Text.Lines
import Dashboard.Text.LowerCase
import Dashboard.Text.Occurrences
import Dashboard.Text.Quoted
import Dashboard.Text.Sigma
import Dashboard.Text.Table
import Dashboard.Text.UnseenTable
import Dashboard.Time.Calendar
import Dashboard.Time.Instant
import Dashboard.Time.Rfc3339
import Dashboard.Time.Stamp
import Dashboard.Toml.Parser
import Dashboard.Toml.Scalar
import Dashboard.Toml.Table
import Dashboard.Tools.Control
import Dashboard.Tools.Snapshot
import Dashboard.Tools.State
import Dashboard.Tools.View
import Dashboard.Url
import Dashboard.Url.Address
import Dashboard.Url.Domain
import Dashboard.Url.LabelTable
import Dashboard.Url.NameTable
import Dashboard.Url.Punycode
import Dashboard.Wiring.Binding
import Dashboard.Wiring.Bootstrap
import Dashboard.Wiring.Event
import Dashboard.Wiring.Script
import Dashboard.World.Basic
import Dashboard.World.Script
