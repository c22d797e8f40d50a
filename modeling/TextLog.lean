import TextLog.Severity.Name
import TextLog.Template.Compile
import TextLog.Entry
import TextLog.Message.Render
import TextLog.Time.DateFormatter
import TextLog.Settings
import TextLog.Session.Dispatch
import TextLog.Session.Structured
import TextLog.Session.Record
import TextLog.Cli.Commands
import TextLog.Main
import TextLog.Proofs.Template.Normal
import TextLog.Proofs.Template.Scan
import TextLog.Proofs.Template.Occurrence
import TextLog.Proofs.Template.RoundTrip
import TextLog.Proofs.Logger.Configuration
import TextLog.Proofs.Logger.Rendering
import TextLog.Proofs.Session.Operation
import TextLog.Proofs.Handler.Freshness
import TextLog.Proofs.Session.Refusal
import TextLog.Proofs.Session.Delivery
import TextLog.Proofs.Time.CalendarEnds
import TextLog.Proofs.Session.Showable
import TextLog.Proofs.Metadata.Keys
import TextLog.Proofs.Metadata.Merge
import TextLog.Proofs.Metadata.Pairs
import TextLog.Proofs.Session.Program
import TextLog.Proofs.Session.Structured
import TextLog.Proofs.Session.Wiring
import TextLog.Proofs.Handler.Mapping
import TextLog.Proofs.Session.Pipeline
import TextLog.Proofs.Console.Complaint
import TextLog.Proofs.Settings.ZoneName
import TextLog.Proofs.Cli.ZoneName
import TextLog.Proofs.Settings.Checks
import TextLog.Proofs.Settings.Agreement
import TextLog.Proofs.Time.Calendar
import TextLog.Proofs.Time.Columns
import TextLog.Proofs.Time.Instant
import TextLog.Proofs.Time.Occasion
import TextLog.Proofs.Time.Chronology
import TextLog.Proofs.Settings.FixedPoint
import TextLog.Proofs.Template.Concatenation
import TextLog.Proofs.Template.Flow
import TextLog.Proofs.Template.Canonical
import TextLog.Proofs.Session.Layout
import TextLog.Proofs.Session.Level
import TextLog.Proofs.Session.Settled
import TextLog.Proofs.Session.Record
import TextLog.Proofs.Severity.Language
import TextLog.Proofs.Handler.Items
import TextLog.Proofs.Handler.Sharing
import TextLog.Proofs.Handler.Copies
import TextLog.Proofs.Console.Crop
import TextLog.Proofs.Console.Visible
import TextLog.Proofs.Console.Wording
import TextLog.Proofs.Console.Sequences
import TextLog.Proofs.Cli.SeverityName
import TextLog.Proofs.Cli.Color
