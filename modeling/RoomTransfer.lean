import RoomTransfer.CommandLine.Arguments
import RoomTransfer.CommandLine.Page
import RoomTransfer.CommandLine.Program
import RoomTransfer.LegacyIndex
import RoomTransfer.Log.Journal
import RoomTransfer.Main
import RoomTransfer.Migration
import RoomTransfer.Number.Reading
import RoomTransfer.Report
import RoomTransfer.Settings.File
import RoomTransfer.Settings.Starter
import RoomTransfer.Status
import RoomTransfer.Store.Script
import RoomTransfer.Proofs.Conduct
import RoomTransfer.Proofs.Course
import RoomTransfer.Proofs.TransactionSafety
import RoomTransfer.Proofs.ReportedOutcome
import RoomTransfer.Proofs.StepTraffic
import RoomTransfer.Proofs.SmoothRun
import RoomTransfer.Proofs.Conversion
import RoomTransfer.Proofs.PlainTransfer
import RoomTransfer.Proofs.Table
import RoomTransfer.Proofs.Tables
import RoomTransfer.Proofs.Rerun
import RoomTransfer.Proofs.Merged
import RoomTransfer.Proofs.Passage
import RoomTransfer.Proofs.Settlement
import RoomTransfer.Proofs.Watched
import RoomTransfer.Proofs.Dealings
import RoomTransfer.Proofs.Forgiving
import RoomTransfer.Proofs.Classified
import RoomTransfer.Proofs.Columns
import RoomTransfer.Proofs.Documented
import RoomTransfer.Proofs.Faulty
import RoomTransfer.Proofs.WriteOnce
import RoomTransfer.Proofs.Resume
import RoomTransfer.Proofs.DryRun
import RoomTransfer.Proofs.Accounting
import RoomTransfer.Proofs.Connections
import RoomTransfer.Proofs.Reporting
import RoomTransfer.Proofs.Coordinator
import RoomTransfer.Proofs.LinkHistory
import RoomTransfer.Proofs.Discretion
import RoomTransfer.Proofs.Cause
import RoomTransfer.Proofs.Provenance
import RoomTransfer.Proofs.Precedence
import RoomTransfer.Proofs.SetNames
import RoomTransfer.Proofs.Fragments
import RoomTransfer.Proofs.DecimalText
import RoomTransfer.Proofs.LinkSessions
import RoomTransfer.Proofs.PartialCounts
import RoomTransfer.Proofs.AcceptedOptions
import RoomTransfer.Proofs.SettingsFile
import RoomTransfer.Proofs.StatementText
import RoomTransfer.Proofs.ObjectLines
import RoomTransfer.Proofs.PlainDecimal
import RoomTransfer.Proofs.Invocations
import RoomTransfer.Proofs.BatchedFetch
import RoomTransfer.Proofs.ExactRounding
