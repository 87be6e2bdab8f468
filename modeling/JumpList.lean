import JumpList.Append
import JumpList.Build
import JumpList.Category
import JumpList.CommandLine.Arguments
import JumpList.CommandLine.Input
import JumpList.CommandLine.Program
import JumpList.Dialogue
import JumpList.Format.Error
import JumpList.Format.Reader
import JumpList.Format.Writer
import JumpList.Host.Call
import JumpList.Host.Directory
import JumpList.Host.FileSystem
import JumpList.Host.FileSystem.Lemmas
import JumpList.Identity
import JumpList.Item
import JumpList.Json.Basic
import JumpList.Json.Document
import JumpList.Json.Number
import JumpList.Json.Printer
import JumpList.Log
import JumpList.Main
import JumpList.Manager
import JumpList.Native.Call
import JumpList.Native.Object
import JumpList.Native.Status
import JumpList.Notice
import JumpList.Outcome
import JumpList.Path
import JumpList.Path.Lemmas
import JumpList.Platform.Apartment
import JumpList.Platform.Call
import JumpList.Platform.Registration
import JumpList.Proofs.Append.Filling
import JumpList.Proofs.Build
import JumpList.Proofs.Dialogue
import JumpList.Proofs.Manager.Course
import JumpList.Proofs.Manager.Opening
import JumpList.Proofs.Native.Event
import JumpList.Proofs.Transaction.Began
import JumpList.Proofs.Transaction.History
import JumpList.Proofs.Transaction.Safety
import JumpList.Removed
import JumpList.Settings.Basic
import JumpList.Settings.Store
import JumpList.Settings.Text
import JumpList.Shell.Configured
import JumpList.Shell.Scripted
import JumpList.Text.Blank
import JumpList.Text.CodeRange
import JumpList.Text.Hex
import JumpList.Text.LowerCase
import JumpList.Text.Printable
import JumpList.Text.Quoted
import JumpList.Text.Runs
import JumpList.Text.Utf8
import JumpList.Text.Utf8.Lemmas
import JumpList.Transaction
import JumpList.Proofs.Append.Course
import JumpList.Proofs.Append.HandOver
import JumpList.Proofs.Append.Outcome
import JumpList.Proofs.Manager.Result
import JumpList.Proofs.Append.Tasks
import JumpList.Proofs.Manager.Tasks
import JumpList.Proofs.Format.Reader
import JumpList.Proofs.Format.RoundTrip
import JumpList.Proofs.Shell.HandBack
import JumpList.Proofs.Manager.Echo
import JumpList.Proofs.Format.Grammar
import JumpList.Proofs.Transaction.Traceless
import JumpList.Proofs.Manager.Agreement
import JumpList.Proofs.Append.Records
import JumpList.Proofs.Append.Composition
import JumpList.Proofs.Manager.Records
import JumpList.Proofs.Platform.Apartment
import JumpList.Proofs.Json.Spelling
import JumpList.Proofs.Append.Verdict
import JumpList.Proofs.Settings.Text
import JumpList.Proofs.Settings.Store
import JumpList.Proofs.Format.Position
import JumpList.Proofs.Format.Relevance
import JumpList.Proofs.Removed.Path
import JumpList.Proofs.CommandLine.Arguments
import JumpList.Proofs.Removed.Item
import JumpList.Proofs.Append.Meaning
import JumpList.Proofs.Host.Growth
import JumpList.Proofs.Settings.Lookup
import JumpList.Proofs.Build.Atomic
import JumpList.Proofs.Text.Trimmed
import JumpList.Proofs.Identity
