import TunnelControl.Json.Text
import TunnelControl.Log.Filter
import TunnelControl.Rehearsal.NativeStage
import TunnelControl.Rehearsal.Recorder
import TunnelControl.Rehearsal.Stage
import TunnelControl.Text.FormatString
import TunnelControl.Proofs.History
import TunnelControl.Proofs.Course
import TunnelControl.Proofs.TerminalResult
import TunnelControl.Proofs.Ending
import TunnelControl.Proofs.Verdict
import TunnelControl.Proofs.Release
import TunnelControl.Proofs.Slots
import TunnelControl.Proofs.Scripted.Outcome
import TunnelControl.Proofs.Scripted.Delivery
import TunnelControl.Proofs.Scripted.Answers
import TunnelControl.Proofs.Scripted.Refusal
import TunnelControl.Proofs.Native.Exchange
import TunnelControl.Proofs.Native.WriteBack
import TunnelControl.Proofs.Scripted.Closing
import TunnelControl.Proofs.Native.CommandPipe
import TunnelControl.Proofs.Native.Boundary
import TunnelControl.Proofs.Scripted.Isolation
import TunnelControl.Proofs.Text.Utf8
import TunnelControl.Proofs.Text.Blank
import TunnelControl.Proofs.Text.Decimal
import TunnelControl.Proofs.Native.Responses
import TunnelControl.Proofs.Configuration
import TunnelControl.Proofs.Configuration.Variables
import TunnelControl.Proofs.Configuration.Validity
import TunnelControl.Proofs.Configuration.RoundTrip
import TunnelControl.Proofs.Native.Choices
import TunnelControl.Proofs.Scripted.Configured
import TunnelControl.Proofs.Scripted.Stream
import TunnelControl.Proofs.Settings
import TunnelControl.Proofs.Json.RoundTrip
import TunnelControl.Proofs.Json.Arrays
import TunnelControl.Proofs.Json.Shape
import TunnelControl.Proofs.Json.KnownKeys
import TunnelControl.Proofs.Native.Stages
import TunnelControl.Proofs.Native.StageRuns
import TunnelControl.Proofs.Scripted.Secrecy
import TunnelControl.Proofs.Progress
import TunnelControl.Proofs.Native.ProgressLines
import TunnelControl.Proofs.Handling
import TunnelControl.Proofs.Native.Stored
import TunnelControl.Proofs.Native.StoredSettings
import TunnelControl.Proofs.InsecureCrypto
import TunnelControl.Proofs.Aggregates
import TunnelControl.Proofs.Text.Letters
import TunnelControl.Proofs.CredentialFields
import TunnelControl.Proofs.Native.Surfaced
import TunnelControl.Proofs.Text.Replacement
import TunnelControl.Proofs.Extract
import TunnelControl.Proofs.Native.Reading
import TunnelControl.Proofs.Native.Addressing
import TunnelControl.Proofs.Native.Prompts
