import Steward.Text.Utf8
import Steward.Text.Blank
import Steward.Text.Decimal
import Steward.Text.Quoted
import Steward.Host.Programs
import Steward.Message
import Steward.Filesystem
import Steward.Listener
import Steward.Daemon.Session
import Steward.CommandLine.Send
import Steward.CommandLine.Serve
import Steward.Main
import Steward.Proofs.Lifecycle.History
import Steward.Proofs.Lifecycle.Selection
import Steward.Proofs.Message.Content
import Steward.Proofs.Text.Ascii
import Steward.Proofs.Command.Recognition
import Steward.Proofs.Dispatch.Calls
import Steward.Proofs.Message.Privilege
import Steward.Proofs.Daemon.Serial
import Steward.Proofs.Daemon.Terminal
import Steward.Proofs.Daemon.Handling
import Steward.Proofs.Lifecycle.Teardown
import Steward.Proofs.Daemon.Share
import Steward.Proofs.Daemon.Draining
import Steward.Proofs.Daemon.Ending
import Steward.Proofs.Daemon.Outcome
import Steward.Proofs.Filesystem.Removal
import Steward.Proofs.Daemon.Teardown
import Steward.Proofs.Command.RoundTrip
import Steward.Proofs.Dispatch.Outcomes
import Steward.Proofs.Message.Delivery
import Steward.Proofs.Host.Confinement
import Steward.Proofs.Dispatch.Clocks
import Steward.Proofs.Dispatch.Reports
import Steward.Proofs.Message.Reading
import Steward.Proofs.Calendar
import Steward.Proofs.Text.Decimal
import Steward.Proofs.Timestamp.Grammar
import Steward.Proofs.Instant.Fields
import Steward.Proofs.Timestamp.Moment
import Steward.Proofs.Client.TimeSync
import Steward.Proofs.Text.Blank
import Steward.Proofs.Client.Acceptance
import Steward.Proofs.Client.Safety
import Steward.Proofs.Instant.Denotation
import Steward.Proofs.Text.Order
import Steward.Proofs.Instant.Order
import Steward.Proofs.Lifecycle.Phases
import Steward.Proofs.Daemon.Phases
import Steward.Proofs.Lifecycle.Handles
import Steward.Proofs.Filesystem.Binding
import Steward.Proofs.Text.Truncation
import Steward.Proofs.Host.Capture
import Steward.Proofs.Message.Accounting
import Steward.Proofs.Filesystem.Closing
