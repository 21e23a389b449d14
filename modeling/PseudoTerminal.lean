import PseudoTerminal.Cancellation.Script
import PseudoTerminal.CommandLine.Split
import PseudoTerminal.Environment.Block
import PseudoTerminal.Main
import PseudoTerminal.Session.HandleScript
import PseudoTerminal.Session.Script
import PseudoTerminal.Proofs.Cancellation.Calls
import PseudoTerminal.Proofs.CommandLine.RoundTrip
import PseudoTerminal.Proofs.CommandLine.Scanning
import PseudoTerminal.Proofs.CommandLine.Loops
import PseudoTerminal.Proofs.CommandLine.Rules
import PseudoTerminal.Proofs.Cancellation.Accounting
import PseudoTerminal.Proofs.Coordination.Job
import PseudoTerminal.Proofs.Coordination.JobInvariants
import PseudoTerminal.Proofs.Coordination.Startup
import PseudoTerminal.Proofs.Coordination.StartupInvariants
import PseudoTerminal.Proofs.Coordination.Delivery
import PseudoTerminal.Proofs.Coordination.Truth
import PseudoTerminal.Proofs.Coordination.Progress
import PseudoTerminal.Proofs.Coordination.Outcome
import PseudoTerminal.Proofs.Coordination.Overtaken
import PseudoTerminal.Proofs.Coordination.Alone
import PseudoTerminal.Proofs.Coordination.Watching
import PseudoTerminal.Proofs.Cancellation.Withdrawal
import PseudoTerminal.Proofs.Cancellation.Renaming
import PseudoTerminal.Proofs.Coordination.Registrations
import PseudoTerminal.Proofs.Child.Calls
import PseudoTerminal.Proofs.Child.Reaping
import PseudoTerminal.Proofs.Child.Signals
import PseudoTerminal.Proofs.Child.Agreement
import PseudoTerminal.Proofs.Coordination.Tenancy
import PseudoTerminal.Proofs.Text.Utf8
import PseudoTerminal.Proofs.Text.Utf16
import PseudoTerminal.Proofs.Environment.LastOfKey
import PseudoTerminal.Proofs.Environment.Inheritance
import PseudoTerminal.Proofs.Environment.BlockRoundTrip
import PseudoTerminal.Proofs.Environment.Overriding
import PseudoTerminal.Proofs.Environment.SystemRoot
import PseudoTerminal.Proofs.Environment.Survivors
import PseudoTerminal.Proofs.Environment.Pieces
import PseudoTerminal.Proofs.Session.Lifetime
import PseudoTerminal.Proofs.Session.Shutters
import PseudoTerminal.Proofs.Session.Watchers
import PseudoTerminal.Proofs.Session.Closed
import PseudoTerminal.Proofs.Terminal.Calls
import PseudoTerminal.Proofs.Terminal.Sharing
import PseudoTerminal.Proofs.Terminal.Closing
import PseudoTerminal.Proofs.Terminal.Resizing
import PseudoTerminal.Proofs.Relay.Draining
import PseudoTerminal.Proofs.Relay.Following
import PseudoTerminal.Proofs.Relay.Pumping
import PseudoTerminal.Proofs.Options.Grammar
import PseudoTerminal.Proofs.Files.Resolution
import PseudoTerminal.Proofs.Cancellation.NestingRuns
import PseudoTerminal.Proofs.Cancellation.Handles
import PseudoTerminal.Proofs.Terminal.Offers
import PseudoTerminal.Proofs.Environment.Entries
import PseudoTerminal.Proofs.Options.Assignments
import PseudoTerminal.Proofs.Child.Deadlines
import PseudoTerminal.Proofs.Text.Malformed
import PseudoTerminal.Proofs.Text.Surrogates
import PseudoTerminal.Proofs.Environment.Wide
import PseudoTerminal.Proofs.Terminal.Retries
