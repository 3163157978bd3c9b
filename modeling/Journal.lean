import Journal.Main
import Journal.Rehearsal
import Journal.Proofs.Console.Dialogue
import Journal.Proofs.Entry.Reencoding
import Journal.Proofs.Entry.RoundTrip
import Journal.Proofs.Log.AppendOnly
import Journal.Proofs.Log.Punctual
import Journal.Proofs.Log.Sharing
import Journal.Proofs.Restore.Deliveries
import Journal.Proofs.Restore.EndToEnd
import Journal.Proofs.Restore.Ending
import Journal.Proofs.Restore.Failing
import Journal.Proofs.Restore.Stopping
import Journal.Proofs.Restore.Submissions
import Journal.Proofs.Restore.Verdicts
import Journal.Proofs.Restore.Splitting
import Journal.Proofs.Restore.Vigil
import Journal.Proofs.System.Naming
import Journal.Proofs.Settings.Layers
import Journal.Proofs.Decimal.Spelling
import Journal.Proofs.Settings.Variables
import Journal.Proofs.Console.Idle
