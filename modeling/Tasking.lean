import Tasking.Main
import Tasking.Path.Text
import Tasking.Race
import Tasking.Session
import Tasking.Proofs.Path.Normal
import Tasking.Proofs.Path.RoundTrip
import Tasking.Proofs.Path.Collapse
import Tasking.Proofs.Path.Joining
import Tasking.Proofs.Probe.TidyHomes
import Tasking.Proofs.Path.Separation
import Tasking.Proofs.Decision
import Tasking.Proofs.FirstSelection
import Tasking.Proofs.Session.Question
import Tasking.Proofs.Session.Step
import Tasking.Proofs.Session.Freezing
import Tasking.Proofs.Probe.Course
import Tasking.Proofs.Race.Phase
import Tasking.Proofs.Race.Run
import Tasking.Proofs.Race.Fairness
import Tasking.Proofs.Race.Publication
import Tasking.Proofs.RawSession.Caches
import Tasking.Proofs.Session.Independence
import Tasking.Proofs.Probe.Presence
import Tasking.Proofs.Probe.Lookups
import Tasking.Proofs.Session.Lookups
import Tasking.Proofs.Session.View
import Tasking.Proofs.Session.Events
import Tasking.Proofs.Command.Reading
import Tasking.Proofs.Command.Streams
import Tasking.Proofs.Command.Grammar
import Tasking.Proofs.Command.Diagnostics
import Tasking.Proofs.Command.ExitCode
import Tasking.Proofs.Session.StandIn
import Tasking.Proofs.Session.RecordedLookups
import Tasking.Proofs.Report.Limits
import Tasking.Proofs.Report.Calls
import Tasking.Proofs.Probe.Soundness
import Tasking.Proofs.Session.Soundness
import Tasking.Proofs.Text.Decoding
import Tasking.Proofs.RawSession.Damage
import Tasking.Proofs.Decision.Precedence
import Tasking.Proofs.Probe.Sides
import Tasking.Proofs.Report.Explanation
import Tasking.Proofs.Command.Pinning
import Tasking.Proofs.Names
