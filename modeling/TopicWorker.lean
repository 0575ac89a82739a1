import TopicWorker.Main
import TopicWorker.Session
import TopicWorker.Proofs.Moves
import TopicWorker.Proofs.Loop
import TopicWorker.Proofs.Course
import TopicWorker.Proofs.Following
import TopicWorker.Proofs.Dispatch
import TopicWorker.Proofs.Registrations
import TopicWorker.Proofs.Settlements
import TopicWorker.Proofs.Charges
import TopicWorker.Proofs.Stopping
import TopicWorker.Proofs.Rundown
import TopicWorker.Proofs.Publications
import TopicWorker.Proofs.Startup
import TopicWorker.Proofs.TeardownOrder
import TopicWorker.Proofs.StartupOrder
import TopicWorker.Proofs.Requests
import TopicWorker.Proofs.Coordination
import TopicWorker.Proofs.Draining
import TopicWorker.Proofs.Links
import TopicWorker.Proofs.Releasing
import TopicWorker.Proofs.Fixtures
import TopicWorker.Proofs.Listeners
import TopicWorker.Proofs.Progression
import TopicWorker.Proofs.Veils
import TopicWorker.Proofs.Secrecy
import TopicWorker.Proofs.Heeding
import TopicWorker.Proofs.Closers
import TopicWorker.Proofs.Closings
import TopicWorker.Proofs.Exits
import TopicWorker.Proofs.Failures
import TopicWorker.Proofs.Tags
import TopicWorker.Proofs.Isolation
import TopicWorker.Proofs.Literals
import TopicWorker.Proofs.Encoding
import TopicWorker.Proofs.Loading
import TopicWorker.Proofs.Rendering
import TopicWorker.Proofs.Agreement
import TopicWorker.Proofs.Activities
import TopicWorker.Proofs.Containment
import TopicWorker.Proofs.Declarations
import TopicWorker.Proofs.Spans
import TopicWorker.Proofs.Registering
import TopicWorker.Proofs.Watching
import TopicWorker.Proofs.Occurrences
import TopicWorker.Proofs.Leading
import TopicWorker.Proofs.Observing
import TopicWorker.Proofs.Legibility
import TopicWorker.Proofs.Replacement
import TopicWorker.Proofs.Announcing
import TopicWorker.Proofs.Propagation
import TopicWorker.Proofs.Likeness
