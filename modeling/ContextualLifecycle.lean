import ContextualLifecycle.ScopeKind
import ContextualLifecycle.Error
import ContextualLifecycle.Text.Blank
import ContextualLifecycle.Text.Quoted
import ContextualLifecycle.Text.Upper
import ContextualLifecycle.Text.Numeral
import ContextualLifecycle.Json.Printer
import ContextualLifecycle.Json.Reader
import ContextualLifecycle.Environment
import ContextualLifecycle.Episode
import ContextualLifecycle.ScopeContext
import ContextualLifecycle.Container.Reference
import ContextualLifecycle.Snapshot.Passivation
import ContextualLifecycle.Describe
import ContextualLifecycle.Proofs.Episode.Budget
import ContextualLifecycle.Proofs.ScopeContext.LiveInstances
import ContextualLifecycle.Proofs.Reference.Ownership
import ContextualLifecycle.Proofs.Reference.Destruction
import ContextualLifecycle.Proofs.Container.Stop
import ContextualLifecycle.Proofs.Reference.Ending
import ContextualLifecycle.Proofs.Reference.Lifetime
import ContextualLifecycle.Proofs.Closing.Failures
import ContextualLifecycle.Proofs.Reference.Circular
import ContextualLifecycle.Proofs.Conversation.Exclusive
import ContextualLifecycle.Proofs.Closing.Complete
import ContextualLifecycle.Proofs.Closing.Order
import ContextualLifecycle.Proofs.Conversation.EndsOnce
import ContextualLifecycle.Proofs.Conversation.Substitute
import ContextualLifecycle.Proofs.Container.Beginnings
import ContextualLifecycle.Proofs.Snapshot.Session
import ContextualLifecycle.Proofs.Conversation.Handover
import ContextualLifecycle.Proofs.Closing.Restart
import ContextualLifecycle.Proofs.Conversation.Departure
import ContextualLifecycle.Proofs.Container.Isolation
import ContextualLifecycle.Proofs.Container.Exposure
import ContextualLifecycle.Proofs.Snapshot.RoundTrip
import ContextualLifecycle.Proofs.Episode.Order
import ContextualLifecycle.Proofs.Creation.Failure
import ContextualLifecycle.Proofs.Snapshot.Attachment
import ContextualLifecycle.Proofs.Snapshot.Arrangement
import ContextualLifecycle.Proofs.Snapshot.PortableIds
import ContextualLifecycle.Proofs.Episode.Wrapped
import ContextualLifecycle.Proofs.Conversation.Granted
import ContextualLifecycle.Proofs.Config.Reading
import ContextualLifecycle.Proofs.Episode.Forwarding
import ContextualLifecycle.Proofs.Conversation.Expiry
import ContextualLifecycle.Proofs.Closing.Shutdown
import ContextualLifecycle.Proofs.Creation.Ongoing
import ContextualLifecycle.Proofs.Conversation.Additions
