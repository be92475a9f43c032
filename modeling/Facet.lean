import Facet.Config.Discovery
import Facet.Proofs.Invocation.Passing
import Facet.Proofs.Session.Explicit
import Facet.Proofs.Session.Isolation
import Facet.Proofs.Session.Narration
import Facet.Proofs.Session.Tale
import Facet.Proofs.Session.Replay
import Facet.Proofs.Invocation.Interception
import Facet.Proofs.Session.Memory
import Facet.Proofs.Text.Quoted
import Facet.Proofs.Text.Legible
import Facet.Proofs.Value.Legible
import Facet.Proofs.Invocation.Text
import Facet.Proofs.Invocation.Equality
import Facet.Proofs.Invocation.Recapture
import Facet.Proofs.Session.Rounds
import Facet.Proofs.Session.Typing
import Facet.Proofs.Matcher.Rewriting
import Facet.Proofs.Matcher.Accord
import Facet.Proofs.Matcher.Composition
import Facet.Proofs.Pattern.Plain
import Facet.Proofs.Config.Discovery
