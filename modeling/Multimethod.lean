import Multimethod.Exact.Session
import Multimethod.Specificity.Orders
import Multimethod.Proofs.Chain.Walk
import Multimethod.Proofs.Config.RoundTrip
import Multimethod.Proofs.Exact.Dispatch
import Multimethod.Proofs.Function.Agreement
import Multimethod.Proofs.Function.Takeover
import Multimethod.Proofs.Function.Ties
import Multimethod.Proofs.Function.Totality
import Multimethod.Proofs.Hierarchy.Closure
import Multimethod.Proofs.Hierarchy.Dispatch
import Multimethod.Proofs.Hierarchy.Isolation
import Multimethod.Proofs.Hierarchy.Outcomes
import Multimethod.Proofs.Process.Sharing
import Multimethod.Proofs.Session.Reachable
import Multimethod.Proofs.Specificity.Ranks
import Multimethod.Proofs.Specificity.Rounds
import Multimethod.Proofs.Store.Announced
import Multimethod.Proofs.Store.Attempts
import Multimethod.Proofs.Store.Balance
import Multimethod.Proofs.Store.Errors
import Multimethod.Proofs.Store.Propagation
import Multimethod.Proofs.Store.Twins
