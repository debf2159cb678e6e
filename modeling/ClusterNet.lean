import ClusterNet.Actuator
import ClusterNet.Actuator.Testbed
import ClusterNet.Config.Location
import ClusterNet.ControlPlane.Arguments
import ClusterNet.ErrorReport
import ClusterNet.Http.Connector
import ClusterNet.Http.Testbed
import ClusterNet.Proofs.Actuator.Delete
import ClusterNet.Proofs.Actuator.Lifecycle
import ClusterNet.Proofs.Actuator.Obstacles
import ClusterNet.Proofs.Actuator.Overlap
import ClusterNet.Proofs.Actuator.OwnedBalancers
import ClusterNet.Proofs.Actuator.Placement
import ClusterNet.Proofs.Actuator.Reconcile
import ClusterNet.Proofs.Actuator.SegmentName
import ClusterNet.Proofs.Attempts
import ClusterNet.Proofs.ControlPlane.Bookkeeping
import ClusterNet.Proofs.ControlPlane.Circle
import ClusterNet.Proofs.ControlPlane.Target
import ClusterNet.Proofs.Http.Replacement
import ClusterNet.Proofs.Http.Tokens
import ClusterNet.Proofs.Network.AddressPlan
import ClusterNet.Proofs.Network.Canonical
import ClusterNet.Proofs.Network.Cidr
import ClusterNet.Proofs.Pipeline.Actions
import ClusterNet.Proofs.Pipeline.Adoption
import ClusterNet.Proofs.Pipeline.Convergence
import ClusterNet.Proofs.Pipeline.Dependencies
import ClusterNet.Proofs.Pipeline.Failure
import ClusterNet.Proofs.Pipeline.Generations
import ClusterNet.Proofs.Pipeline.Healing
import ClusterNet.Proofs.Pipeline.Idempotence
import ClusterNet.Proofs.Pipeline.Neighbours
import ClusterNet.Proofs.Pipeline.Overlooked
import ClusterNet.Proofs.Pipeline.Rebinding
import ClusterNet.Proofs.Pipeline.Recovery
import ClusterNet.Proofs.Pipeline.Takedown
import ClusterNet.Proofs.Store.Checkpoints
import ClusterNet.Proofs.Store.Sharing
import ClusterNet.Proofs.Written
import ClusterNet.Store.File
