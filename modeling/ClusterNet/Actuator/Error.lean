import ClusterNet.Cluster.Error
import ClusterNet.Config.Error
import ClusterNet.Store.Snapshot

/-!
# Errors of the actuator

## Main definitions

* `Actuator.PublishError` — why a status could not be published;
* `Actuator.ActuatorError` — why a request of a cluster could not be met.
-/

namespace ClusterNet

namespace Actuator

/-- Why a status could not be published. -/
inductive PublishError where
  /-- The published status was changed by someone else. -/
  | conflict (reason : String)
  /-- Something else. -/
  | other (reason : String)
deriving DecidableEq, Repr, Inhabited

namespace PublishError

/-- The wording of an error. -/
def message : PublishError → String
  | conflict reason => s!"Conflict: {reason}"
  | other reason => reason

/-- Whether the error is a conflict. -/
def isConflict : PublishError → Bool
  | conflict _ => true
  | other _ => false

end PublishError

/-- Why a request of a cluster could not be met. -/
inductive ActuatorError where
  /-- The request does not go with its region. -/
  | config (reason : String)
  /-- The configuration does not have the region. -/
  | configFile (source : Config.ConfigError)
  /-- The control plane could not be reached. -/
  | connect (source : ControlPlane.ApiError)
  /-- The infrastructure could not be brought about or taken down. -/
  | infra (source : Cluster.InfraError)
  /-- The state could not be loaded, saved or deleted. -/
  | store (source : Store.StoreError)
  /-- Taking down left something behind. -/
  | teardownIncomplete (ns : String)
  /-- The status could not be published. -/
  | publish (source : PublishError)
deriving DecidableEq, Repr, Inhabited

/-- The wording of an error. -/
def ActuatorError.message : ActuatorError → String
  | config reason => s!"Invalid configuration: {reason}"
  | configFile source => s!"Config error: {source.message}"
  | connect source => s!"Failed to connect to NSX-T: {source.message}"
  | infra source => s!"Infrastructure error: {source.message}"
  | store source => s!"State store error: {source.message}"
  | teardownIncomplete ns => s!"State of '{ns}' still holds references after teardown"
  | publish source => s!"Publishing status failed: {source.message}"

end Actuator

end ClusterNet
