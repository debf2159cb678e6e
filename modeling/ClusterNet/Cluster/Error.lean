import ClusterNet.ControlPlane.Error
import ClusterNet.Duration

/-!
# Errors of a cluster's infrastructure

## Main definitions

* `Cluster.InfraError` — why a cluster's infrastructure could not be brought about or taken down;
* `Cluster.InfraError.inTask` — an error together with the task in which it arose.
-/

namespace ClusterNet

namespace Cluster

open ControlPlane (ApiError)

/-- Why a cluster's infrastructure could not be brought about or taken down. -/
inductive InfraError where
  /-- A task failed. -/
  | task (label : String) (source : InfraError)
  /-- There is no object with the name that was asked for. -/
  | lookupNotFound (kind name : String)
  /-- A task needs what an earlier one should have left behind. -/
  | missingDependency (task dependency : String)
  /-- An allocated address did not come into being in time. -/
  | realizationTimeout (path : String) (timeout : Duration)
  /-- A network has the wrong form or size. -/
  | cidr (reason : String)
  /-- What is asked for makes no sense. -/
  | invalidSpec (reason : String)
  /-- The control plane failed. -/
  | api (source : ApiError)
deriving DecidableEq, Repr, Inhabited

namespace InfraError

/-- The wording of an error. -/
def message : InfraError → String
  | task label source => s!"Task {label} failed: {source.message}"
  | lookupNotFound kind name => s!"No {kind} named '{name}' found"
  | missingDependency label dependency => s!"Task {label} requires {dependency}, which is not set"
  | realizationTimeout path timeout =>
    s!"IP allocation {path} was not realized within {timeout.text}"
  | cidr reason => s!"CIDR error: {reason}"
  | invalidSpec reason => s!"Invalid spec: {reason}"
  | api source => s!"NSX-T error: {source.message}"

/-- Whether the cause is that an object does not exist. -/
def isNotFound : InfraError → Bool
  | task _ source => source.isNotFound
  | api source => source.isNotFound
  | _ => false

/-- The error together with the task in which it arose. The innermost task is the one that
counts. -/
def inTask (label : String) : InfraError → InfraError
  | task inner source => task inner source
  | e => task label e

end InfraError

end Cluster

end ClusterNet
