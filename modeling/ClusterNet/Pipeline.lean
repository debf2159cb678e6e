import ClusterNet.ControlPlane.Generation
import ClusterNet.Pipeline.Task

/-!
# The pipeline

The tasks of a cluster in the order in which one builds on another. A run goes through them and
stops at the first that fails; taking down goes through them backwards, so that nothing is deleted
before what was created after it.

## Main definitions

* `Pipeline.tasks` — the tasks for a generation of the control plane;
* `Pipeline.teardownTasks` — the tasks that take down what a state holds;
* `Pipeline.run` — bring a cluster's infrastructure about;
* `Pipeline.takeDown` — delete it.
-/

namespace ClusterNet

namespace Pipeline

open Cluster (InfraError Spec State)
open ControlPlane

/-! ### The order of tasks -/

/-- The objects that are only looked up. -/
def lookUps : List Task :=
  [.lookUp .tier0s, .lookUp .edgeClusters, .lookUp .transportZones, .lookUp .ipPools]

/-- The gateway and its locale service. -/
def gateway : List Task := [.managed (.policy .tier1), .managed (.policy .localeService)]

/-- The outward address and the rule that uses it. -/
def outward : List Task :=
  [.managed (.policy .ipAllocation), .realization, .managed (.policy .natRule)]

/-- The objects that provide DHCP by the manager interface. -/
def managerDhcp : List Task :=
  [.lookUpSwitch, .managed (.manager .dhcpProfile), .managed (.manager .dhcpServer),
   .managed (.manager .logicalPort), .managed (.manager .dhcpIpPool)]

/-- The segment. -/
def segmentTask : Task := .managed (.policy .segment)

/-- The DHCP server configuration. -/
def dhcpServerConfigTask : Task := .managed (.policy .dhcpServerConfig)

/-- The tasks for a generation of the control plane. -/
def tasks : Generation → List Task
  | .v2 => lookUps ++ gateway ++ [segmentTask] ++ outward ++ managerDhcp
  | .v3 => lookUps ++ gateway ++ [dhcpServerConfigTask, segmentTask] ++ outward

/-- The tasks that take down what a state holds. A state with manager objects was built for the
older generation, and after an upgrade it may hold objects of both. -/
def teardownTasks (g : Generation) (s : State) : List Task :=
  if s.dhcp.isSome then
    lookUps ++ gateway ++ [dhcpServerConfigTask, segmentTask] ++ outward ++ managerDhcp
  else tasks g

/-! ### Running -/

/-- What a task did. -/
structure Outcome where
  /-- The task's name. -/
  task : String
  /-- What it did. -/
  action : Action
deriving DecidableEq, Repr

/-- Look for what a task looks after if its reference is missing and recovery is enabled. -/
def recoverIfLost (t : Task) (c : Context) : Step Unit := fun s =>
  if c.recoveryEnabled && (t.reference s).isNone then
    match t.recover? with
    | none => .done (.ok (), s)
    | some recover => do
      let (result, s) ← recover c s
      return (result.map fun _ => (), s)
  else .done (.ok (), s)

/-- Recover and ensure what a task looks after. -/
def runTask (t : Task) (c : Context) (spec : Spec) : Step Action := fun s => do
  match ← recoverIfLost t c s with
  | (.error e, s) => return (.error (e.inTask t.label), s)
  | (.ok (), s) =>
    let (result, s) ← t.ensure c spec s
    return (result.mapError (·.inTask t.label), s)

/-- Go through tasks up to the first that fails. -/
def runTasks (c : Context) (spec : Spec) : List Task → Step (List Outcome)
  | [], s => .done (.ok [], s)
  | t :: ts, s => do
    match ← runTask t c spec s with
    | (.error e, s) => return (.error e, s)
    | (.ok action, s) =>
      let (rest, s) ← runTasks c spec ts s
      return (rest.map (⟨t.label, action⟩ :: ·), s)

/-- Bring a cluster's infrastructure about. -/
def run (g : Generation) (c : Context) (spec : Spec) : Step (List Outcome) := fun s =>
  match spec.validate with
  | .error e => .done (.error e, s)
  | .ok () => runTasks c spec (tasks g) s

/-- Go through tasks, deleting what they look after, up to the first that fails. The names of
those that deleted something are the result. -/
def removeAll : List Task → Step (List String)
  | [], s => .done (.ok [], s)
  | t :: ts, s => do
    match ← t.remove s with
    | (.error e, s) => return (.error (e.inTask t.label), s)
    | (.ok deleted, s) =>
      let (rest, s) ← removeAll ts s
      return (rest.map fun labels => if deleted then t.label :: labels else labels, s)

/-- Take down what given tasks look after, the last task first. -/
def takeDownTasks (ts : List Task) : Step (List String) := removeAll ts.reverse

/-- Take down what a state holds. -/
def takeDown (g : Generation) : Step (List String) := fun s =>
  takeDownTasks (teardownTasks g s) s

end Pipeline

end ClusterNet
