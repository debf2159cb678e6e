import ClusterNet.Actuator.BalancerCleanup
import ClusterNet.Actuator.ClusterRequest
import ClusterNet.Actuator.Effect
import ClusterNet.Pipeline
import ClusterNet.Store

/-!
# The actuator

The actuator meets the requests of clusters: it brings their infrastructure about and takes it
down. Between requests it remembers nothing but the states in the shared object.

## Main definitions

* `Actuator.Settings` — what an actuator is set up with;
* `Actuator.reconcile` — create or repair a cluster's infrastructure and publish its status;
* `Actuator.delete` — take a cluster's infrastructure down.

## Order of events

Whatever can be refused without touching anything is refused first: the region, the placement of
its zones, the credentials. Once a run has begun, its state is saved exactly once, whether or not
it succeeded, so that nothing that was created is forgotten. Of two errors the one of the run is
reported.
-/

namespace ClusterNet

namespace Actuator

open Cluster (InfraError State)
open Config (ControllerConfig Region)
open ControlPlane (Generation)
open Pipeline (Context RealizationSchedule)

/-- What an actuator is set up with. -/
structure Settings where
  /-- The regions and what goes for all of them. -/
  config : ControllerConfig
  /-- How often a status is published again after a conflict. -/
  publishRetry : RetryPolicy := {}
  /-- How often a state is written before it is given up. -/
  storeAttempts : Nat := Store.defaultAttempts
  /-- How many pages of a listing, and how many polls, are followed. -/
  rounds : Nat

/-- How an outward address is waited for. -/
def schedule (s : Config.RealizationSettings) : RealizationSchedule where
  initialInterval := .ofMillis s.initialIntervalMs
  maxInterval := .ofMillis s.maxIntervalMs
  timeout := .ofSeconds s.timeoutSeconds

/-- What the tasks of a run are given. -/
def Settings.context (s : Settings) (r : ClusterRequest) : Context where
  identity := r.identity
  recoveryEnabled := s.config.recoveryEnabled
  realization := schedule s.config.realization
  rounds := s.rounds

/-- The region of a request. -/
def Settings.region (s : Settings) (r : ClusterRequest) : Except ActuatorError Region :=
  (s.config.region r.region).mapError .configFile

/-! ### Parts -/

/-- Connect to the control plane of a region. -/
def connect (s : Settings) (r : ClusterRequest) (region : Region) :
    Work (Except ActuatorError Generation) :=
  match r.connectorSettings region s.config.apiRetries with
  | .error e => .done (.error e)
  | .ok settings => do return (← Work.connect settings).mapError .connect

/-- The state of a namespace, if it was ever saved. -/
def loadState (ns : String) : Work (Except ActuatorError (Option State)) := do
  return (← Work.onStore (Store.load ns)).mapError .store

/-- What a run comes to when its state was saved or could not be saved. -/
def afterSaving {α : Type} :
    Except InfraError α → Except Store.StoreError Unit → Except ActuatorError α
  | .error e, _ => .error (.infra e)
  | .ok _, .error e => .error (.store e)
  | .ok a, .ok () => .ok a

/-- Run a part of the pipeline from a state and save the state that it leaves behind. -/
def runAndSave {α : Type} (s : Settings) (ns : String) (run : Pipeline.Step α) (state : State) :
    Work (Except ActuatorError α × State) := do
  let (result, state) ← Work.onPlane (run state)
  let saved ← Work.onStore (Store.save ns state s.storeAttempts)
  return (afterSaving result saved, state)

/-! ### Reconcile -/

/-- The state of a cluster from here on: creation has started. -/
def started (state : Option State) : State :=
  { state.getD State.fresh with creationStarted := true }

/-- Publish a status and yield it. -/
def announce (s : Settings) (ns : String) (status : Status) :
    Work (Except ActuatorError Status) := do
  match ← publish Work.publish Work.sleep s.publishRetry ns status with
  | .error e => return .error (.publish e)
  | .ok () => return .ok status

/-- Bring a cluster's infrastructure about at a control plane of a generation, and publish its
status. -/
def reconcileAt (s : Settings) (r : ClusterRequest) (region : Region) (zones : ZonePlacements)
    (g : Generation) : Work (Except ActuatorError Status) := do
  match ← loadState r.ns with
  | .error e => return .error e
  | .ok state =>
    let run := Pipeline.run g (s.context r) (r.spec region)
    match ← runAndSave s r.ns run (started state) with
    | (.error e, _) => return .error e
    | (.ok _, state) => announce s r.ns { state, zones }

/-- Create or repair a cluster's infrastructure and publish its status. -/
def reconcile (s : Settings) (r : ClusterRequest) : Work (Except ActuatorError Status) :=
  match s.region r with
  | .error e => .done (.error e)
  | .ok region =>
    match zonePlacements region with
    | .error e => .done (.error e)
    | .ok zones => do
      match ← connect s r region with
      | .error e => return .error e
      | .ok g => reconcileAt s r region zones g

/-! ### Delete -/

/-- Drop the state of a cluster if nothing is left to refer to. -/
def dropState (s : Settings) (ns : String) (state : State) : Work (Except ActuatorError Unit) :=
  if state.holdsNoReferences then do
    return (← Work.onStore (Store.delete ns s.storeAttempts)).mapError .store
  else .done (.error (.teardownIncomplete ns))

/-- Take down what a state holds at a control plane of a generation. Load-balancer objects that
cannot be deleted do not stop it. -/
def deleteAt (s : Settings) (r : ClusterRequest) (state : State) (g : Generation) :
    Work (Except ActuatorError Unit) := do
  let scope := s.config.loadBalancer.clusterTagScope
  let _ ← Work.onPlane (cleanUpBalancers scope r.clusterName s.rounds)
  match ← runAndSave s r.ns (Pipeline.takeDown g) state with
  | (.error e, _) => return .error e
  | (.ok _, state) => dropState s r.ns state

/-- Take a cluster's infrastructure down. Nothing is done for a cluster whose creation never
started. -/
def delete (s : Settings) (r : ClusterRequest) : Work (Except ActuatorError Unit) := do
  match ← loadState r.ns with
  | .error e => return .error e
  | .ok none => return .ok ()
  | .ok (some state) =>
    if state.creationStarted then
      match s.region r with
      | .error e => return .error e
      | .ok region =>
        match ← connect s r region with
        | .error e => return .error e
        | .ok g => deleteAt s r state g
    else return .ok ()

end Actuator

end ClusterNet
