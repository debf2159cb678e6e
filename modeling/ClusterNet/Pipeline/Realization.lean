import ClusterNet.Pipeline.Desired

/-!
# Waiting for an address

An allocated address comes into being some time after the allocation was declared. It is asked for
again and again, with a pause in between, until it is there or too much time has passed.

## Main definitions

* `Pipeline.awaitAddress` — the address of the allocation at a path;
* `Pipeline.realize` — wait for the cluster's outward address.

## Time

Time passes only in pauses, so the time that is left is known without a clock: it is the timeout
less the pauses made so far. The last pause ends when the time is up, and one more poll is made.
-/

namespace ClusterNet

namespace Pipeline

open Cluster (InfraError Slot State)
open ControlPlane

/-- The name of the task that waits for the address. -/
def realizationLabel : String := "snat-ip-realization"

/-- The attribute that holds the address of an allocation. -/
def addressAttribute : String := "allocation_ip"

/-- The address among the things that an allocation has become: the first value of the attribute,
unless it is empty. -/
def addressOf (entities : List RealizedEntity) : Option String :=
  (entities.findSome? (·.attribute addressAttribute)).filter fun a => !a.isEmpty

/-- A wait under way. -/
structure Waiting where
  /-- The next pause, if there is enough time left. -/
  interval : Duration
  /-- The time that is left. -/
  left : Duration
deriving DecidableEq, Repr

namespace Waiting

/-- The start of a wait. -/
def start (schedule : RealizationSchedule) : Waiting := ⟨schedule.initialInterval, schedule.timeout⟩

/-- The next pause. -/
def pause (w : Waiting) : Duration := w.interval.min w.left

/-- The wait behind the next pause. -/
def next (schedule : RealizationSchedule) (w : Waiting) : Waiting where
  interval := w.interval.double.min schedule.maxInterval
  left := w.left.sub w.pause

end Waiting

/-- What a poll says: the address, an error, or that it is not there yet. -/
def pollResult (answer : Except ApiError (List RealizedEntity)) :
    Option (Except InfraError String) :=
  match answer with
  | .ok entities => (addressOf entities).map .ok
  | .error e => if e.isNotFound then none else some (.error (.api e))

/-- Poll once, and pause if the address is not there yet and there is time left. -/
def poll (schedule : RealizationSchedule) (path : String) (w : Waiting) :
    Work (Waiting ⊕ Except InfraError String) := do
  match pollResult (← Work.call (.listRealized path)) with
  | some result => return .inr result
  | none =>
    if w.left.nanoseconds = 0 then
      return .inr (.error (.realizationTimeout path schedule.timeout))
    else do
      Work.sleep w.pause
      return .inl (w.next schedule)

/-- The address of the allocation at a path. -/
def awaitAddress (schedule : RealizationSchedule) (path : String) (polls : Nat) :
    Work (Except InfraError String) :=
  Program.loop (poll schedule path) polls (.start schedule)

/-- What it means to have found an address, given the one that was known. -/
def addressAction (known : Option String) (address : String) : Action :=
  match known with
  | none => .found
  | some known => if known = address then .unchanged else .updated

/-- Wait for the cluster's outward address. -/
def realize (c : Context) : Step Action := fun s =>
  match require realizationLabel s .snatIpAllocation with
  | .error e => .done (.error e, s)
  | .ok allocation => do
    match ← awaitAddress c.realization allocation.path c.rounds with
    | .error e => return (.error e, s)
    | .ok address =>
      return (.ok (addressAction s.snatIpAddress address), { s with snatIpAddress := some address })

end Pipeline

end ClusterNet
