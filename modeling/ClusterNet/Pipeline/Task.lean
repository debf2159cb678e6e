import ClusterNet.Pipeline.Lookup
import ClusterNet.Pipeline.Managed
import ClusterNet.Pipeline.Realization

/-!
# Tasks

A task looks after one thing that a cluster needs.

## Main definitions

* `Pipeline.Task` — the tasks, each with a `label` and, but for one, the `slot` of a reference;
* `Pipeline.Task.ensure`, `Task.remove`, `Task.recover` — what a task can do.
-/

namespace ClusterNet

namespace Pipeline

open Cluster (InfraError Reference Slot Spec State)
open ControlPlane

/-- What can be looked after. -/
inductive Task where
  /-- Look up an object of a catalog. -/
  | lookUp (catalog : Catalog)
  /-- Look after an object of the cluster. -/
  | managed (kind : Kind)
  /-- Wait for the outward address. -/
  | realization
  /-- Look up the logical switch. -/
  | lookUpSwitch
deriving DecidableEq, Repr, Inhabited

namespace Task

/-- All tasks. -/
def all : List Task :=
  Catalog.all.map lookUp ++ Kind.all.map managed ++ [realization, lookUpSwitch]

/-- The task's name. -/
def label : Task → String
  | lookUp c => catalogLabel c
  | managed k => Pipeline.label k
  | realization => realizationLabel
  | lookUpSwitch => switchLabel

/-- The task with a name. -/
def ofLabel? (s : String) : Option Task := all.find? fun t => t.label == s

/-- The slot of the task's reference. -/
def slot : Task → Option Slot
  | lookUp c => some (catalogSlot c)
  | managed k => some (Pipeline.slot k)
  | realization => none
  | lookUpSwitch => some .logicalSwitch

/-- The task's reference. -/
def reference (t : Task) (s : State) : Option Reference := t.slot.bind s.reference

/-- Bring about what the task looks after. -/
def ensure (t : Task) (c : Context) (spec : Spec) : Step Action :=
  match t with
  | lookUp catalog => Pipeline.lookUp catalog c spec
  | managed k => Pipeline.ensure k c spec
  | realization => realize c
  | lookUpSwitch => Pipeline.lookUpSwitch c

/-- Delete what the task looks after. What the cluster does not own is only forgotten. -/
def remove (t : Task) : Step Bool :=
  match t with
  | lookUp catalog => fun s => .done (.ok false, s.forgetting (catalogSlot catalog))
  | managed k => Pipeline.remove k
  | realization => fun s => .done (.ok false, { s with snatIpAddress := none })
  | lookUpSwitch => fun s => .done (.ok false, s.forgetting .logicalSwitch)

/-- Look for what the task looks after by the cluster's tags. Not every task can. -/
def recover? (t : Task) : Option (Context → Step Bool) :=
  match t with
  | managed (.manager k) => some (adopt k)
  | _ => none

end Task

end Pipeline

end ClusterNet
