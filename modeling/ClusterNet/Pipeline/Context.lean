import ClusterNet.Cluster.State
import ClusterNet.ControlPlane.Effect
import ClusterNet.Cluster.Error

/-!
# What a run is given

## Main definitions

* `Pipeline.RealizationSchedule` — how an address is waited for;
* `Pipeline.Context` — what every task of a run is given;
* `Pipeline.Action` — what a task did;
* `Pipeline.Step` — work that takes a cluster's state along, whether or not it succeeds.
-/

namespace ClusterNet

namespace Pipeline

open Cluster (InfraError State)
open ControlPlane (ClusterIdentity Work)

/-- How an address is waited for: by polls with a pause between them that doubles up to a
greatest one. -/
structure RealizationSchedule where
  /-- The pause behind the first poll. -/
  initialInterval : Duration := .ofMillis 100
  /-- The greatest pause. -/
  maxInterval : Duration := .ofSeconds 1
  /-- How long to wait in all. -/
  timeout : Duration := .ofSeconds 15
deriving DecidableEq, Repr, Inhabited

/-- What every task of a run is given. -/
structure Context where
  /-- The cluster that objects are created for. -/
  identity : ClusterIdentity
  /-- Whether objects of the cluster are adopted when their references are missing. -/
  recoveryEnabled : Bool := false
  /-- How an address is waited for. -/
  realization : RealizationSchedule := {}
  /-- How many pages of a listing, and how many polls, are followed. -/
  rounds : Nat
deriving DecidableEq, Repr

/-- What a task did. -/
inductive Action where
  /-- It created an object. -/
  | created
  /-- It changed an object. -/
  | updated
  /-- It found the object as it should be. -/
  | unchanged
  /-- It found an object that was there before. -/
  | found
deriving DecidableEq, Repr, Inhabited

namespace Action

/-- All actions. -/
def all : List Action := [created, updated, unchanged, found]

/-- The action's name. -/
def name : Action → String
  | created => "created"
  | updated => "updated"
  | unchanged => "unchanged"
  | found => "found"

/-- Whether the control plane was changed. -/
def isChange : Action → Bool
  | created | updated => true
  | _ => false

/-- The codec of actions. -/
def codec : Codec Action := .choice name all

end Action

/-- Work that takes a cluster's state along. What has been learnt before an error is kept. -/
abbrev Step (α : Type) := State → Work (Except InfraError α × State)

end Pipeline

end ClusterNet
