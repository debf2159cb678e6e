import ClusterNet.ControlPlane.Paging
import ClusterNet.Pipeline.Desired

/-!
# Looking after one object

What is done for each kind of object that a cluster has: bringing it about, deleting it, and
adopting it when its reference was lost. The ten kinds differ in how their objects should be; what
is done about it is the same for all.

## Main definitions

* `Pipeline.ensure` — bring an object about: read it, and create or change it if need be;
* `Pipeline.remove` — delete it;
* `Pipeline.adopt` — look for it by its tags.

## Vanished objects

An object that is not found any more is created anew, once. Its old reference is kept until the
new one takes its place.
-/

namespace ClusterNet

namespace Pipeline

open Cluster (InfraError Reference Slot Spec State)
open ControlPlane

/-! ### Bringing about -/

/-- The state when the object of a kind is about to be read. For manager objects it has a part
for their references. -/
def opened (k : Kind) (s : State) : State :=
  match k with
  | .policy _ => s
  | .manager _ => s.withDhcp

/-- What is sent to change an object: how it should be, with what the control plane decides. -/
def rewritten (k : Kind) (current desired : k.Object) : k.Object :=
  match k, current, desired with
  | .policy .ipAllocation, c, d => { d with allocationIp := c.allocationIp }
  | .manager mk, c, d => mk.withRevision (mk.revision? c) d
  | .policy .tier1, _, d => d
  | .policy .localeService, _, d => d
  | .policy .segment, _, d => d
  | .policy .natRule, _, d => d
  | .policy .dhcpServerConfig, _, d => d

/-- What is known once an object has been changed or created as it should be. -/
def noted (k : Kind) (desired : k.Object) (s : State) : State :=
  match k, desired with
  | .policy .segment, d => { s with segmentName := d.displayName }
  | _, _ => s

/-- What is known once an object has been created under an id. A new allocation may bring another
address. -/
def recorded (k : Kind) (parent id : String) (desired : k.Object) (s : State) : State :=
  let s := noted k desired (s.withReference (slot k) (some ⟨id, k.path ⟨parent, id⟩⟩))
  match k with
  | .policy .ipAllocation => { s with snatIpAddress := none }
  | _ => s

/-- Change an object that is not as it should be. -/
def overwrite (k : Kind) (place : Place) (current desired : k.Object) : Step Action := fun s =>
  let done (s : State) : Except ApiError Unit → Except InfraError Action × State
    | .ok () => (.ok .updated, noted k desired s)
    | .error e => (.error (.api e), s)
  match k, current, desired, done with
  | .policy pk, c, d, done => do
    return done s (← Work.call (.patch pk place (rewritten (.policy pk) c d)))
  | .manager mk, c, d, done => do
    let answer ← Work.call (.update mk place (rewritten (.manager mk) c d))
    return done s (answer.map fun _ => ())

/-- The error of an object that was created without an id. -/
def withoutId (k : Kind) : InfraError :=
  .api (.unexpectedResponse s!"{label k} was created without an id")

/-- Create an object. A declared one is given a fresh id, a created one brings its own. -/
def build (k : Kind) (parent : String) (desired : k.Object) : Step Action := fun s =>
  match k, desired with
  | .policy pk, d => do
    let id ← Work.drawId
    match ← Work.call (.patch pk ⟨parent, id⟩ d) with
    | .ok () => return (.ok .created, recorded (.policy pk) parent id d s)
    | .error e => return (.error (.api e), s)
  | .manager mk, d => do
    match ← Work.call (.create mk parent d) with
    | .ok created =>
      match mk.id? created with
      | some id => return (.ok .created, recorded (.manager mk) parent id d s)
      | none => return (.error (withoutId (.manager mk)), s)
    | .error e => return (.error (.api e), s)

/-- Bring an object about. -/
def ensure (k : Kind) (c : Context) (spec : Spec) : Step Action := fun s =>
  match draft c.identity spec s k with
  | .error e => .done (.error e, s)
  | .ok (parent, desired) =>
    let s := opened k s
    match s.reference (slot k) with
    | none => build k parent desired s
    | some r => do
      match ← Work.call (.get k ⟨parent, r.id⟩) with
      | .ok current =>
        if agrees k current desired then return (.ok .unchanged, s)
        else overwrite k ⟨parent, r.id⟩ current desired s
      | .error e =>
        if e.isNotFound then build k parent desired s
        else return (.error (.api e), s)

/-! ### Deletion -/

/-- The id of the object that a referenced one belongs to, as far as deletion needs it. Objects of
a gateway are deleted under the gateway in their own path, which need not be the one that is
referenced now. -/
def ownerOf (k : Kind) (s : State) (r : Reference) : Except InfraError String :=
  match k with
  | .policy .ipAllocation => (require (label k) s .snatIpPool).map (·.id)
  | .manager .dhcpIpPool => (require (label k) s .dhcpServer).map (·.id)
  | .policy pk =>
    if pk.isOfTier1 then
      match Path.tier1IdOf? r.path with
      | some id => .ok id
      | none => .error (.missingDependency (label (.policy pk)) (dependencyName .tier1Gateway))
    else .ok ""
  | .manager _ => .ok ""

/-- What is known once an object is gone. -/
def forgotten (k : Kind) (s : State) : State :=
  let s := s.forgetting (slot k)
  match k with
  | .policy .segment => { s with segmentName := none }
  | _ => s

/-- What is known when there is nothing to delete. -/
def withoutObject (k : Kind) (s : State) : State :=
  match k with
  | .manager .dhcpIpPool => s
  | k => forgotten k s

/-- Delete an object. An object that is gone already counts as nothing to delete. -/
def remove (k : Kind) : Step Bool := fun s =>
  match s.reference (slot k) with
  | none => .done (.ok false, withoutObject k s)
  | some r =>
    match ownerOf k s r with
    | .error e => .done (.error e, s)
    | .ok parent => do
      match ← Work.call (.delete k ⟨parent, r.id⟩) with
      | .ok () => return (.ok true, forgotten k s)
      | .error e =>
        if e.isNotFound then return (.ok false, forgotten k s)
        else return (.error (.api e), s)

/-! ### Adoption -/

/-- The id of the object in whose listing a kind's objects are looked for: nothing if that object
is not known. -/
def listingParent (k : ManagerKind) (s : State) : Option String :=
  if k.isNested then (s.reference .dhcpServer).map (·.id) else some ""

/-- Look for an object that carries the cluster's tags, and keep a reference to it. -/
def adopt (k : ManagerKind) (c : Context) : Step Bool := fun s =>
  match listingParent k s with
  | none => .done (.ok false, s)
  | some parent => do
    let found ← findFirst (fun cursor => Work.call (.list k parent cursor))
      (fun o => c.identity.isTagged (k.tags o)) c.rounds
    match found with
    | .error e => return (.error (.api e), s)
    | .ok o =>
      match o.bind k.id? with
      | none => return (.ok false, s)
      | some id =>
        return (.ok true,
          s.withReference (slot (.manager k)) (some ⟨id, k.path ⟨parent, id⟩⟩))

end Pipeline

end ClusterNet
