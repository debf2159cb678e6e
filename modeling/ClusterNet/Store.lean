import ClusterNet.Json.Parser
import ClusterNet.Json.Printer
import ClusterNet.Store.Snapshot

/-!
# The states of clusters

Loading, saving and deleting the state of a cluster in the shared object. A change reads the
object, changes one record and writes the object for the revision that it read; if someone else
was faster, it starts again.

## Main definitions

* `Store.load`, `Store.save`, `Store.delete` — what can be done with the state of a namespace;
* `Store.modify` — a change to the records;
* `Store.put` — a record written as it is.
-/

namespace ClusterNet

namespace Store

open Cluster (State)

/-- The number of attempts to write unless another one is given. -/
def defaultAttempts : Nat := 5

/-- The record of a state. -/
def recordOf (s : State) : StoredRecord where
  version := Cluster.stateVersion
  state := (State.codec.encode s).compact

/-- The state in the record of a namespace. -/
def stateOf (ns : String) (r : StoredRecord) : Except StoreError State :=
  if r.version = Cluster.stateVersion then
    match (Json.parse r.state).bind State.codec.decode with
    | some s => .ok s
    | none => .error .json
  else .error (.versionMismatch ns r.version Cluster.stateVersion)

/-- The state of a namespace in an object, if it was ever saved. -/
def stateIn (ns : String) (snapshot : Snapshot) : Except StoreError (Option State) :=
  match snapshot.entries.find? ns with
  | none => .ok none
  | some r => (stateOf ns r).map some

/-- The state of a namespace, if it was ever saved. -/
def load (ns : String) : Work (Except StoreError (Option State)) := do
  match ← read with
  | .error e => return .error e
  | .ok snapshot => return stateIn ns snapshot

/-- Change the records, starting again at a conflict, in at most `left` attempts. The error of
having used them up names the number `all` of attempts. -/
def attempt (ns : String) (change : Entries → Entries) (all : Nat) :
    (left : Nat) → Work (Except StoreError Unit)
  | 0 => .done (.error (.retriesExhausted ns all))
  | left + 1 => do
    match ← read with
    | .error e => return .error e
    | .ok snapshot =>
      match ← write (change snapshot.entries) snapshot.revision with
      | .ok _ => return .ok ()
      | .error (.conflict _) => attempt ns change all left
      | .error e => return .error e

/-- Change the records on behalf of a namespace. -/
def modify (ns : String) (change : Entries → Entries) (attempts : Nat) :
    Work (Except StoreError Unit) :=
  attempt ns change attempts attempts

/-- Put a record into the object as it is, in one attempt. Yields the new revision. -/
def put (ns : String) (r : StoredRecord) : Work (Except StoreError UInt64) := do
  match ← read with
  | .error e => return .error e
  | .ok snapshot => write (snapshot.entries.insert ns r) snapshot.revision

/-- Create or replace the state of a namespace. -/
def save (ns : String) (s : State) (attempts : Nat) : Work (Except StoreError Unit) :=
  modify ns (·.insert ns (recordOf s)) attempts

/-- Remove the state of a namespace, if there is one. -/
def delete (ns : String) (attempts : Nat) : Work (Except StoreError Unit) :=
  modify ns (·.erase ns) attempts

end Store

end ClusterNet
