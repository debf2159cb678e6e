import ClusterNet.Cluster.State
import ClusterNet.ControlPlane.Error
import ClusterNet.OrderedMap
import ClusterNet.Program

/-!
# The shared object

The states of all clusters are kept in one object, a record for each namespace. The object has a
revision, and it is replaced as a whole by a write that names the revision it was made for.

## Main definitions

* `Store.StoredRecord`, `Store.Snapshot` — a record, and the object at one revision;
* `Store.StoreError` — what can go wrong;
* `Store.Request`, `Store.interface` — reading and replacing the object.
-/

namespace ClusterNet

namespace Store

/-- The record of a cluster. -/
structure StoredRecord where
  /-- The version of the form in which the state is written. -/
  version : String
  /-- The state as a text. -/
  state : String
deriving DecidableEq, Repr, Inhabited

/-- How a record is written. -/
def StoredRecord.record : Record StoredRecord :=
  .iso
    (.field (.required "version" .text) <| .field (.required "state" .text) .nil)
    (fun (version, state, ()) => { version, state })
    fun r => (r.version, r.state, ())

/-- The codec of records. -/
def StoredRecord.codec : Codec StoredRecord := StoredRecord.record.codec

/-- The records by namespace. -/
abbrev Entries := OrderedMap String StoredRecord

/-- The object at one revision. -/
structure Snapshot where
  /-- The records. -/
  entries : Entries := .empty
  /-- The revision. There is none while the object does not exist. -/
  revision : Option UInt64 := none
deriving DecidableEq, Repr, Inhabited

/-- The revision that follows another one. The first one is zero. -/
def nextRevision : Option UInt64 → UInt64
  | none => 0
  | some r => r + 1

/-- What can go wrong with the object. -/
inductive StoreError where
  /-- A record is written in another form. -/
  | versionMismatch (ns found expected : String)
  /-- The object has another revision than the one that a write was made for. -/
  | conflict (expected : Option UInt64)
  /-- All attempts to write met another revision. -/
  | retriesExhausted (ns : String) (attempts : Nat)
  /-- A text could not be decoded. -/
  | json
  /-- A file could not be read or written. -/
  | io
deriving DecidableEq, Repr, Inhabited

namespace StoreError

/-- The wording of an error. -/
def message : StoreError → String
  | versionMismatch ns found expected =>
    s!"State of '{ns}' has version {found}, expected {expected}"
  | conflict expected =>
    let revision := ControlPlane.optionText (expected.map fun r => toString r.toNat)
    s!"Concurrent modification of the state object (expected revision {revision})"
  | retriesExhausted ns attempts =>
    s!"Gave up saving state of '{ns}' after {attempts} conflicting attempts"
  | json => "JSON error"
  | io => "IO error"

end StoreError

/-- What can be done with the object. -/
inductive Request where
  /-- Read it. -/
  | read
  /-- Replace the records, if the revision is the expected one. -/
  | write (entries : Entries) (expected : Option UInt64)
deriving DecidableEq, Repr

/-- What a request is answered with. -/
@[reducible] def Answer : Request → Type
  | .read => Except StoreError Snapshot
  | .write _ _ => Except StoreError UInt64

/-- Programs that work with the object. -/
@[reducible] def interface : Interface := ⟨Request, Answer⟩

/-- Work with the object. -/
abbrev Work (α : Type) := Program interface α

/-- Read the object. -/
def read : Work (Except StoreError Snapshot) := Program.request (I := interface) .read

/-- Replace the records. -/
def write (entries : Entries) (expected : Option UInt64) : Work (Except StoreError UInt64) :=
  Program.request (I := interface) (.write entries expected)

end Store

end ClusterNet
