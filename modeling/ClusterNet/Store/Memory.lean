import ClusterNet.Store.Snapshot

/-!
# The shared object in memory

## Main definitions

* `Store.Memory` — the object, and the conflicts that are due;
* `Store.Memory.answer` — what a request yields on it.
-/

namespace ClusterNet

namespace Store

/-- The object in memory. -/
structure Memory where
  /-- The object. -/
  snapshot : Snapshot := {}
  /-- The number of writes that will meet a conflict. -/
  pendingConflicts : Nat := 0
deriving DecidableEq, Repr

namespace Memory

/-- Replace the records. A conflict that is due is as if someone else had written first. -/
def write (m : Memory) (entries : Entries) (expected : Option UInt64) :
    Except StoreError UInt64 × Memory :=
  match m.pendingConflicts with
  | n + 1 =>
    let revision := some (nextRevision m.snapshot.revision)
    (.error (.conflict expected),
      { snapshot := { m.snapshot with revision }, pendingConflicts := n })
  | 0 =>
    if m.snapshot.revision = expected then
      let revision := nextRevision expected
      (.ok revision, { m with snapshot := { entries, revision := some revision } })
    else (.error (.conflict expected), m)

/-- What a request yields, and the object afterwards. -/
def answer : (r : Request) → Memory → Answer r × Memory
  | .read, m => (.ok m.snapshot, m)
  | .write entries expected, m => m.write entries expected

end Memory

end Store

end ClusterNet
