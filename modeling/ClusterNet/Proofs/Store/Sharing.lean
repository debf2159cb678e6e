import ClusterNet.Store
import ClusterNet.Store.Memory
import Mathlib.Logic.Function.Basic

/-!
# Clients that share an object

Any number of clients save and delete states in one object in memory. Each request of a client is
one step, so between a client's look at the object and its write any number of steps of others may
lie. A write replaces the whole object. What makes this safe is the revision: a write is taken only
if the object still has the revision that the client saw, and *equal revisions mean equal records*.

## Revisions

Every write that is taken, and every conflict that is due, moves the revision on. Revisions are
words of 64 bits, so they come round again; as long as there are fewer than `2 ^ 64` writes they do
not get that far, and a revision is as good as the number of times that it was moved on
(`revisionAfter_injective`). The object that does not exist yet, which has no revision, fits in as
the start of the count.

## Main definitions

* `Store.Change` — what a client may ask for, as a change to the records and as work
* `Store.Sharing` — the object, the operations under way and the log of what happened
* `Store.Sharing.step`, `Sharing.run` — one move of a schedule, and a schedule
* `Store.accepted`, `Store.writesOf` — what the log says about the writes
* `Store.UnderWay`, `Store.Sharing.Sound` — the invariant, for one operation and for all

## Main results

* `Store.Sharing.no_lost_updates` — under every schedule the records are the initial ones with the
  changes of exactly the operations whose write was taken, in the order of these writes
-/

namespace ClusterNet

namespace Store

open Cluster (State)

/-! ### Revisions by count -/

/-- The revision after it was moved on `n` times. -/
def revisionAfter (r : Option UInt64) : Nat → Option UInt64
  | 0 => r
  | n + 1 => some (nextRevision (revisionAfter r n))

theorem revisionAfter_succ_eq (r : Option UInt64) (n : Nat) :
    revisionAfter r (n + 1) = some (nextRevision r + UInt64.ofNat n) := by
  induction n with
  | zero => simp [revisionAfter]
  | succ n ih =>
    rw [revisionAfter, ih]
    simp only [nextRevision, UInt64.ofNat_add, UInt64.add_assoc]
    rfl

/-- Fewer than `2 ^ 64` moves never lead back to the start. -/
theorem revisionAfter_succ_ne_start {r : Option UInt64} {n : Nat} (hn : n + 1 < UInt64.size) :
    revisionAfter r (n + 1) ≠ r := by
  rw [revisionAfter_succ_eq]
  intro h
  cases r with
  | none => exact absurd h (by simp)
  | some b =>
    have hword : (b + 1 + UInt64.ofNat n).toNat = b.toNat := by
      rw [show b + 1 + UInt64.ofNat n = b from Option.some.inj h]
    rw [UInt64.toNat_add, UInt64.toNat_add, UInt64.toNat_ofNat_of_lt' (Nat.lt_of_succ_lt hn)]
      at hword
    have hb : b.toNat < 2 ^ 64 := UInt64.toNat_lt b
    have hone : (1 : UInt64).toNat = 1 := rfl
    have hsize : UInt64.size = 2 ^ 64 := rfl
    omega

/-- Fewer than `2 ^ 64` moves lead to a different revision each. -/
theorem revisionAfter_injective {r : Option UInt64} {m n : Nat} (hm : m < UInt64.size)
    (hn : n < UInt64.size) (h : revisionAfter r m = revisionAfter r n) : m = n := by
  cases m with
  | zero =>
    cases n with
    | zero => rfl
    | succ n => exact absurd h.symm (revisionAfter_succ_ne_start hn)
  | succ m =>
    cases n with
    | zero => exact absurd h (revisionAfter_succ_ne_start hm)
    | succ n =>
      rw [revisionAfter_succ_eq, revisionAfter_succ_eq] at h
      have hword : UInt64.ofNat m = UInt64.ofNat n :=
        UInt64.add_right_inj _ |>.mp (Option.some.inj h)
      have hnat : m = n := by
        rw [← UInt64.toNat_ofNat_of_lt' (Nat.lt_of_succ_lt hm),
          ← UInt64.toNat_ofNat_of_lt' (Nat.lt_of_succ_lt hn), hword]
      rw [hnat]

/-! ### Changes and operations -/

/-- A change that a client may ask for. -/
inductive Change where
  /-- Create or replace the state of a namespace. -/
  | save (ns : String) (state : State)
  /-- Remove the state of a namespace. -/
  | delete (ns : String)
deriving DecidableEq

namespace Change

/-- The namespace that the change is about. -/
def ns : Change → String
  | save ns _ => ns
  | delete ns => ns

/-- What the change does to the records. -/
def apply : Change → Entries → Entries
  | save ns s => fun es => es.insert ns (recordOf s)
  | delete ns => fun es => es.erase ns

/-- The work of making the change in so many attempts. -/
def work (attempts : Nat) : Change → Work (Except StoreError Unit)
  | save ns s => Store.save ns s attempts
  | delete ns => Store.delete ns attempts

theorem work_eq (c : Change) (attempts : Nat) :
    c.work attempts = attempt c.ns c.apply attempts attempts := by
  cases c <;> rfl

end Change

/-- What is left of an operation that has written and was given an answer. -/
def answered (c : Change) (all left : Nat) :
    Except StoreError UInt64 → Work (Except StoreError Unit)
  | .ok _ => .done (.ok ())
  | .error (.conflict _) => attempt c.ns c.apply all left
  | .error e => .done (.error e)

/-- What is left of an operation that has seen the object and is about to write. -/
def writing (c : Change) (all left : Nat) (seen : Snapshot) : Work (Except StoreError Unit) :=
  (write (c.apply seen.entries) seen.revision).bind (answered c all left)

/-- A change that a client has begun to make. No two operations have the same number. -/
structure Operation (ι : Type) where
  /-- Who makes it. -/
  client : ι
  /-- The number of operations begun before it. -/
  number : Nat
  /-- The change. -/
  change : Change
deriving DecidableEq

/-- What the log of a shared object tells. -/
inductive Entry (ι : Type) where
  /-- A write reached the object, and it was taken or not. -/
  | wrote (op : Operation ι) (taken : Bool)
  /-- An operation came to its end. -/
  | returned (op : Operation ι) (result : Except StoreError Unit)

/-- The operation that an entry is about. -/
def Entry.op {ι : Type} : Entry ι → Operation ι
  | .wrote op _ => op
  | .returned op _ => op

/-- An object in memory that clients share. -/
structure Sharing (ι : Type) where
  /-- The object. -/
  memory : Memory
  /-- What each client is busy with: an operation, and the work that is left of it. -/
  running : ι → Option (Operation ι × Work (Except StoreError Unit)) := fun _ => none
  /-- The number of operations begun so far. -/
  begun : Nat := 0
  /-- What happened, in order. -/
  log : List (Entry ι) := []

/-- A move of a schedule. -/
inductive Move (ι : Type) where
  /-- An idle client begins to make a change. -/
  | begin (client : ι) (change : Change)
  /-- A client makes its next request, or hands out the result if it has one. -/
  | advance (client : ι)
  /-- So many of the next writes will meet a conflict. -/
  | inject (count : Nat)

variable {ι : Type} [DecidableEq ι]

namespace Sharing

/-- The operation `op` goes on with the work that is left of it. -/
def resume (w : Sharing ι) (op : Operation ι) : Work (Except StoreError Unit) → Sharing ι
  | .done result =>
    { w with
      running := Function.update w.running op.client none
      log := w.log ++ [.returned op result] }
  | .unfinished => w
  | .ask .read next =>
    { w with running := Function.update w.running op.client (some (op, next (.ok w.memory.snapshot))) }
  | .ask (.write entries expected) next =>
    let (answer, memory) := w.memory.write entries expected
    { w with
      memory
      running := Function.update w.running op.client (some (op, next answer))
      log := w.log ++ [.wrote op answer.isOk] }

theorem resume_looking (w : Sharing ι) (op : Operation ι) (all left : Nat) :
    w.resume op (attempt op.change.ns op.change.apply all (left + 1)) =
      { w with
        running := Function.update w.running op.client
          (some (op, writing op.change all left w.memory.snapshot)) } :=
  rfl

theorem resume_writing (w : Sharing ι) (op : Operation ι) (all left : Nat) (seen : Snapshot) :
    w.resume op (writing op.change all left seen) =
      let (answer, memory) := w.memory.write (op.change.apply seen.entries) seen.revision
      { w with
        memory
        running := Function.update w.running op.client (some (op, answered op.change all left answer))
        log := w.log ++ [.wrote op answer.isOk] } :=
  rfl

/-- One move. Clients that are busy begin nothing, and idle ones have nothing to go on with. -/
def step (attempts : ι → Nat) (w : Sharing ι) : Move ι → Sharing ι
  | .begin i change =>
    match w.running i with
    | some _ => w
    | none =>
      { w with
        running := Function.update w.running i
          (some (⟨i, w.begun, change⟩, change.work (attempts i)))
        begun := w.begun + 1 }
  | .advance i =>
    match w.running i with
    | some (op, work) => w.resume op work
    | none => w
  | .inject count => { w with memory := { w.memory with pendingConflicts := count } }

/-- A schedule, from an object that nobody works with yet. -/
def run (attempts : ι → Nat) (m : Memory) (moves : List (Move ι)) : Sharing ι :=
  moves.foldl (step attempts) { memory := m }

end Sharing

/-! ### What the log says -/

/-- The operations whose write was taken, in the order of these writes. -/
def accepted (log : List (Entry ι)) : List (Operation ι) :=
  log.filterMap fun
    | .wrote op true => some op
    | _ => none

/-- The writes of an operation: for each whether it was taken. -/
def writesOf (op : Operation ι) (log : List (Entry ι)) : List Bool :=
  log.filterMap fun
    | .wrote op' taken => if op' = op then some taken else none
    | .returned _ _ => none

/-- The number of writes. -/
def writeCount (log : List (Entry ι)) : Nat :=
  (log.filterMap fun
    | .wrote _ taken => some taken
    | .returned _ _ => none).length

/-- The records after the changes of operations, one after the other. -/
def applyAll (ops : List (Operation ι)) (entries : Entries) : Entries :=
  ops.foldl (fun es op => op.change.apply es) entries

omit [DecidableEq ι] in
theorem accepted_append (log log' : List (Entry ι)) :
    accepted (log ++ log') = accepted log ++ accepted log' :=
  List.filterMap_append

omit [DecidableEq ι] in
theorem applyAll_append (ops ops' : List (Operation ι)) (entries : Entries) :
    applyAll (ops ++ ops') entries = applyAll ops' (applyAll ops entries) :=
  List.foldl_append

theorem writesOf_append (op : Operation ι) (log log' : List (Entry ι)) :
    writesOf op (log ++ log') = writesOf op log ++ writesOf op log' :=
  List.filterMap_append

omit [DecidableEq ι] in
theorem writeCount_append (log log' : List (Entry ι)) :
    writeCount (log ++ log') = writeCount log + writeCount log' := by
  simp [writeCount, List.filterMap_append]

@[simp] theorem writesOf_wrote_self (op : Operation ι) (taken : Bool) :
    writesOf op [.wrote op taken] = [taken] := by
  simp [writesOf]

theorem writesOf_wrote_of_ne {op op' : Operation ι} (h : op' ≠ op) (taken : Bool) :
    writesOf op [.wrote op' taken] = [] := by
  simp [writesOf, h]

@[simp] theorem writesOf_returned (op op' : Operation ι) (result : Except StoreError Unit) :
    writesOf op [.returned op' result] = [] := rfl

/-- An operation that the log does not mention has not written. -/
theorem writesOf_eq_nil {op : Operation ι} {log : List (Entry ι)} (h : ∀ e ∈ log, e.op ≠ op) :
    writesOf op log = [] := by
  rw [writesOf, List.filterMap_eq_nil_iff]
  intro e he
  have hne : e.op ≠ op := h e he
  cases e with
  | wrote op' taken => exact if_neg hne
  | returned op' result => rfl

/-! ### One operation under way -/

/-- An operation that writes in at most `all` attempts is over: its last write was taken, or all
of its writes were refused. -/
inductive Over (all : Nat) (op : Operation ι) : List Bool → Except StoreError Unit → Prop
  /-- One write was taken, behind some that were refused. -/
  | taken (refused : Nat) : Over all op (List.replicate refused false ++ [true]) (.ok ())
  /-- As many writes as there may be were refused. -/
  | exhausted :
    Over all op (List.replicate all false) (.error (.retriesExhausted op.change.ns all))

/-- How far an operation has come, by the writes that it made and the work that is left of it, when
the object, whose first revision was `r`, has been moved on `n` times. -/
inductive UnderWay (all : Nat) (r : Option UInt64) (n : Nat) (object : Snapshot)
    (op : Operation ι) : List Bool → Work (Except StoreError Unit) → Prop
  /-- It has some attempts left, and all before were refused. -/
  | looking {refused left : Nat} (hall : refused + left = all) :
    UnderWay all r n object op (List.replicate refused false)
      (attempt op.change.ns op.change.apply all left)
  /-- It has seen the object, and the object is the same unless it was moved on since. -/
  | writing {refused left k : Nat} {seen : Snapshot} (hall : refused + (left + 1) = all)
    (hk : k ≤ n) (hrevision : seen.revision = revisionAfter r k)
    (hentries : k = n → seen.entries = object.entries) :
    UnderWay all r n object op (List.replicate refused false) (writing op.change all left seen)
  /-- It has a result to hand out. -/
  | ended {past : List Bool} {result : Except StoreError Unit} (h : Over all op past result) :
    UnderWay all r n object op past (.done result)

omit [DecidableEq ι] in
/-- Others who move the object on do not disturb an operation. -/
theorem UnderWay.movedOn {all n : Nat} {r : Option UInt64} {object object' : Snapshot}
    {op : Operation ι} {past : List Bool} {work : Work (Except StoreError Unit)}
    (h : UnderWay all r n object op past work) : UnderWay all r (n + 1) object' op past work := by
  cases h with
  | looking hall => exact .looking hall
  | writing hall hk hrevision _ =>
    exact .writing hall (Nat.le_succ_of_le hk) hrevision fun he => by omega
  | ended h => exact .ended h

omit [DecidableEq ι] in
theorem Over.count_le {all : Nat} {op : Operation ι} {past : List Bool}
    {result : Except StoreError Unit} (h : Over all op past result) : past.count true ≤ 1 := by
  cases h <;> simp [List.count_replicate]

omit [DecidableEq ι] in
theorem Over.count_eq_one {all : Nat} {op : Operation ι} {past : List Bool}
    (h : Over all op past (.ok ())) : past.count true = 1 := by
  cases h
  simp [List.count_replicate]

omit [DecidableEq ι] in
theorem Over.eq_replicate {all k : Nat} {ns : String} {op : Operation ι} {past : List Bool}
    (h : Over all op past (.error (.retriesExhausted ns k))) : past = List.replicate all false := by
  cases h
  rfl

omit [DecidableEq ι] in
theorem Over.result_eq {all : Nat} {op : Operation ι} {past : List Bool}
    {result : Except StoreError Unit} (h : Over all op past result) :
    result = .ok () ∨ result = .error (.retriesExhausted op.change.ns all) := by
  cases h with
  | taken refused => exact .inl rfl
  | exhausted => exact .inr rfl

omit [DecidableEq ι] in
theorem UnderWay.count_le {all n : Nat} {r : Option UInt64} {object : Snapshot}
    {op : Operation ι} {past : List Bool} {work : Work (Except StoreError Unit)}
    (h : UnderWay all r n object op past work) : past.count true ≤ 1 := by
  cases h with
  | looking hall => simp [List.count_replicate]
  | writing hall hk hrevision hentries => simp [List.count_replicate]
  | ended h => exact h.count_le

/-! ### All operations -/

/-- The object, the operations under way and the log fit together, when the object, which was `m`
at the start, has been moved on `n` times. -/
structure Sharing.Sound (attempts : ι → Nat) (m : Memory) (n : Nat) (w : Sharing ι) : Prop where
  /-- The records are the initial ones with the changes whose write was taken. -/
  entries : w.memory.snapshot.entries = applyAll (accepted w.log) m.snapshot.entries
  /-- The revision tells how often the object was moved on. -/
  revision : w.memory.snapshot.revision = revisionAfter m.snapshot.revision n
  /-- Only writes move the object on. -/
  moves_le : n ≤ writeCount w.log
  /-- The log is about operations that were begun. -/
  logged : ∀ e ∈ w.log, e.op.number < w.begun
  /-- A client is busy with an operation of its own that was begun and did not return. -/
  busy : ∀ i op work, w.running i = some (op, work) →
    op.client = i ∧ op.number < w.begun ∧ ∀ result, Entry.returned op result ∉ w.log
  /-- Every operation under way has come as far as its work and its writes say. -/
  underWay : ∀ i op work, w.running i = some (op, work) →
    UnderWay (attempts i) m.snapshot.revision n w.memory.snapshot op (writesOf op w.log) work
  /-- Every operation that returned is over. -/
  ended : ∀ op result, Entry.returned op result ∈ w.log →
    Over (attempts op.client) op (writesOf op w.log) result
  /-- No operation has more than one write taken. -/
  once : ∀ op, (writesOf op w.log).count true ≤ 1

namespace Sharing

theorem sound_start (attempts : ι → Nat) (m : Memory) :
    Sound attempts m 0 ({ memory := m } : Sharing ι) where
  entries := rfl
  revision := rfl
  moves_le := Nat.zero_le _
  logged := by simp
  busy := by simp
  underWay := by simp
  ended := by simp
  once := by simp [writesOf]

variable {attempts : ι → Nat} {m : Memory} {n : Nat} {w : Sharing ι}

/-- Conflicts that become due change nothing that the invariant speaks of. -/
theorem Sound.inject (h : Sound attempts m n w) (count : Nat) :
    Sound attempts m n (w.step attempts (.inject count)) :=
  ⟨h.entries, h.revision, h.moves_le, h.logged, h.busy, h.underWay, h.ended, h.once⟩

/-- An idle client may begin anything. Its operation has a number that the log does not know. -/
theorem Sound.begin (h : Sound attempts m n w) (i : ι) (change : Change) :
    Sound attempts m n (w.step attempts (.begin i change)) := by
  rw [step]
  split
  · exact h
  · have hnew : ∀ e ∈ w.log, e.op ≠ ⟨i, w.begun, change⟩ := by
      intro e he heq
      have hlt := h.logged e he
      rw [heq] at hlt
      exact Nat.lt_irrefl _ hlt
    refine ⟨h.entries, h.revision, h.moves_le, fun e he => Nat.lt_succ_of_lt (h.logged e he),
      ?_, ?_, h.ended, h.once⟩
    · intro j op work hj
      rcases eq_or_ne j i with rfl | hne
      · obtain ⟨rfl, rfl⟩ : ⟨j, w.begun, change⟩ = op ∧ change.work (attempts j) = work := by
          simpa using hj
        exact ⟨rfl, Nat.lt_succ_self _, fun result hmem => hnew _ hmem rfl⟩
      · obtain ⟨hclient, hlt, hres⟩ := h.busy j op work (by simpa [hne] using hj)
        exact ⟨hclient, Nat.lt_succ_of_lt hlt, hres⟩
    · intro j op work hj
      rcases eq_or_ne j i with rfl | hne
      · obtain ⟨rfl, rfl⟩ : ⟨j, w.begun, change⟩ = op ∧ change.work (attempts j) = work := by
          simpa using hj
        rw [writesOf_eq_nil hnew, Change.work_eq]
        exact .looking (show 0 + attempts j = attempts j from Nat.zero_add _)
      · exact h.underWay j op work (by simpa [hne] using hj)

/-- A client that is not the one that moves has an operation of its own. -/
theorem Sound.op_ne (h : Sound attempts m n w) {i j : ι} {op op' : Operation ι}
    {work work' : Work (Except StoreError Unit)} (hi : w.running i = some (op, work))
    (hj : w.running j = some (op', work')) (hne : j ≠ i) : op' ≠ op := by
  rintro rfl
  exact hne ((h.busy j _ _ hj).1.symm.trans (h.busy i _ _ hi).1)

/-- A client hands out the result of an operation that is over. -/
theorem Sound.finish (h : Sound attempts m n w) {i : ι} {op : Operation ι}
    {work : Work (Except StoreError Unit)} {result : Except StoreError Unit}
    (hi : w.running i = some (op, work))
    (hover : Over (attempts i) op (writesOf op w.log) result) :
    Sound attempts m n (w.resume op (.done result)) := by
  obtain ⟨rfl, hnumber, -⟩ := h.busy i op work hi
  have hwrites : ∀ op', writesOf op' (w.log ++ [.returned op result]) = writesOf op' w.log := by
    intro op'
    rw [writesOf_append, writesOf_returned, List.append_nil]
  refine ⟨?_, h.revision, ?_, ?_, ?_, ?_, ?_, ?_⟩
  · rw [resume, accepted_append, h.entries]
    simp [accepted]
  · exact Nat.le_trans h.moves_le (by rw [resume, writeCount_append]; exact Nat.le_add_right _ _)
  · intro e he
    rcases List.mem_append.mp he with he | he
    · exact h.logged e he
    · rw [List.mem_singleton.mp he]; exact hnumber
  · intro j op' work' hj
    have hne : j ≠ op.client := by rintro rfl; simp [resume] at hj
    have hj' : w.running j = some (op', work') := by simpa [resume, hne] using hj
    obtain ⟨hclient, hlt, hres⟩ := h.busy j op' work' hj'
    refine ⟨hclient, hlt, fun result' hmem => ?_⟩
    rcases List.mem_append.mp hmem with hmem | hmem
    · exact hres result' hmem
    · obtain ⟨rfl, -⟩ : op' = op ∧ result' = result := by simpa using hmem
      exact hne hclient.symm
  · intro j op' work' hj
    have hne : j ≠ op.client := by rintro rfl; simp [resume] at hj
    rw [resume, hwrites]
    exact h.underWay j op' work' (by simpa [resume, hne] using hj)
  · intro op' result' hmem
    rw [resume, hwrites]
    rcases List.mem_append.mp hmem with hmem | hmem
    · exact h.ended op' result' hmem
    · obtain ⟨rfl, rfl⟩ : op' = op ∧ result' = result := by simpa using hmem
      exact hover
  · intro op'
    rw [resume, hwrites]
    exact h.once op'

/-- A client looks at the object. -/
theorem Sound.look (h : Sound attempts m n w) {i : ι} {op : Operation ι} {refused left : Nat}
    (hi : w.running i = some (op, attempt op.change.ns op.change.apply (attempts i) (left + 1)))
    (hpast : writesOf op w.log = List.replicate refused false)
    (hall : refused + (left + 1) = attempts i) :
    Sound attempts m n
      (w.resume op (attempt op.change.ns op.change.apply (attempts i) (left + 1))) := by
  obtain ⟨rfl, hnumber, hres⟩ := h.busy i op _ hi
  rw [resume_looking]
  refine ⟨h.entries, h.revision, h.moves_le, h.logged, ?_, ?_, h.ended, h.once⟩
  · intro j op' work' hj
    rcases eq_or_ne j op.client with rfl | hne
    · obtain ⟨rfl, -⟩ : op = op' ∧ _ = work' := by simpa using hj
      exact ⟨rfl, hnumber, hres⟩
    · exact h.busy j op' work' (by simpa [hne] using hj)
  · intro j op' work' hj
    rcases eq_or_ne j op.client with rfl | hne
    · obtain ⟨rfl, rfl⟩ : op = op' ∧ _ = work' := by simpa using hj
      rw [hpast]
      exact .writing hall (Nat.le_refl n) h.revision fun _ => rfl
    · exact h.underWay j op' work' (by simpa [hne] using hj)

theorem snapshot_ext {a b : Snapshot} (hentries : a.entries = b.entries)
    (hrevision : a.revision = b.revision) : a = b := by
  cases a
  cases b
  congr

/-- A write either meets a conflict and leaves the records alone, or the object had the expected
revision and now has the given records. A conflict that was due moves the revision on. -/
theorem write_cases (m : Memory) (entries : Entries) (expected : Option UInt64) :
    ((m.write entries expected).1 = .error (.conflict expected) ∧
      (m.write entries expected).2.snapshot.entries = m.snapshot.entries ∧
      ((m.write entries expected).2.snapshot.revision = m.snapshot.revision ∨
        (m.write entries expected).2.snapshot.revision =
          some (nextRevision m.snapshot.revision))) ∨
    (m.snapshot.revision = expected ∧
      (m.write entries expected).1 = .ok (nextRevision expected) ∧
      (m.write entries expected).2.snapshot = ⟨entries, some (nextRevision expected)⟩) := by
  rw [Memory.write]
  split
  · exact .inl ⟨rfl, rfl, .inr rfl⟩
  · split
    · next hrevision => exact .inr ⟨hrevision, rfl, rfl⟩
    · exact .inl ⟨rfl, rfl, .inl rfl⟩

/-- A client wrote. Whatever came of it, the operations of others are where they were. -/
theorem Sound.wrote (h : Sound attempts m n w) {i : ι} {op : Operation ι}
    {work work' : Work (Except StoreError Unit)} (hi : w.running i = some (op, work))
    {memory : Memory} {taken : Bool} {n' : Nat}
    (hentries : memory.snapshot.entries =
      applyAll (accepted (w.log ++ [.wrote op taken])) m.snapshot.entries)
    (hrevision : memory.snapshot.revision = revisionAfter m.snapshot.revision n')
    (hmoved : n' = n ∧ memory.snapshot = w.memory.snapshot ∨ n' = n + 1)
    (hown : UnderWay (attempts i) m.snapshot.revision n' memory.snapshot op
      (writesOf op w.log ++ [taken]) work') :
    Sound attempts m n' { w with
      memory
      running := Function.update w.running op.client (some (op, work'))
      log := w.log ++ [.wrote op taken] } := by
  obtain ⟨rfl, hnumber, hres⟩ := h.busy i op work hi
  have hself : writesOf op (w.log ++ [.wrote op taken]) = writesOf op w.log ++ [taken] := by
    rw [writesOf_append, writesOf_wrote_self]
  have hother : ∀ op', op' ≠ op →
      writesOf op' (w.log ++ [.wrote op taken]) = writesOf op' w.log := by
    intro op' hne
    rw [writesOf_append, writesOf_wrote_of_ne hne.symm, List.append_nil]
  have hlogged : ∀ op' result, Entry.returned op' result ∈ w.log ++ [.wrote op taken] →
      Entry.returned op' result ∈ w.log := by
    intro op' result hmem
    simpa using hmem
  refine ⟨hentries, hrevision, ?_, ?_, ?_, ?_, ?_, ?_⟩
  · have hle := h.moves_le
    rw [writeCount_append, show writeCount [Entry.wrote op taken] = 1 from rfl]
    omega
  · intro e he
    rcases List.mem_append.mp he with he | he
    · exact h.logged e he
    · rw [List.mem_singleton.mp he]; exact hnumber
  · intro j op' work'' hj
    rcases eq_or_ne j op.client with rfl | hne
    · obtain ⟨rfl, -⟩ : op = op' ∧ _ = work'' := by simpa using hj
      exact ⟨rfl, hnumber, fun result hmem => hres result (hlogged op result hmem)⟩
    · obtain ⟨hclient, hlt, hres'⟩ := h.busy j op' work'' (by simpa [hne] using hj)
      exact ⟨hclient, hlt, fun result hmem => hres' result (hlogged op' result hmem)⟩
  · intro j op' work'' hj
    rcases eq_or_ne j op.client with rfl | hne
    · obtain ⟨rfl, rfl⟩ : op = op' ∧ work' = work'' := by simpa using hj
      rw [hself]
      exact hown
    · have hj' : w.running j = some (op', work'') := by simpa [hne] using hj
      rw [hother op' (h.op_ne hi hj' hne)]
      have hunder := h.underWay j op' work'' hj'
      rcases hmoved with ⟨rfl, hsame⟩ | rfl
      · rw [hsame]; exact hunder
      · exact hunder.movedOn
  · intro op' result hmem
    have hmem' := hlogged op' result hmem
    have hne : op' ≠ op := by rintro rfl; exact hres result hmem'
    rw [hother op' hne]
    exact h.ended op' result hmem'
  · intro op'
    by_cases hop : op' = op
    · rw [hop, hself]
      exact hown.count_le
    · rw [hother op' hop]
      exact h.once op'

/-- A client writes. The write is taken only if the object was not moved on since the client saw
it, and then the records are still those that the change was made to. -/
theorem Sound.write (h : Sound attempts m n w) (hfew : writeCount w.log < UInt64.size) {i : ι}
    {op : Operation ι} {refused left k : Nat} {seen : Snapshot}
    (hi : w.running i = some (op, writing op.change (attempts i) left seen))
    (hpast : writesOf op w.log = List.replicate refused false)
    (hall : refused + (left + 1) = attempts i) (hk : k ≤ n)
    (hseen : seen.revision = revisionAfter m.snapshot.revision k)
    (hsame : k = n → seen.entries = w.memory.snapshot.entries) :
    ∃ n', Sound attempts m n' (w.resume op (writing op.change (attempts i) left seen)) := by
  have hn : n < UInt64.size := Nat.lt_of_le_of_lt h.moves_le hfew
  rw [resume_writing]
  rcases write_cases w.memory (op.change.apply seen.entries) seen.revision with
    ⟨hanswer, hentries, hrevision⟩ | ⟨hexpected, hanswer, hobject⟩
  · -- refused, with or without moving the object on
    have hkept : (w.memory.write (op.change.apply seen.entries) seen.revision).2.snapshot.entries =
        applyAll (accepted (w.log ++ [.wrote op false])) m.snapshot.entries := by
      rw [hentries, h.entries, accepted_append]
      simp [accepted]
    have hleft : ∀ n' object, UnderWay (attempts i) m.snapshot.revision n' object op
        (writesOf op w.log ++ [false]) (attempt op.change.ns op.change.apply (attempts i) left) := by
      intro n' object
      rw [hpast, ← List.replicate_succ']
      exact .looking (by omega)
    dsimp only
    rw [hanswer]
    rcases hrevision with hrevision | hrevision
    · refine ⟨n, h.wrote hi hkept (hrevision.trans h.revision) (.inl ⟨rfl, ?_⟩) (hleft _ _)⟩
      exact snapshot_ext hentries hrevision
    · refine ⟨n + 1, h.wrote hi hkept ?_ (.inr rfl) (hleft _ _)⟩
      rw [hrevision, h.revision, revisionAfter]
  · -- taken: the object has the revision that was seen, so it was not moved on
    have hkn : k = n := by
      refine revisionAfter_injective (r := m.snapshot.revision) (Nat.lt_of_le_of_lt hk hn) hn ?_
      rw [← hseen, ← hexpected, h.revision]
    dsimp only
    rw [hanswer]
    refine ⟨n + 1, h.wrote hi ?_ ?_ (.inr rfl) ?_⟩
    · show _ = applyAll (accepted (w.log ++ [.wrote op true])) m.snapshot.entries
      rw [hobject, accepted_append, applyAll_append, ← h.entries, ← hsame hkn]
      rfl
    · rw [hobject, ← hexpected, h.revision, revisionAfter]
    · rw [hpast]
      exact .ended (.taken refused)

/-- A client goes on, whatever it is about to do. -/
theorem Sound.resume (h : Sound attempts m n w) (hfew : writeCount w.log < UInt64.size) {i : ι}
    {op : Operation ι} {work : Work (Except StoreError Unit)}
    (hi : w.running i = some (op, work)) : ∃ n', Sound attempts m n' (w.resume op work) := by
  have hunder := h.underWay i op work hi
  have hclient : op.client = i := (h.busy i op work hi).1
  generalize hpast : writesOf op w.log = past at hunder
  cases hunder with
  | @looking refused left hall =>
    cases left with
    | zero =>
      refine ⟨n, h.finish hi ?_⟩
      rw [hpast, show refused = attempts i from hall]
      exact .exhausted
    | succ left => exact ⟨n, h.look hi hpast hall⟩
  | writing hall hk hrevision hentries => exact h.write hfew hi hpast hall hk hrevision hentries
  | ended hover => exact ⟨n, h.finish hi (hpast ▸ hover)⟩

/-- **What one move preserves.** -/
theorem Sound.step (h : Sound attempts m n w) (hfew : writeCount w.log < UInt64.size)
    (move : Move ι) : ∃ n', Sound attempts m n' (w.step attempts move) := by
  cases move with
  | begin i change => exact ⟨n, h.begin i change⟩
  | inject count => exact ⟨n, h.inject count⟩
  | advance i =>
    rw [Sharing.step]
    split
    · next op work hi => exact h.resume hfew hi
    · exact ⟨n, h⟩

/-! ### Schedules -/

/-- The log only grows. -/
theorem writeCount_le_resume (w : Sharing ι) (op : Operation ι)
    (work : Work (Except StoreError Unit)) :
    writeCount w.log ≤ writeCount (w.resume op work).log := by
  match work with
  | .done result => exact writeCount_append w.log _ ▸ Nat.le_add_right _ _
  | .unfinished => exact Nat.le_refl _
  | .ask .read next => exact Nat.le_refl _
  | .ask (.write entries expected) next => exact writeCount_append w.log _ ▸ Nat.le_add_right _ _

theorem writeCount_le_step (attempts : ι → Nat) (w : Sharing ι) (move : Move ι) :
    writeCount w.log ≤ writeCount (w.step attempts move).log := by
  cases move with
  | begin i change => rw [step]; split <;> exact Nat.le_refl _
  | inject count => exact Nat.le_refl _
  | advance i =>
    rw [step]
    split
    · exact writeCount_le_resume w _ _
    · exact Nat.le_refl _

theorem writeCount_le_foldl (attempts : ι → Nat) (moves : List (Move ι)) (w : Sharing ι) :
    writeCount w.log ≤ writeCount (moves.foldl (Sharing.step attempts) w).log := by
  induction moves generalizing w with
  | nil => exact Nat.le_refl _
  | cons move moves ih => exact Nat.le_trans (writeCount_le_step attempts w move) (ih _)

/-- **What a whole schedule preserves.** -/
theorem Sound.foldl (h : Sound attempts m n w) (moves : List (Move ι))
    (hfew : writeCount (moves.foldl (Sharing.step attempts) w).log < UInt64.size) :
    ∃ n', Sound attempts m n' (moves.foldl (Sharing.step attempts) w) := by
  induction moves generalizing n w with
  | nil => exact ⟨n, h⟩
  | cons move moves ih =>
    have hle : writeCount w.log ≤ writeCount ((move :: moves).foldl (Sharing.step attempts) w).log :=
      writeCount_le_foldl attempts (move :: moves) w
    obtain ⟨n', h'⟩ := h.step (Nat.lt_of_le_of_lt hle hfew) move
    exact ih h' hfew

/-- An operation had a write taken exactly if its change is among the accepted ones. -/
theorem mem_accepted_iff (op : Operation ι) (log : List (Entry ι)) :
    op ∈ accepted log ↔ true ∈ writesOf op log := by
  induction log with
  | nil => simp [accepted, writesOf]
  | cons e log ih =>
    rw [← List.singleton_append, accepted_append, writesOf_append, List.mem_append,
      List.mem_append, ih]
    refine or_congr_left ?_
    cases e with
    | returned op' result => simp [accepted, writesOf]
    | wrote op' taken =>
      by_cases hop : op' = op
      · cases taken <;> simp [accepted, hop]
      · cases taken <;> simp [accepted, writesOf, hop, Ne.symm hop]

/-- **No update is lost.** Whatever the schedule, the records are the initial ones with the changes
of the operations whose write was taken, in the order of these writes. No operation has two writes
taken; one that returns well has one, and one that gives up has had all its attempts refused and
has changed nothing. Nothing else is ever returned. -/
theorem no_lost_updates (attempts : ι → Nat) (m : Memory) (moves : List (Move ι))
    (hfew : writeCount (run attempts m moves).log < UInt64.size) :
    (run attempts m moves).memory.snapshot.entries =
        applyAll (accepted (run attempts m moves).log) m.snapshot.entries ∧
      (∀ op, (writesOf op (run attempts m moves).log).count true ≤ 1) ∧
      (∀ op, .returned op (.ok ()) ∈ (run attempts m moves).log →
        (writesOf op (run attempts m moves).log).count true = 1) ∧
      (∀ op ns k, .returned op (.error (.retriesExhausted ns k)) ∈ (run attempts m moves).log →
        writesOf op (run attempts m moves).log = List.replicate (attempts op.client) false ∧
          op ∉ accepted (run attempts m moves).log) ∧
      (∀ op result, .returned op result ∈ (run attempts m moves).log → result = .ok () ∨
        result = .error (.retriesExhausted op.change.ns (attempts op.client))) := by
  obtain ⟨n, h⟩ := (sound_start attempts m).foldl moves hfew
  refine ⟨h.entries, h.once, ?_, ?_, ?_⟩
  · intro op hmem
    exact (h.ended op _ hmem).count_eq_one
  · intro op ns k hmem
    have hpast := (h.ended op _ hmem).eq_replicate
    refine ⟨hpast, fun hop => ?_⟩
    rw [mem_accepted_iff] at hop
    exact absurd (List.eq_of_mem_replicate (hpast ▸ hop)) (by decide)
  · intro op result hmem
    exact (h.ended op result hmem).result_eq

/-- Two clients look at the object one after the other. The second one's write comes too late, and
a conflict takes its last attempt. -/
def race : List (Move Bool) :=
  [.begin false (.save "a" .fresh), .begin true (.delete "b"), .advance false, .advance true,
    .advance false, .advance true, .advance true, .inject 1, .advance true, .advance false,
    .advance true, .begin false (.delete "a")]

theorem no_lost_updates_race :
    writeCount (run (fun _ => 2) {} race).log < UInt64.size ∧
      (run (fun _ => 2) {} race).memory.snapshot.entries =
        applyAll [⟨false, 0, .save "a" .fresh⟩] .empty ∧
      (writesOf ⟨false, 0, .save "a" .fresh⟩ (run (fun _ => 2) {} race).log).count true = 1 ∧
      writesOf ⟨true, 1, .delete "b"⟩ (run (fun _ => 2) {} race).log = [false, false] := by
  have hfew : writeCount (run (fun _ => 2) {} race).log < UInt64.size := by decide
  obtain ⟨hentries, -, hok, hgivenUp, -⟩ := no_lost_updates (fun _ => 2) {} race hfew
  refine ⟨hfew, hentries, hok _ ?_, (hgivenUp ⟨true, 1, .delete "b"⟩ "b" 2 ?_).1⟩
  · exact .tail _ (.tail _ (.tail _ (.head _)))
  · exact .tail _ (.tail _ (.tail _ (.tail _ (.head _))))

end Sharing

end Store

end ClusterNet
