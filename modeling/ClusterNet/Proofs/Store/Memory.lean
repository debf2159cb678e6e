import ClusterNet.Proofs.Json.Codec
import ClusterNet.Store
import ClusterNet.Store.Memory

/-!
# States in memory

A state that was saved is the state that is loaded. Two things make up this law: the record of a
state holds it, which is about how states are written, and a change reaches the object unless more
conflicts are due than it has attempts, which is about how they are stored.

## Main results

* `Store.stateOf_recordOf` — the record of a state holds it
* `Store.run_load`, `Store.run_modify` — what loading and changing come to in memory
* `Store.stateIn_of_find?`, `Store.stateIn_of_save` — a state that was saved is loaded
-/

namespace ClusterNet

namespace Store

open Cluster (DhcpReferences Reference State)
open Program

/-! ### Records -/

@[simp] theorem lawful_reference : Reference.codec.Lawful := by
  apply Record.lawful_iso fun _ => rfl
  repeat' first | exact Record.reads_nil | apply Record.Reads.field
  all_goals simp

@[simp] theorem solid_reference : Reference.codec.Solid := Record.solid_codec _

@[simp] theorem lawful_dhcpReferences : DhcpReferences.codec.Lawful := by
  apply Record.lawful_iso fun _ => rfl
  repeat' first | exact Record.reads_nil | apply Record.Reads.field
  all_goals simp

@[simp] theorem solid_dhcpReferences : DhcpReferences.codec.Solid := Record.solid_codec _

@[simp] theorem lawful_state : State.codec.Lawful := by
  apply Record.lawful_iso fun _ => rfl
  repeat' first | exact Record.reads_nil | apply Record.Reads.field
  all_goals simp

/-- **The record of a state holds it.** -/
theorem stateOf_recordOf (ns : String) (s : State) : stateOf ns (recordOf s) = .ok s := by
  have hversion : (recordOf s).version = Cluster.stateVersion := rfl
  have hparse : (Json.parse (recordOf s).state).bind State.codec.decode = some s :=
    (lawful_state s).parse_compact
  rw [stateOf, if_pos hversion, hparse]

/-! ### Work in memory -/

variable {m : Memory} {ns : String}

theorem run_load (ns : String) (m : Memory) :
    (load ns).run Memory.answer m = (some (stateIn ns m.snapshot), m) :=
  rfl

/-- A write for the present revision meets a conflict if one is due, and takes effect otherwise. -/
theorem write_current_cases (m : Memory) (entries : Entries) :
    (∃ n m', m.pendingConflicts = n + 1 ∧
      m.write entries m.snapshot.revision = (.error (.conflict m.snapshot.revision), m') ∧
      m'.snapshot.entries = m.snapshot.entries ∧ m'.pendingConflicts = n) ∨
    (m.pendingConflicts = 0 ∧ ∃ revision m',
      m.write entries m.snapshot.revision = (.ok revision, m') ∧
      m'.snapshot.entries = entries ∧ m'.pendingConflicts = 0) := by
  obtain ⟨snapshot, pending⟩ := m
  cases pending with
  | succ n => exact .inl ⟨n, _, rfl, rfl, rfl, rfl⟩
  | zero => exact .inr ⟨rfl, _, _, if_pos rfl, rfl, rfl⟩

/-- A change reaches the object unless more conflicts are due than there are attempts. -/
theorem run_attempt (change : Entries → Entries) (all : Nat) {left : Nat}
    (h : m.pendingConflicts < left) :
    ∃ m', (attempt ns change all left).run Memory.answer m = (some (.ok ()), m') ∧
      m'.snapshot.entries = change m.snapshot.entries ∧ m'.pendingConflicts = 0 := by
  induction left generalizing m with
  | zero => exact absurd h (Nat.not_lt_zero _)
  | succ left ih =>
    rw [attempt, bind_eq, read, request, ask_bind, run_ask, done_bind]
    dsimp only [Memory.answer]
    rw [bind_eq, write, request, ask_bind, run_ask, done_bind]
    dsimp only [Memory.answer]
    rcases write_current_cases m (change m.snapshot.entries) with
      ⟨n, m', hpending, hwrite, hentries, hnext⟩ | ⟨-, revision, m', hwrite, hentries, hnext⟩
    · obtain ⟨m'', hrun, hentries', hnone⟩ := ih (m := m') (by omega)
      refine ⟨m'', ?_, by rw [hentries', hentries], hnone⟩
      rw [hwrite]
      exact hrun
    · refine ⟨m', ?_, hentries, hnext⟩
      rw [hwrite]
      rfl

theorem run_modify (ns : String) (change : Entries → Entries) {attempts : Nat}
    (h : m.pendingConflicts < attempts) :
    ∃ m', (modify ns change attempts).run Memory.answer m = (some (.ok ()), m') ∧
      m'.snapshot.entries = change m.snapshot.entries ∧ m'.pendingConflicts = 0 :=
  run_attempt change attempts h

/-- A change is given up if as many conflicts are due as there are attempts. -/
theorem run_attempt_exhausted (ns : String) (change : Entries → Entries) (all : Nat) {left : Nat}
    (h : left ≤ m.pendingConflicts) :
    ∃ m', (attempt ns change all left).run Memory.answer m =
        (some (.error (.retriesExhausted ns all)), m') ∧
      m'.snapshot.entries = m.snapshot.entries ∧
      m'.pendingConflicts = m.pendingConflicts - left := by
  induction left generalizing m with
  | zero => exact ⟨m, rfl, rfl, rfl⟩
  | succ left ih =>
    rw [attempt, bind_eq, read, request, ask_bind, run_ask, done_bind]
    dsimp only [Memory.answer]
    rw [bind_eq, write, request, ask_bind, run_ask, done_bind]
    dsimp only [Memory.answer]
    rcases write_current_cases m (change m.snapshot.entries) with
      ⟨n, m', hpending, hwrite, hentries, hnext⟩ | ⟨hnone, -⟩
    · obtain ⟨m'', hrun, hentries', hleft⟩ := ih (m := m') (by omega)
      refine ⟨m'', ?_, hentries'.trans hentries, by omega⟩
      rw [hwrite]
      exact hrun
    · omega

/-! ### What is loaded afterwards -/

variable {snapshot : Snapshot}

/-- **A state that was saved is loaded.** -/
theorem stateIn_of_find? {s : State} (h : snapshot.entries.find? ns = some (recordOf s)) :
    stateIn ns snapshot = .ok (some s) := by
  rw [stateIn, h]
  show (stateOf ns (recordOf s)).map some = _
  rw [stateOf_recordOf]
  rfl

/-- **A state that is reported as saved is loaded**, however many conflicts were due. -/
theorem stateIn_of_save {s : State} {attempts : Nat} {m' : Memory}
    (h : (save ns s attempts).run Memory.answer m = (some (.ok ()), m')) :
    stateIn ns m'.snapshot = .ok (some s) := by
  rcases Nat.lt_or_ge m.pendingConflicts attempts with hfew | hmany
  · obtain ⟨m₁, hrun, hentries, -⟩ := run_modify ns (·.insert ns (recordOf s)) hfew
    obtain ⟨-, rfl⟩ := Prod.mk.inj (h.symm.trans hrun)
    refine stateIn_of_find? ?_
    rw [hentries, OrderedMap.find?_insert_self]
  · obtain ⟨m₁, hrun, -⟩ :=
      run_attempt_exhausted ns (·.insert ns (recordOf s)) attempts hmany
    cases (Prod.mk.inj (h.symm.trans hrun)).1

theorem stateIn_of_find?_none (h : snapshot.entries.find? ns = none) :
    stateIn ns snapshot = .ok none := by
  rw [stateIn, h]

end Store

end ClusterNet
