import ClusterNet.Proofs.Store.Checkpoints
import ClusterNet.Proofs.Trace

/-!
# Honest stores

Whoever uses a store may be told anything: that it cannot be read, that someone else was faster,
that a write has failed. A store is *honest* if what it says is so. What is read is what is kept, a
write that it reports as done is done, and one that it refuses for its revision is not. Of a write
that fails in any other way nothing is known: it may have taken place or not.

On an honest store, a change that is reported as made is made, however often it was refused before,
and one that is not reported as made has either taken place as a whole or not at all.

## Main definitions

* `Store.Honest` — surroundings that say of an object what is so
* `Store.Tried` — what has become of an attempt to change the records

## Main results

* `Store.ends_change` — a change comes to an end
* `Store.Honest.tried` — what becomes of a change
* `Store.Honest.load_cases` — what is loaded is what is kept
* `Store.honest_memory`, `Store.honest_files` — memory and files are honest
-/

namespace ClusterNet

namespace Store

open Cluster (State)
open Program

variable {σ : Type}

/-- Surroundings that say of an object what is so. -/
structure Honest (answer : (r : Request) → σ → Answer r × σ) (object : σ → Snapshot) : Prop where
  /-- Reading leaves the records as they are. -/
  read : ∀ s, (object (answer .read s).2).entries = (object s).entries
  /-- What is read is what is kept. -/
  told : ∀ s snapshot, (answer .read s).1 = .ok snapshot → snapshot.entries = (object s).entries
  /-- A write of records in order that is done replaces the records. -/
  written : ∀ s (entries : Entries) expected revision, entries.IsSorted →
    (answer (.write entries expected) s).1 = .ok revision →
      (object (answer (.write entries expected) s).2).entries = entries
  /-- A write that is refused for its revision leaves the records as they are. -/
  refused : ∀ s (entries : Entries) expected found,
    (answer (.write entries expected) s).1 = .error (.conflict found) →
      (object (answer (.write entries expected) s).2).entries = (object s).entries
  /-- A write that fails has taken place or not. -/
  failed : ∀ s (entries : Entries) expected e, entries.IsSorted →
    (answer (.write entries expected) s).1 = .error e →
      (object (answer (.write entries expected) s).2).entries = (object s).entries ∨
        (object (answer (.write entries expected) s).2).entries = entries

/-- What has become of an attempt to change the records: it was made if it is reported as made, and
otherwise it was made or not. -/
structure Tried (change : Entries → Entries) (before after : Entries)
    (result : Except StoreError Unit) : Prop where
  /-- A change that is reported as made is made. -/
  made : result = .ok () → after = change before
  /-- Nothing else has happened. -/
  only : after = before ∨ after = change before

/-- A change that is not reported as made. -/
theorem tried_of_error {change : Entries → Entries} {before after : Entries} (e : StoreError)
    (h : after = before ∨ after = change before) : Tried change before after (.error e) where
  made hok := by contradiction
  only := h

/-! ### Work on any store -/

/-- Loading is one look at the object. -/
theorem load_eq (ns : String) :
    load ns = Program.ask (I := interface) .read fun reply =>
      .done (Except.bind reply (stateIn ns)) := by
  refine congrArg (Program.ask (I := interface) .read) (funext fun reply => ?_)
  cases reply <;> rfl

theorem ends_attempt (ns : String) (change : Entries → Entries) (all left : Nat) :
    (attempt ns change all left).Ends := by
  induction left with
  | zero => exact .done _
  | succ left ih =>
    refine (ends_request (I := interface) .read).bind fun answer => ?_
    cases answer with
    | error e => exact .done _
    | ok snapshot =>
      refine (ends_request (I := interface) (.write _ _)).bind fun answer => ?_
      split
      · exact .done _
      · exact ih
      · exact .done _

/-- A change comes to an end, whatever the store answers. -/
theorem ends_change (c : Change) (attempts : Nat) : (c.work attempts).Ends := by
  rw [c.work_eq]
  exact ends_attempt c.ns c.apply attempts attempts

/-! ### Work on an honest store -/

/-- Only the records count for what is loaded. -/
theorem stateIn_congr {snapshot snapshot' : Snapshot} (h : snapshot.entries = snapshot'.entries)
    (ns : String) : stateIn ns snapshot = stateIn ns snapshot' := by
  rw [stateIn, stateIn, h]

namespace Honest

variable {answer : (r : Request) → σ → Answer r × σ} {object : σ → Snapshot} {s s' : σ}
  {ns : String}

/-- **What is loaded is what is kept.** -/
theorem load_cases (h : Honest answer object) {result : Except StoreError (Option State)}
    (hrun : (load ns).run answer s = (some result, s')) :
    (object s').entries = (object s).entries ∧
      ∀ known, result = .ok known → stateIn ns (object s) = .ok known := by
  rw [load_eq, run_ask] at hrun
  obtain ⟨rfl, rfl⟩ := run_done_eq_some_iff.mp hrun
  refine ⟨h.read s, fun known hknown => ?_⟩
  cases htold : (answer .read s).1 with
  | error e =>
    rw [htold] at hknown
    contradiction
  | ok snapshot =>
    rw [htold] at hknown
    rw [← stateIn_congr (h.told s snapshot htold) ns]
    exact hknown

/-- What becomes of the attempts that are left. -/
theorem tried_attempt (h : Honest answer object) (hsorted : (object s).entries.IsSorted)
    (c : Change) (all : Nat) {left : Nat} {result : Except StoreError Unit}
    (hrun : (attempt ns c.apply all left).run answer s = (some result, s')) :
    Tried c.apply (object s).entries (object s').entries result := by
  induction left generalizing s with
  | zero =>
    rw [attempt] at hrun
    obtain ⟨rfl, rfl⟩ := run_done_eq_some_iff.mp hrun
    exact tried_of_error _ (.inl rfl)
  | succ left ih =>
    have hread := h.read s
    rw [attempt, bind_eq, Store.read, request, ask_bind, run_ask, done_bind] at hrun
    cases htold : (answer .read s).1 with
    | error e =>
      rw [htold] at hrun
      obtain ⟨rfl, rfl⟩ := run_done_eq_some_iff.mp hrun
      exact tried_of_error _ (.inl hread)
    | ok snapshot =>
      have hentries := h.told s snapshot htold
      have horder : (c.apply snapshot.entries).IsSorted := c.isSorted_apply (hentries ▸ hsorted)
      rw [htold] at hrun
      dsimp only at hrun
      rw [bind_eq, Store.write, request, ask_bind, run_ask, done_bind] at hrun
      cases hwrite : (answer (.write (c.apply snapshot.entries) snapshot.revision)
          (answer .read s).2).1 with
      | ok revision =>
        have hmade := h.written _ _ _ _ horder hwrite
        rw [hwrite] at hrun
        obtain ⟨rfl, rfl⟩ := run_done_eq_some_iff.mp hrun
        rw [hentries] at hmade ⊢
        exact ⟨fun _ => hmade, .inr hmade⟩
      | error e =>
        rw [hwrite] at hrun
        cases e with
        | conflict found =>
          -- nothing has happened yet, and the next attempt starts from the same records
          have hsame := (h.refused _ _ _ _ hwrite).trans hread
          have htried := ih (hsame.symm ▸ hsorted) hrun
          rw [hsame] at htried
          exact htried
        | versionMismatch | retriesExhausted | json | io =>
          have hfailed := h.failed _ _ _ _ horder hwrite
          obtain ⟨rfl, rfl⟩ := run_done_eq_some_iff.mp hrun
          rw [hread, hentries] at hfailed
          rw [hentries]
          exact tried_of_error _ hfailed

/-- **What becomes of a change**, whatever the store answers. -/
theorem tried (h : Honest answer object) (hsorted : (object s).entries.IsSorted) (c : Change)
    {attempts : Nat} {result : Except StoreError Unit}
    (hrun : (c.work attempts).run answer s = (some result, s')) :
    Tried c.apply (object s).entries (object s').entries result := by
  rw [c.work_eq] at hrun
  exact h.tried_attempt hsorted c attempts hrun

end Honest

/-! ### Stores that are honest -/

/-- A write to memory replaces the records, or meets a conflict and leaves them as they are. -/
theorem Memory.write_cases (m : Memory) (entries : Entries) (expected : Option UInt64) :
    (∃ revision, (m.write entries expected).1 = .ok revision ∧
      (m.write entries expected).2.snapshot.entries = entries) ∨
    ((m.write entries expected).1 = .error (.conflict expected) ∧
      (m.write entries expected).2.snapshot.entries = m.snapshot.entries) := by
  rw [Memory.write]
  split
  · exact .inr ⟨rfl, rfl⟩
  · split
    · exact .inl ⟨_, rfl, rfl⟩
    · exact .inr ⟨rfl, rfl⟩

/-- **Memory is honest**, whatever conflicts are due. -/
theorem honest_memory : Honest Memory.answer Memory.snapshot where
  read _ := rfl
  told m snapshot h := by rw [← Except.ok.inj h]
  written m entries expected revision _ h := by
    rcases m.write_cases entries expected with ⟨-, -, hmade⟩ | ⟨hrefused, -⟩
    · exact hmade
    · cases hrefused.symm.trans h
  refused m entries expected found h := by
    rcases m.write_cases entries expected with ⟨revision, hmade, -⟩ | ⟨-, hsame⟩
    · cases hmade.symm.trans h
    · exact hsame
  failed m entries expected e _ _ :=
    (m.write_cases entries expected).symm.imp And.right fun ⟨_, _, hmade⟩ => hmade

namespace Files

/-- The object that files keep. What cannot be read keeps none. -/
def object (f : Files) : Snapshot :=
  match f.load with
  | .ok d => snapshotOf d
  | .error _ => {}

/-- A write to files puts a document into the file, or it fails and leaves them as they are. -/
theorem write_cases (f : Files) (now : String) (entries : Entries) (expected : Option UInt64) :
    (∃ revision backup, f.write now entries expected = (.ok revision,
      { main := .file (Document.text ⟨revision, now, entries⟩), backup })) ∨
    ∃ e, f.write now entries expected = (.error e, f) := by
  rw [Files.write]
  split
  · exact .inr ⟨_, rfl⟩
  · split
    · split
      · exact .inr ⟨_, rfl⟩
      · exact .inl ⟨_, _, rfl⟩
    · exact .inr ⟨_, rfl⟩

/-- A write that fails leaves the files as they are. -/
theorem write_of_error {f : Files} {now : String} {entries : Entries} {expected : Option UInt64}
    {e : StoreError} (h : (f.write now entries expected).1 = .error e) :
    (f.write now entries expected).2 = f := by
  rcases f.write_cases now entries expected with ⟨revision, backup, hmade⟩ | ⟨e', hfailed⟩
  · rw [hmade] at h
    contradiction
  · rw [hfailed]

end Files

/-- **Files are honest** if the clock tells the time, whatever is in them. -/
theorem honest_files {clock : Nat → String} (hclock : ∀ n, Text.isTimestamp (clock n) = true) :
    Honest (Files.answerBy clock) fun fn => fn.1.object where
  read _ := rfl
  told := by
    rintro ⟨f, n⟩ snapshot h
    change f.load.map Files.snapshotOf = .ok snapshot at h
    show _ = f.object.entries
    rw [Files.object]
    cases hload : f.load with
    | error e =>
      rw [hload] at h
      contradiction
    | ok d =>
      rw [hload] at h
      rw [← Except.ok.inj h]
  written := by
    rintro ⟨f, n⟩ entries expected revision hentries h
    change (f.write (clock n) entries expected).1 = .ok revision at h
    show (f.write (clock n) entries expected).2.object.entries = entries
    rcases f.write_cases (clock n) entries expected with ⟨revision', backup, hmade⟩ | ⟨e, hfailed⟩
    · have hlegible : Document.Legible ⟨revision', clock n, entries⟩ := ⟨hclock n, hentries⟩
      rw [hmade, Files.object, Files.load_file hlegible]
      rfl
    · rw [hfailed] at h
      contradiction
  refused := by
    rintro ⟨f, n⟩ entries expected found h
    show (f.write (clock n) entries expected).2.object.entries = f.object.entries
    rw [Files.write_of_error h]
  failed := by
    rintro ⟨f, n⟩ entries expected e - h
    refine .inl ?_
    show (f.write (clock n) entries expected).2.object.entries = f.object.entries
    rw [Files.write_of_error h]

end Store

end ClusterNet
