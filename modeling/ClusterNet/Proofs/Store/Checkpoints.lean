import ClusterNet.Proofs.Store.Memory
import ClusterNet.Proofs.Store.Sharing
import ClusterNet.Store.File

/-!
# What stores keep

A store is used by one client that loads, saves and deletes states, one call after another. Whether
the object is kept in memory or in a file makes no difference to it: every call is answered as if
the store were *the list of all calls made so far*, where a namespace has the state that was last
saved under it and not deleted since.

There is one argument for both. Surroundings keep an object *faithfully* if a read yields it and a
write for its present revision replaces it. That is all that the calls of a client need. In memory
it is plain; for files it means that the text of every document that is ever written is read as
that document, which holds since its entries are in the order of their keys and its date can be
read.

## Clocks

A document carries the time at which it was written. The clock is asked once for each request, and
nothing is known of it but that its texts name points in time.

## Revisions

Revisions are words of 64 bits, and the one after the last of them is zero again.

## Main definitions

* `Store.Call`, `Store.serve` — what a client asks for, and the replies to calls made in a row
* `Store.lastSaved`, `Store.Call.reply` — what the replies should be, from the calls before
* `Store.Faithful` — surroundings that keep an object as they should
* `Store.Recorded` — the object that is kept after some calls
* `Store.Files.Holds`, `Store.Files.LeadsTo` — files that keep an object, and what a call does to
  them

## Main results

* `Store.Document.ofText?_text` — a document is read from its text
* `Store.faithful_memory`, `Store.faithful_files` — memory and files are faithful
* `Store.Faithful.recorded` — what is kept after any calls
* `Store.stores_agree` — both kinds of store give the replies that they should, and every change
  replaces the document by its successor and keeps it as the backup
-/

namespace ClusterNet

namespace Store

open Cluster (State)
open Program

/-! ### Calls -/

/-- What a client may ask of a store. -/
inductive Call where
  /-- Load the state of a namespace. -/
  | load (ns : String)
  /-- Make a change. -/
  | change (c : Change)
deriving DecidableEq

/-- What a call comes to. -/
inductive Reply where
  /-- The result of loading a state. -/
  | loaded (result : Except StoreError (Option State))
  /-- The result of making a change. -/
  | changed (result : Except StoreError Unit)

namespace Call

/-- The work of a call, with so many attempts to write. -/
def work (attempts : Nat) : Call → Work Reply
  | load ns => (Store.load ns).bind fun result => .done (.loaded result)
  | change c => (c.work attempts).bind fun result => .done (.changed result)

/-- Whether the call makes a change. -/
def isChange : Call → Bool
  | load _ => false
  | change _ => true

/-- The state that a call leaves a namespace with, if the call is about that namespace at all. -/
def leaves (ns : String) : Call → Option (Option State)
  | load _ => none
  | change (.save ns' s) => if ns' = ns then some (some s) else none
  | change (.delete ns') => if ns' = ns then some none else none

end Call

/-- The state that was last saved under a namespace, unless it was deleted since. -/
def lastSaved (ns : String) (past : List Call) : Option State :=
  (past.filterMap (Call.leaves ns)).getLast?.join

/-- What a call should come to, by the calls before it. -/
def Call.reply (past : List Call) : Call → Reply
  | load ns => .loaded (.ok (lastSaved ns past))
  | change _ => .changed (.ok ())

theorem lastSaved_append (ns : String) (past : List Call) (c : Call) :
    lastSaved ns (past ++ [c]) = (c.leaves ns).getD (lastSaved ns past) := by
  rw [lastSaved, List.filterMap_append]
  cases hleaves : c.leaves ns with
  | none => simp [hleaves, lastSaved]
  | some s => simp [hleaves]

section Serve

variable {σ : Type}

/-- The replies to calls made one after another, and the surroundings after the last one. A call
that comes to no end has no reply. -/
def serve (answer : (r : Request) → σ → Answer r × σ) (attempts : Nat) :
    List Call → σ → List (Option Reply) × σ
  | [], s => ([], s)
  | c :: calls, s =>
    let (reply, s) := (c.work attempts).run answer s
    let (replies, s) := serve answer attempts calls s
    (reply :: replies, s)

variable {answer : (r : Request) → σ → Answer r × σ} {attempts : Nat}

theorem serve_append (before after : List Call) (s : σ) :
    serve answer attempts (before ++ after) s =
      ((serve answer attempts before s).1 ++
          (serve answer attempts after (serve answer attempts before s).2).1,
        (serve answer attempts after (serve answer attempts before s).2).2) := by
  induction before generalizing s with
  | nil => rfl
  | cons c before ih => simp only [List.cons_append, serve, ih]

theorem serve_singleton (c : Call) (s : σ) : serve answer attempts [c] s =
    ([((c.work attempts).run answer s).1], ((c.work attempts).run answer s).2) :=
  rfl

@[simp] theorem length_serve (calls : List Call) (s : σ) :
    (serve answer attempts calls s).1.length = calls.length := by
  induction calls generalizing s with
  | nil => rfl
  | cons c calls ih => simp only [serve, List.length_cons, ih]

end Serve

/-! ### Faithful surroundings -/

/-- The object that is kept after some calls: each namespace has the state that was last saved, and
the revision was moved on by every change. -/
structure Recorded (past : List Call) (snapshot : Snapshot) : Prop where
  /-- The record of each namespace. -/
  records : ∀ ns, snapshot.entries.find? ns = (lastSaved ns past).map recordOf
  /-- The records are in the order of their namespaces. -/
  sorted : snapshot.entries.IsSorted
  /-- The number of changes. -/
  revision : snapshot.revision = revisionAfter none (past.countP Call.isChange)

/-- A change keeps the order of the records. -/
theorem Change.isSorted_apply (c : Change) {es : Entries} (h : es.IsSorted) :
    (c.apply es).IsSorted := by
  cases c with
  | save ns s => exact h.insert ns (recordOf s)
  | delete ns => exact h.erase ns

namespace Recorded

variable {past : List Call} {snapshot : Snapshot}

theorem start : Recorded [] {} where
  records _ := rfl
  sorted := OrderedMap.isSorted_empty
  revision := rfl

/-- A state is loaded from its record. -/
theorem stateIn_eq (h : Recorded past snapshot) (ns : String) :
    stateIn ns snapshot = .ok (lastSaved ns past) := by
  have hrecord := h.records ns
  cases hlast : lastSaved ns past with
  | none => rw [hlast] at hrecord; exact stateIn_of_find?_none hrecord
  | some s => rw [hlast] at hrecord; exact stateIn_of_find? hrecord

/-- Loading changes nothing. -/
theorem load (h : Recorded past snapshot) (ns : String) :
    Recorded (past ++ [.load ns]) snapshot where
  records ns' := by rw [lastSaved_append]; exact h.records ns'
  sorted := h.sorted
  revision := by rw [List.countP_append]; exact h.revision

/-- A change is about one namespace. -/
theorem change (h : Recorded past snapshot) (c : Change) :
    Recorded (past ++ [.change c])
      ⟨c.apply snapshot.entries, some (nextRevision snapshot.revision)⟩ where
  records ns := by
    rw [lastSaved_append]
    cases c with
    | save ns' s =>
      rcases eq_or_ne ns' ns with rfl | hne
      · simp [Change.apply, Call.leaves]
      · simp [Change.apply, Call.leaves, hne, OrderedMap.find?_insert_of_ne _ hne.symm, h.records]
    | delete ns' =>
      rcases eq_or_ne ns' ns with rfl | hne
      · simp [Change.apply, Call.leaves]
      · simp [Change.apply, Call.leaves, hne, OrderedMap.find?_erase_of_ne _ hne.symm, h.records]
  sorted := c.isSorted_apply h.sorted
  revision := by
    rw [List.countP_append, h.revision]
    rfl

end Recorded

variable {σ : Type}

/-- Surroundings that keep an object as they should: `Holds` says which object they keep. A read
yields it, and a write for its present revision replaces it. -/
structure Faithful (answer : (r : Request) → σ → Answer r × σ) (Holds : Snapshot → σ → Prop) :
    Prop where
  /-- A read yields the object. -/
  read : ∀ {snapshot s}, Holds snapshot s →
    (answer .read s).1 = .ok snapshot ∧ Holds snapshot (answer .read s).2
  /-- A write of records in order replaces the object. -/
  write : ∀ {snapshot s}, Holds snapshot s → ∀ {entries : Entries}, entries.IsSorted →
    (answer (.write entries snapshot.revision) s).1 = .ok (nextRevision snapshot.revision) ∧
      Holds ⟨entries, some (nextRevision snapshot.revision)⟩
        (answer (.write entries snapshot.revision) s).2

namespace Faithful

variable {answer : (r : Request) → σ → Answer r × σ} {Holds : Snapshot → σ → Prop}
  {snapshot : Snapshot} {s : σ} {attempts : Nat}

/-- A state is loaded by one read. -/
theorem run_load (h : Faithful answer Holds) (hs : Holds snapshot s) (ns : String) :
    ((Call.load ns).work attempts).run answer s =
      (some (.loaded (stateIn ns snapshot)), (answer .read s).2) := by
  rw [Call.work, run_bind, Store.load, bind_eq, Store.read, request, ask_bind, run_ask, done_bind,
    (h.read hs).1]
  rfl

/-- A change is made by one read and one write. -/
theorem run_change (h : Faithful answer Holds) (hs : Holds snapshot s)
    (hsorted : snapshot.entries.IsSorted) (hattempts : 0 < attempts) (c : Change) :
    ((Call.change c).work attempts).run answer s =
      (some (.changed (.ok ())),
        (answer (.write (c.apply snapshot.entries) snapshot.revision) (answer .read s).2).2) := by
  obtain ⟨left, rfl⟩ := Nat.exists_eq_succ_of_ne_zero hattempts.ne'
  obtain ⟨hread, hs'⟩ := h.read hs
  have hwrite := (h.write hs' (c.isSorted_apply hsorted)).1
  rw [Call.work, run_bind, Change.work_eq, attempt, bind_eq, Store.read, request, ask_bind, run_ask,
    done_bind, hread]
  dsimp only
  rw [bind_eq, Store.write, request, ask_bind, run_ask, done_bind, hwrite]
  rfl

/-- **What one call comes to.** -/
theorem serve_call (h : Faithful answer Holds) (hattempts : 0 < attempts) {past : List Call}
    (hs : Holds snapshot s) (hpast : Recorded past snapshot) (c : Call) :
    (serve answer attempts [c] s).1 = [some (c.reply past)] ∧
      ∃ snapshot', Holds snapshot' (serve answer attempts [c] s).2 ∧
        Recorded (past ++ [c]) snapshot' := by
  cases c with
  | load ns =>
    rw [serve_singleton, h.run_load hs, hpast.stateIn_eq]
    exact ⟨rfl, snapshot, (h.read hs).2, hpast.load ns⟩
  | change c =>
    rw [serve_singleton, h.run_change hs hpast.sorted hattempts]
    exact ⟨rfl, _, (h.write (h.read hs).2 (c.isSorted_apply hpast.sorted)).2, hpast.change c⟩

/-- **What is kept after any calls.** -/
theorem recorded (h : Faithful answer Holds) (hattempts : 0 < attempts) (hs : Holds {} s)
    (calls : List Call) :
    ∃ snapshot, Holds snapshot (serve answer attempts calls s).2 ∧ Recorded calls snapshot := by
  induction calls using List.reverseRecOn with
  | nil => exact ⟨{}, hs, .start⟩
  | append_singleton past c ih =>
    obtain ⟨snapshot, hpast, hrecorded⟩ := ih
    rw [serve_append]
    exact (h.serve_call hattempts hpast hrecorded c).2

/-- **Every call gets the reply that it should.** -/
theorem serve_getElem? (h : Faithful answer Holds) (hattempts : 0 < attempts) (hs : Holds {} s)
    (past : List Call) (c : Call) (rest : List Call) :
    (serve answer attempts (past ++ c :: rest) s).1[past.length]? = some (some (c.reply past)) := by
  obtain ⟨snapshot, hpast, hrecorded⟩ := h.recorded hattempts hs past
  have hreply := (h.serve_call hattempts hpast hrecorded c).1
  have hhead : (serve answer attempts (c :: rest) (serve answer attempts past s).2).1[0]? =
      some (some (c.reply past)) := by
    rw [← List.singleton_append, serve_append, hreply]
    rfl
  rw [serve_append, List.getElem?_append_right (length_serve past s).le, length_serve,
    Nat.sub_self]
  exact hhead

end Faithful

/-! ### Memory -/

/-- An object in memory without conflicts that are due. -/
def Memory.Holds (snapshot : Snapshot) (m : Memory) : Prop := m = { snapshot }

/-- **Memory is faithful.** -/
theorem faithful_memory : Faithful Memory.answer Memory.Holds where
  read := by
    rintro snapshot _ rfl
    exact ⟨rfl, rfl⟩
  write := by
    rintro snapshot _ rfl entries -
    have hwrite : Memory.write { snapshot } entries snapshot.revision =
        (.ok (nextRevision snapshot.revision),
          { snapshot := ⟨entries, some (nextRevision snapshot.revision)⟩ }) := if_pos rfl
    rw [Memory.answer, hwrite]
    exact ⟨rfl, rfl⟩

/-! ### Documents -/

theorem reads_storedRecord : StoredRecord.record.Reads ["version", "state"] :=
  Record.Reads.iso
    ((Record.reads_nil.field (Field.lawful_required Codec.lawful_text "state") (by decide)).field
      (Field.lawful_required Codec.lawful_text "version") (by decide))
    fun _ => rfl

theorem keeps_timestampCodec {time : String} (h : Text.isTimestamp time = true) :
    timestampCodec.Keeps time where
  plain := .string time
  back := Option.filter_some.trans (if_pos h)

/-- Documents that are read back: the date can be read, and the entries are in order. -/
structure Document.Legible (d : Document) : Prop where
  /-- The date names a point in time. -/
  time : Text.isTimestamp d.updatedAt = true
  /-- The entries are in the order of their namespaces. -/
  sorted : d.entries.IsSorted

theorem Document.Legible.keeps {d : Document} (h : d.Legible) : Document.codec.Keeps d := by
  have hentries := reads_storedRecord.codec.keeps_map h.sorted
  have hrecord : Document.record.Keeps ["revision", "updated_at", "entries"] d := by
    refine Record.Keeps.iso ?_ rfl
    refine .field ?_ (Field.keeps_required (Codec.lawful_uint64 d.revision) _) (by decide)
    refine .field ?_ (Field.keeps_required (keeps_timestampCodec h.time) _) (by decide)
    exact .field (Record.reads_nil ()) (Field.keeps_required hentries _) (by decide)
  exact hrecord.codec

/-- **A document is read from its text.** -/
theorem Document.ofText?_text {d : Document} (h : d.Legible) : Document.ofText? d.text = some d :=
  h.keeps.parse_indented

/-! ### Files -/

namespace Files

/-- Files that keep an object: there are none and there is no object, or the file holds the text of
a document, beside which there may be a backup. -/
inductive Holds : Snapshot → Files → Prop
  /-- There are no files. -/
  | nothing : Holds {} {}
  /-- The file holds a document. -/
  | document {d : Document} (hd : d.Legible) {backup : FileEntry} (hbackup : backup ≠ .directory) :
    Holds (snapshotOf (some d)) { main := .file d.text, backup }

theorem load_file {d : Document} (hd : d.Legible) (backup : FileEntry) :
    load { main := .file d.text, backup } = .ok (some d) := by
  rw [load]
  dsimp only
  rw [Document.ofText?_text hd]

variable {snapshot : Snapshot} {f : Files}

/-- What is in the file is the object. -/
theorem Holds.load (h : Holds snapshot f) : f.load.map snapshotOf = .ok snapshot := by
  cases h with
  | nothing => rfl
  | document hd _ => rw [load_file hd]; rfl

/-- What was in the file becomes the backup. -/
theorem Holds.backedUp (h : Holds snapshot f) : f.backedUp = .ok { f with backup := f.main } := by
  cases h with
  | nothing => rfl
  | @document d _ backup hbackup =>
    cases backup with
    | directory => exact absurd rfl hbackup
    | missing | file => rfl

/-- What is in the file is not a directory. -/
theorem Holds.main_ne (h : Holds snapshot f) : f.main ≠ .directory := by
  cases h <;> exact nofun

/-- A write for the present revision puts a document in place of what was in the file. -/
theorem Holds.write (h : Holds snapshot f) (now : String) (entries : Entries) :
    f.write now entries snapshot.revision =
      (.ok (nextRevision snapshot.revision),
        { main := .file (Document.text ⟨nextRevision snapshot.revision, now, entries⟩)
          backup := f.main }) := by
  have hload := h.load
  rw [Files.write]
  cases hcurrent : f.load with
  | error e => rw [hcurrent] at hload; exact nomatch hload
  | ok current =>
    rw [hcurrent] at hload
    have hrevision : (snapshotOf current).revision = snapshot.revision :=
      congrArg Snapshot.revision (Except.ok.inj hload)
    dsimp only
    rw [if_pos hrevision, h.backedUp]

/-- What a request yields when its time is read from a clock that goes on with every request. -/
def answerBy (clock : Nat → String) : (r : Request) → Files × Nat → Answer r × (Files × Nat)
  | r, (f, n) => ((f.answer (clock n) r).1, ((f.answer (clock n) r).2, n + 1))

/-- The files after a call, in terms of the files before. A load leaves them as they are. After a
change the file holds a document. If it is the first one there was no file before, else it follows
the document that was there, and what was in the file is in the backup. The number of changes made
before is the revision of the document. -/
def LeadsTo (f : Files) (changes : Nat) : Call → Files → Prop
  | .load _, f' => f' = f
  | .change _, f' => ∃ d', f'.load = .ok (some d') ∧ f'.backup = f.main ∧
      d'.revision = UInt64.ofNat changes ∧
      (f.main = .missing ∧ d'.revision = 0 ∨
        ∃ d, f.load = .ok (some d) ∧ d'.revision = d.revision + 1)

end Files

variable {clock : Nat → String}

/-- **Files are faithful** if the clock tells the time. -/
theorem faithful_files (hclock : ∀ n, Text.isTimestamp (clock n) = true) :
    Faithful (Files.answerBy clock) fun snapshot fn => Files.Holds snapshot fn.1 where
  read := by
    rintro snapshot ⟨f, n⟩ h
    exact ⟨h.load, h⟩
  write := by
    rintro snapshot ⟨f, n⟩ h entries hentries
    have hwrite := h.write (clock n) entries
    have hanswer : Files.answerBy clock (.write entries snapshot.revision) (f, n) =
        ((f.write (clock n) entries snapshot.revision).1,
          ((f.write (clock n) entries snapshot.revision).2, n + 1)) := rfl
    rw [hanswer, hwrite]
    exact ⟨rfl, .document (d := ⟨_, clock n, entries⟩) ⟨hclock n, hentries⟩ h.main_ne⟩

/-! ### Both stores -/

/-- The replies to calls on an object in memory that is not there at first. -/
def repliesInMemory (attempts : Nat) (calls : List Call) : List (Option Reply) :=
  (serve Memory.answer attempts calls {}).1

/-- The replies to calls on an object in files that are not there at first. -/
def repliesInFiles (clock : Nat → String) (attempts : Nat) (calls : List Call) :
    List (Option Reply) :=
  (serve (Files.answerBy clock) attempts calls ({}, 0)).1

/-- The files after calls on an object in files that are not there at first. -/
def filesAfter (clock : Nat → String) (attempts : Nat) (calls : List Call) : Files :=
  (serve (Files.answerBy clock) attempts calls ({}, 0)).2.1

/-- **One call on the files**, after any calls. -/
theorem filesAfter_leadsTo (hclock : ∀ n, Text.isTimestamp (clock n) = true) {attempts : Nat}
    (hattempts : 0 < attempts) (past : List Call) (c : Call) :
    (filesAfter clock attempts past).LeadsTo (past.countP Call.isChange) c
      (filesAfter clock attempts (past ++ [c])) := by
  have hfaithful := faithful_files hclock
  obtain ⟨snapshot, hpast, hrecorded⟩ :=
    hfaithful.recorded hattempts (s := (({} : Files), 0)) .nothing past
  rw [filesAfter, filesAfter, serve_append, serve_singleton]
  generalize (serve (Files.answerBy clock) attempts past ({}, 0)).2 = fn at hpast
  obtain ⟨f, n⟩ := fn
  cases c with
  | load ns =>
    rw [hfaithful.run_load hpast]
    rfl
  | change c =>
    have hlegible : Document.Legible
        ⟨nextRevision snapshot.revision, clock (n + 1), c.apply snapshot.entries⟩ :=
      ⟨hclock (n + 1), c.isSorted_apply hrecorded.sorted⟩
    have hnumber : nextRevision snapshot.revision = UInt64.ofNat (past.countP Call.isChange) := by
      rw [hrecorded.revision, ← UInt64.zero_add (UInt64.ofNat _)]
      exact Option.some.inj (revisionAfter_succ_eq none (past.countP Call.isChange))
    rw [hfaithful.run_change hpast hrecorded.sorted hattempts]
    show f.LeadsTo _ _ (f.write (clock (n + 1)) (c.apply snapshot.entries) snapshot.revision).2
    rw [Files.Holds.write hpast]
    refine ⟨_, Files.load_file hlegible f.main, rfl, hnumber, ?_⟩
    -- the file is missing only before the first change
    cases hpast with
    | nothing => exact .inl ⟨rfl, rfl⟩
    | @document d hd backup _ => exact .inr ⟨d, Files.load_file hd backup, rfl⟩

/-- **Stores keep what was saved, and files keep it as well as memory does.** -/
theorem stores_agree {attempts : Nat} (hattempts : 0 < attempts) {clock : Nat → String}
    (hclock : ∀ n, Text.isTimestamp (clock n) = true) (calls : List Call) :
    repliesInFiles clock attempts calls = repliesInMemory attempts calls ∧
    ∀ past c rest, calls = past ++ c :: rest →
      (repliesInFiles clock attempts calls)[past.length]? = some (some (c.reply past)) ∧
      (filesAfter clock attempts past).LeadsTo (past.countP Call.isChange) c
        (filesAfter clock attempts (past ++ [c])) := by
  have hmemory := fun past c rest =>
    faithful_memory.serve_getElem? hattempts (s := ({} : Memory)) rfl past c rest
  have hfiles := fun past c rest =>
    (faithful_files hclock).serve_getElem? hattempts (s := (({} : Files), 0)) .nothing past c rest
  refine ⟨List.ext_getElem? fun i => ?_, ?_⟩
  · by_cases hi : i < calls.length
    · have hsplit : calls = calls.take i ++ calls[i] :: calls.drop (i + 1) := by
        rw [List.getElem_cons_drop, List.take_append_drop]
      have hlength : (calls.take i).length = i := List.length_take_of_le hi.le
      have hfile := hfiles (calls.take i) calls[i] (calls.drop (i + 1))
      have hmem := hmemory (calls.take i) calls[i] (calls.drop (i + 1))
      rw [← hsplit, hlength] at hfile hmem
      exact hfile.trans hmem.symm
    · have hle : calls.length ≤ i := Nat.le_of_not_lt hi
      rw [repliesInFiles, repliesInMemory, List.getElem?_eq_none (by rwa [length_serve]),
        List.getElem?_eq_none (by rwa [length_serve])]
  · rintro past c rest rfl
    exact ⟨hfiles past c rest, filesAfter_leadsTo hclock hattempts past c⟩

/-- A state with a part for manager objects that is empty, and with marks that have to be escaped
twice. -/
def quotedState : State where
  version := some "1.0"
  creationStarted := true
  segmentName := some "a \"b\" \\ ä"
  dhcp := some {}

/-- A clock that stands still. -/
def noon (_ : Nat) : String := "2024-05-01T12:30:00Z"

/-- A state is loaded from a file although another namespace was deleted since it was saved. -/
theorem stores_agree_quoted :
    0 < defaultAttempts ∧ (∀ n, Text.isTimestamp (noon n) = true) ∧
      (repliesInFiles noon defaultAttempts [.change (.save "shoot--ä" quotedState),
        .change (.delete "shoot--b"), .load "shoot--ä"])[2]? =
          some (some (.loaded (.ok (some quotedState)))) := by
  have hattempts : 0 < defaultAttempts := by decide
  have htime : Text.isTimestamp "2024-05-01T12:30:00Z" = true := by decide +kernel
  have hclock : ∀ n, Text.isTimestamp (noon n) = true := fun _ => htime
  have hagree := stores_agree hattempts hclock
    [.change (.save "shoot--ä" quotedState), .change (.delete "shoot--b"), .load "shoot--ä"]
  exact ⟨hattempts, hclock, (hagree.2 [.change (.save "shoot--ä" quotedState),
    .change (.delete "shoot--b")] (.load "shoot--ä") [] rfl).1⟩

end Store

end ClusterNet
