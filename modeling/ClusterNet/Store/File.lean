import ClusterNet.FileTree
import ClusterNet.Json.Parser
import ClusterNet.Json.Printer
import ClusterNet.Store.Snapshot
import ClusterNet.Text.Timestamp

/-!
# The shared object in a file

The object is kept as a document in a file. Before the document is replaced, the file is copied to
another one beside it.

## Main definitions

* `Store.Document` — what is written to the file;
* `Store.Files` — the file and its backup;
* `Store.Files.answer` — what a request yields on them.
-/

namespace ClusterNet

namespace Store

/-! ### The document -/

/-- What is written to the file. -/
structure Document where
  /-- The revision of the object. -/
  revision : UInt64
  /-- When the document was written. -/
  updatedAt : String
  /-- The records. -/
  entries : Entries
deriving DecidableEq, Repr

/-- Texts that name a point in time. -/
def timestampCodec : Codec String where
  encode := .string
  decode v := (Codec.text.decode v).filter Text.isTimestamp

/-- How a document is written. -/
def Document.record : Record Document :=
  .iso
    (.field (.required "revision" .uint64) <| .field (.required "updated_at" timestampCodec) <|
      .field (.required "entries" (.map StoredRecord.codec)) .nil)
    (fun (revision, updatedAt, entries, ()) => { revision, updatedAt, entries })
    fun d => (d.revision, d.updatedAt, d.entries, ())

/-- The codec of documents. -/
def Document.codec : Codec Document := Document.record.codec

/-- The text of a document. -/
def Document.text (d : Document) : String := (Document.codec.encode d).indented

/-- The document that a text holds. -/
def Document.ofText? (s : String) : Option Document := (Json.parse s).bind Document.codec.decode

/-! ### Files -/

/-- The file of the object and its backup. -/
structure Files where
  /-- The file. -/
  main : FileEntry := .missing
  /-- Its backup. -/
  backup : FileEntry := .missing
deriving DecidableEq, Repr

namespace Files

/-- The document in the file, if there is a file. -/
def load (f : Files) : Except StoreError (Option Document) :=
  match f.main with
  | .missing => .ok none
  | .directory => .error .io
  | .file content =>
    match Document.ofText? content with
    | some d => .ok (some d)
    | none => .error .json

/-- The object that a document holds. -/
def snapshotOf : Option Document → Snapshot
  | none => {}
  | some d => { entries := d.entries, revision := some d.revision }

/-- The files with the file copied to its backup. Nothing is copied while there is no file. -/
def backedUp (f : Files) : Except StoreError Files :=
  match f.main, f.backup with
  | .file _, .directory => .error .io
  | .file content, _ => .ok { f with backup := .file content }
  | _, _ => .ok f

/-- Replace the records, at a given time. -/
def write (f : Files) (now : String) (entries : Entries) (expected : Option UInt64) :
    Except StoreError UInt64 × Files :=
  match f.load with
  | .error e => (.error e, f)
  | .ok current =>
    if (snapshotOf current).revision = expected then
      match f.backedUp with
      | .error e => (.error e, f)
      | .ok f =>
        let revision := nextRevision expected
        let d : Document := { revision, updatedAt := now, entries }
        (.ok revision, { f with main := .file d.text })
    else (.error (.conflict expected), f)

/-- What a request yields at a given time, and the files afterwards. -/
def answer (now : String) : (r : Request) → Files → Answer r × Files
  | .read, f => (f.load.map snapshotOf, f)
  | .write entries expected, f => f.write now entries expected

end Files

end Store

end ClusterNet
