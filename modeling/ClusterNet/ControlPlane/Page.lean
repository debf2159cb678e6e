import ClusterNet.Json.Codec

/-!
# Pages of a listing

A control plane hands out a listing in pages. Each page but the last carries a cursor, by which the
next one is asked for.

## Main definitions

* `ControlPlane.Page` — a page;
* `ControlPlane.Page.next?` — the cursor of the page behind it.
-/

namespace ClusterNet

namespace ControlPlane

/-- A page of a listing. -/
structure Page (α : Type) where
  /-- The items on the page. -/
  results : List α := []
  /-- The cursor of the next page. It is missing or empty on the last one. -/
  cursor : Option String := none
  /-- The number of items in the whole listing. -/
  resultCount : Option Int64 := none
deriving DecidableEq, Repr, Inhabited

namespace Page

variable {α : Type}

/-- A listing of one page. -/
def single (results : List α) : Page α where
  results
  resultCount := some (Int64.ofNat results.length)

/-- The cursor of the next page, if this is not the last one. -/
def next? (p : Page α) : Option String :=
  p.cursor.filter fun c => !c.isEmpty

/-- How a page is written. -/
def record (c : Codec α) : Record (Page α) :=
  .iso
    (.field (.items "results" c) <| .field (.optional "cursor" .text) <|
      .field (.optional "result_count" .int64) .nil)
    (fun (results, cursor, resultCount, ()) => { results, cursor, resultCount })
    fun p => (p.results, p.cursor, p.resultCount, ())

/-- The codec of pages. -/
def codec (c : Codec α) : Codec (Page α) := (record c).codec

end Page

end ControlPlane

end ClusterNet
