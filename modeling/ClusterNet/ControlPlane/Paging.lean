import ClusterNet.ControlPlane.Error
import ClusterNet.ControlPlane.Page
import ClusterNet.Program

/-!
# Going through a listing

## Main definitions

* `ControlPlane.findFirst` — the first item of a listing that is wanted;
* `ControlPlane.collect` — all items of a listing that are wanted.

Both fetch one page after the other and stop behind the last one. A page that names the cursor by
which it was asked for is an error. Listings are followed for a given number of pages.
-/

namespace ClusterNet

namespace ControlPlane

variable {I : Interface} {α : Type}

/-- The error of a page that names the cursor by which it was asked for. -/
def repeatedCursor (cursor : String) : ApiError :=
  .unexpectedResponse s!"listing returned the same cursor twice: {cursor}"

/-- How a listing goes on behind the page at a cursor: with another cursor, not at all, or not as
it should. -/
def nextCursor (cursor : Option String) (page : Page α) : Except ApiError (Option String) :=
  match page.next? with
  | none => .ok none
  | some next => if cursor = some next then .error (repeatedCursor next) else .ok (some next)

/-- Look for a wanted item on the page at a cursor. -/
def findOnPage (fetch : Option String → Program I (Except ApiError (Page α))) (wanted : α → Bool)
    (cursor : Option String) : Program I (Option String ⊕ Except ApiError (Option α)) :=
  (fetch cursor).bind fun
    | .error e => .done (.inr (.error e))
    | .ok page =>
      match page.results.find? wanted with
      | some a => .done (.inr (.ok (some a)))
      | none =>
        match nextCursor cursor page with
        | .error e => .done (.inr (.error e))
        | .ok none => .done (.inr (.ok none))
        | .ok (some next) => .done (.inl (some next))

/-- The first wanted item of a listing. -/
def findFirst (fetch : Option String → Program I (Except ApiError (Page α))) (wanted : α → Bool)
    (pages : Nat) : Program I (Except ApiError (Option α)) :=
  Program.loop (findOnPage fetch wanted) pages none

/-- Add the wanted items on the page at a cursor to those of earlier pages. -/
def collectOnPage (fetch : Option String → Program I (Except ApiError (Page α)))
    (wanted : α → Bool) (earlier : List α × Option String) :
    Program I ((List α × Option String) ⊕ Except ApiError (List α)) :=
  (fetch earlier.2).bind fun
    | .error e => .done (.inr (.error e))
    | .ok page =>
      let items := earlier.1 ++ page.results.filter wanted
      match nextCursor earlier.2 page with
      | .error e => .done (.inr (.error e))
      | .ok none => .done (.inr (.ok items))
      | .ok (some next) => .done (.inl (items, some next))

/-- All wanted items of a listing, in order. -/
def collect (fetch : Option String → Program I (Except ApiError (Page α))) (wanted : α → Bool)
    (pages : Nat) : Program I (Except ApiError (List α)) :=
  Program.loop (collectOnPage fetch wanted) pages ([], none)

end ControlPlane

end ClusterNet
