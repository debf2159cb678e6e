import ClusterNet.FileTree
import ClusterNet.Http.Effect
import ClusterNet.Text.Decimal

/-!
# A testbed for work over a network

Hosts that answer as they are told, with files, ids and a clock of their own.

## Main definitions

* `Http.Host` — a host with the answers it is told to give;
* `Http.Testbed` — the surroundings, and what was asked of them;
* `Http.Testbed.perform` — what an effect yields on it.

A host that is down, an unknown one and one that should encrypt refuse the connection, which may
pass. A host that hangs up and an address that is none will not do better the next time.
-/

namespace ClusterNet

namespace Http

/-- What a host does with a request. -/
inductive HostReply where
  /-- It answers. -/
  | answer (response : Response)
  /-- It closes the connection. -/
  | hangUp
deriving DecidableEq, Repr, Inhabited

/-- A host that answers as it is told. -/
structure Host where
  /-- Its name in the log. -/
  name : String
  /-- By what it is addressed. -/
  authority : String
  /-- Whether it takes connections. -/
  isUp : Bool := true
  /-- What it does with the next requests. Behind the last of them it answers that it failed. -/
  replies : List HostReply := []
deriving DecidableEq, Repr, Inhabited

/-- A request that reached a host. -/
structure Received where
  /-- The name of the host. -/
  host : String
  /-- What was asked of it. -/
  target : String
  /-- The request. -/
  request : Request
deriving Inhabited

/-- The surroundings of work over a network, and what was asked of them. -/
structure Testbed where
  /-- The hosts. -/
  hosts : List Host := []
  /-- The files. -/
  files : FileTree := {}
  /-- The ids that can be drawn. -/
  freshId : Nat → String := Text.numberedId
  /-- The number of ids that were drawn. -/
  drawn : Nat := 0
  /-- The time that has passed. -/
  clock : Duration := .zero
  /-- The requests that reached a host, in order. -/
  received : List Received := []

namespace Testbed

/-- The answer of a host that failed. -/
def failed : Response := ⟨500, ""⟩

/-- What a host does next, and the host behind it. -/
def takeReply (h : Host) : HostReply × Host :=
  (h.replies.headD (.answer failed), { h with replies := h.replies.tail })

/-- The first of some hosts that is addressed by an authority and up, between the others. -/
def findHost (authority : String) : List Host → Option (List Host × Host × List Host)
  | [] => none
  | h :: hs =>
    if h.authority == authority && h.isUp then some ([], h, hs)
    else (findHost authority hs).map fun (before, found, behind) => (h :: before, found, behind)

/-- What becomes of a request. -/
def exchange (r : Request) (t : Testbed) : Except Failure Response × Testbed :=
  match r.address? with
  | none => (.error { mayPass := false }, t)
  | some u =>
    match if u.isSecure then none else findHost u.authority t.hosts with
    | none => (.error { mayPass := true }, t)
    | some (before, host, behind) =>
      let (reply, host') := takeReply host
      let t' := { t with
        hosts := before ++ host' :: behind
        received := t.received ++ [⟨host.name, u.target, r⟩] }
      match reply with
      | .answer response => (.ok response, t')
      | .hangUp => (.error { mayPass := false }, t')

/-- What an effect yields, and the testbed afterwards. Only pauses take time. -/
def perform : (e : Effect) → Testbed → e.Answer × Testbed
  | .exchange r, t => t.exchange r
  | .readFile path, t => ((t.files.entry path).content?, t)
  | .drawId, t => (t.freshId t.drawn, { t with drawn := t.drawn + 1 })
  | .sleep time, t => ((), { t with clock := t.clock.add time })

/-- Do some work on the testbed. -/
def run {α : Type} (w : Work α) (t : Testbed) : Option α × Testbed :=
  w.run perform t

end Testbed

end Http

end ClusterNet
