import ClusterNet.ControlPlane.Effect
import ClusterNet.ControlPlane.Simulator

/-!
# A testbed for work on a control plane

A simulated control plane with a clock of its own, whose answers can be replaced: an answer queued
for a method is given to its next call, which then does not reach the control plane.

## Main definitions

* `ControlPlane.Testbed` — the control plane, the queued answers and the clock;
* `ControlPlane.Testbed.perform` — what an effect yields on it.
-/

namespace ClusterNet

namespace ControlPlane

/-- An answer for a method. -/
abbrev QueuedAnswer := (m : Method) × Except ApiError m.Response

/-- The first queued answer for a method, and the others. -/
def takeQueued (m : Method) :
    List QueuedAnswer → Option (Except ApiError m.Response × List QueuedAnswer)
  | [] => none
  | ⟨m', a⟩ :: rest =>
    if h : m' = m then some (h ▸ a, rest)
    else (takeQueued m rest).map fun (a', rest) => (a', ⟨m', a⟩ :: rest)

/-- A control plane to work on. -/
structure Testbed where
  /-- The control plane. -/
  plane : Simulator
  /-- The answers that replace those of the control plane. -/
  queued : List QueuedAnswer := []
  /-- The time that has passed. -/
  clock : Duration := .zero

namespace Testbed

/-- The answer to a request. -/
def answer (r : Request) (t : Testbed) : Answer r × Testbed :=
  match takeQueued r.method t.queued with
  | some (a, rest) => (a, { t with queued := rest })
  | none =>
    let (a, plane) := t.plane.answer r
    (a, { t with plane })

/-- What an effect yields, and the testbed afterwards. Only pauses take time. -/
def perform : (e : Effect) → Testbed → e.Answer × Testbed
  | .call r, t => t.answer r
  | .drawId, t =>
    let (id, plane) := t.plane.drawId
    (id, { t with plane })
  | .sleep time, t => ((), { t with clock := t.clock.add time })

/-- Put an answer behind those that are queued. -/
def enqueue (t : Testbed) (a : QueuedAnswer) : Testbed := { t with queued := t.queued ++ [a] }

/-- Do some work on the testbed. -/
def run {α : Type} (w : Work α) (t : Testbed) : Option α × Testbed :=
  w.run perform t

end Testbed

end ControlPlane

end ClusterNet
