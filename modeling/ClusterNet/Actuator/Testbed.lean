import ClusterNet.Actuator.Effect
import ClusterNet.ControlPlane.Testbed
import ClusterNet.Store.Memory

/-!
# A testbed for the actuator

A simulated control plane, the shared object in memory, and a publisher that answers as it is
told.

## Main definitions

* `Actuator.Testbed` — the surroundings, and what was asked of them;
* `Actuator.Testbed.perform` — what an effect yields on it.
-/

namespace ClusterNet

namespace Actuator

open ControlPlane (ApiError ConnectorSettings Generation)

/-- What the publisher answers. -/
inductive PublisherReply where
  /-- It takes the status. -/
  | accept
  /-- It refuses the status. -/
  | refuse (reason : PublishError)
deriving DecidableEq, Repr, Inhabited

/-- The surroundings of an actuator, and what was asked of them. -/
structure Testbed where
  /-- The control plane. -/
  bed : ControlPlane.Testbed
  /-- Its generation. -/
  generation : Generation
  /-- The shared object. -/
  memory : Store.Memory := {}
  /-- The error that every connection meets, if there is one. -/
  connectError : Option ApiError := none
  /-- What the publisher answers. It takes everything behind the last answer. -/
  script : List PublisherReply := []
  /-- The connections that were asked for. -/
  connects : List ConnectorSettings := []
  /-- How often something was to be published. -/
  publishAttempts : Nat := 0
  /-- What was published. -/
  published : List (String × Status) := []

namespace Testbed

/-- What the publisher answers next. -/
def reply (t : Testbed) : PublisherReply := t.script.headD .accept

/-- What an effect yields, and the testbed afterwards. -/
def perform : (e : Effect) → Testbed → e.Answer × Testbed
  | .plane e, t =>
    let (a, bed) := t.bed.perform e
    (a, { t with bed })
  | .connect settings, t =>
    let result := match t.connectError with
      | some e => .error e
      | none => .ok t.generation
    (result, { t with connects := t.connects ++ [settings] })
  | .store r, t =>
    let (a, memory) := t.memory.answer r
    (a, { t with memory })
  | .publish ns status, t =>
    let t' := { t with script := t.script.tail, publishAttempts := t.publishAttempts + 1 }
    match t.reply with
    | .accept => (.ok (), { t' with published := t.published ++ [(ns, status)] })
    | .refuse reason => (.error reason, t')

/-- Do some work on the testbed. -/
def run {α : Type} (w : Work α) (t : Testbed) : Option α × Testbed :=
  w.run perform t

end Testbed

end Actuator

end ClusterNet
