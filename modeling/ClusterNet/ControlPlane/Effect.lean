import ClusterNet.ControlPlane.Request
import ClusterNet.Duration

/-!
# What work on a control plane needs

## Main definitions

* `ControlPlane.Effect` — a request, a fresh id, or a pause;
* `ControlPlane.Work` — programs that need these;
* `Work.call`, `Work.drawId`, `Work.sleep` — one of each.
-/

namespace ClusterNet

namespace ControlPlane

/-- What work on a control plane needs of its surroundings. -/
inductive Effect where
  /-- Make a request. -/
  | call (request : Request)
  /-- Draw an id that was never drawn before. -/
  | drawId
  /-- Let time pass. -/
  | sleep (time : Duration)

/-- What an effect yields. -/
@[reducible] def Effect.Answer : Effect → Type
  | call r => ControlPlane.Answer r
  | drawId => String
  | sleep _ => Unit

/-- The interface of work on a control plane. -/
@[reducible] def Effect.interface : Interface := ⟨Effect, Effect.Answer⟩

/-- Work on a control plane. -/
abbrev Work (α : Type) := Program Effect.interface α

namespace Work

/-- Make a request. -/
def call (r : Request) : Work (Answer r) :=
  Program.request (I := Effect.interface) (.call r)

/-- Draw an id. -/
def drawId : Work String := Program.request (I := Effect.interface) .drawId

/-- Let time pass. -/
def sleep (time : Duration) : Work Unit := Program.request (I := Effect.interface) (.sleep time)

end Work

end ControlPlane

end ClusterNet
