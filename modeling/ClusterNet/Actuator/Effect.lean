import ClusterNet.Actuator.Status
import ClusterNet.ControlPlane.Credentials
import ClusterNet.ControlPlane.Effect
import ClusterNet.ControlPlane.Generation

/-!
# What the actuator needs

## Main definitions

* `Actuator.Effect` — work on the control plane, a connection, a look at the shared object, or a
  status to publish;
* `Actuator.Work` — programs that need these;
* `Work.onPlane`, `Work.onStore` — work on the control plane and on the shared object as parts of
  the actuator's.
-/

namespace ClusterNet

namespace Actuator

open ControlPlane (ApiError ConnectorSettings Generation)

/-- What the actuator needs of its surroundings. -/
inductive Effect where
  /-- Do something with the control plane that it is connected to. -/
  | plane (effect : ControlPlane.Effect)
  /-- Connect to a control plane. -/
  | connect (settings : ConnectorSettings)
  /-- Do something with the shared object. -/
  | store (request : Store.Request)
  /-- Publish the status of a namespace. -/
  | publish (ns : String) (status : Status)

/-- What an effect yields. A connection yields the generation of the control plane. -/
@[reducible] def Effect.Answer : Effect → Type
  | plane e => e.Answer
  | connect _ => Except ApiError Generation
  | store r => Store.Answer r
  | publish _ _ => Except PublishError Unit

/-- The interface of the actuator's work. -/
@[reducible] def Effect.interface : Interface := ⟨Effect, Effect.Answer⟩

/-- Work of the actuator. -/
abbrev Work (α : Type) := Program Effect.interface α

namespace Work

variable {α : Type}

/-- Work on the control plane. -/
def onPlane (w : ControlPlane.Work α) : Work α :=
  w.translate fun e => Program.request (I := Effect.interface) (.plane e)

/-- Work on the shared object. -/
def onStore (w : Store.Work α) : Work α :=
  w.translate fun r => Program.request (I := Effect.interface) (.store r)

/-- Connect to a control plane. -/
def connect (settings : ConnectorSettings) : Work (Except ApiError Generation) :=
  Program.request (I := Effect.interface) (.connect settings)

/-- Publish a status, once. -/
def publish (ns : String) (status : Status) : Work (Except PublishError Unit) :=
  Program.request (I := Effect.interface) (.publish ns status)

/-- Let time pass. -/
def sleep (time : Duration) : Work Unit := onPlane (ControlPlane.Work.sleep time)

end Work

end Actuator

end ClusterNet
