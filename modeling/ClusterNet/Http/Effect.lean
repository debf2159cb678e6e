import ClusterNet.ControlPlane.Error
import ClusterNet.Duration
import ClusterNet.Http.Message
import ClusterNet.Program

/-!
# What work over a network needs

## Main definitions

* `Http.Effect` — an exchange with a host, the content of a file, a fresh id, or a pause;
* `Http.Work` — programs that need these;
* `Work.exchange`, `Work.readFile`, `Work.drawId`, `Work.sleep` — one of each.
-/

namespace ClusterNet

namespace Http

/-- What work over a network needs of its surroundings. -/
inductive Effect where
  /-- Send a request and wait for the answer. -/
  | exchange (request : Request)
  /-- Read a file. -/
  | readFile (path : String)
  /-- Draw an id that was never drawn before. -/
  | drawId
  /-- Let time pass. -/
  | sleep (time : Duration)

/-- What an effect yields. A file that cannot be read yields nothing. -/
@[reducible] def Effect.Answer : Effect → Type
  | exchange _ => Except Failure Response
  | readFile _ => Option String
  | drawId => String
  | sleep _ => Unit

/-- The interface of work over a network. -/
@[reducible] def Effect.interface : Interface := ⟨Effect, Effect.Answer⟩

/-- Work over a network. -/
abbrev Work (α : Type) := Program Effect.interface α

namespace Work

/-- Send a request and wait for the answer. -/
def exchange (r : Request) : Work (Except Failure Response) :=
  Program.request (I := Effect.interface) (.exchange r)

/-- Read a file. -/
def readFile (path : String) : Work (Option String) :=
  Program.request (I := Effect.interface) (.readFile path)

/-- Draw an id. -/
def drawId : Work String := Program.request (I := Effect.interface) .drawId

/-- Let time pass. -/
def sleep (time : Duration) : Work Unit := Program.request (I := Effect.interface) (.sleep time)

end Work

/-- The error of an exchange that failed. -/
def Failure.error (f : Failure) : ControlPlane.ApiError := .http f.mayPass

end Http

end ClusterNet
