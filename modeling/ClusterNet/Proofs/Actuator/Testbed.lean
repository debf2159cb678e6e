import ClusterNet.Actuator
import ClusterNet.Actuator.Testbed
import ClusterNet.Proofs.Retry
import ClusterNet.Proofs.Store.Memory

/-!
# Work of the actuator on a testbed

The actuator works on one part of its surroundings at a time, and such work leaves the other parts
as they were. Publishing a status works on none that anything else depends on.

## Main definitions

* `Testbed.Calm` — whether nothing has changed but what was published, and when

## Main results

* `Testbed.run_onPlane`, `Testbed.run_onStore` — work on a part is that work with the rest kept
* `Actuator.calm_of_announce` — publishing a status changes nothing else
-/

namespace ClusterNet

namespace Actuator

open ControlPlane (ApiError ConnectorSettings Generation)
open Program

namespace Testbed

variable {α : Type}

/-! ### Parts of the surroundings -/

/-- Work on the control plane is that work, with the rest kept. -/
theorem run_onPlane (w : ControlPlane.Work α) (t : Testbed) :
    t.run (Work.onPlane w) = ((t.bed.run w).1, { t with bed := (t.bed.run w).2 }) :=
  run_translate (fun t : Testbed => t.bed) (fun bed t => { t with bed }) (fun _ _ => rfl)
    (fun _ _ => rfl) (fun _ _ _ => rfl) (fun _ => rfl) w t

/-- Work on the shared object is that work, with the rest kept. -/
theorem run_onStore (w : Store.Work α) (t : Testbed) :
    t.run (Work.onStore w) =
      ((w.run Store.Memory.answer t.memory).1,
        { t with memory := (w.run Store.Memory.answer t.memory).2 }) :=
  run_translate (fun t : Testbed => t.memory) (fun memory t => { t with memory }) (fun _ _ => rfl)
    (fun _ _ => rfl) (fun _ _ _ => rfl) (fun _ => rfl) w t

/-! ### Publishing -/

/-- Whether nothing has changed but what was published, and when. -/
structure Calm (t t' : Testbed) : Prop where
  /-- The control plane is as it was. -/
  plane : t'.bed.plane = t.bed.plane
  /-- So are the answers that replace its own. -/
  queued : t'.bed.queued = t.bed.queued
  /-- So is its generation. -/
  generation : t'.generation = t.generation
  /-- So is the shared object. -/
  memory : t'.memory = t.memory
  /-- So is what connections meet. -/
  connectError : t'.connectError = t.connectError

theorem Calm.refl (t : Testbed) : Calm t t := ⟨rfl, rfl, rfl, rfl, rfl⟩

theorem Calm.trans {t t' t'' : Testbed} (h : Calm t t') (h' : Calm t' t'') : Calm t t'' where
  plane := h'.plane.trans h.plane
  queued := h'.queued.trans h.queued
  generation := h'.generation.trans h.generation
  memory := h'.memory.trans h.memory
  connectError := h'.connectError.trans h.connectError

/-- Whether an effect is a publication or a pause. -/
def IsCalm : Effect → Prop
  | .publish _ _ | .plane (.sleep _) => True
  | .plane (.call _) | .plane .drawId | .connect _ | .store _ => False

theorem calm_perform {e : Effect} (h : IsCalm e) (t : Testbed) : Calm t (perform e t).2 := by
  match e with
  | .publish ns status =>
    rw [perform]
    split <;> exact ⟨rfl, rfl, rfl, rfl, rfl⟩
  | .plane (.sleep time) => exact ⟨rfl, rfl, rfl, rfl, rfl⟩
  | .plane (.call _) | .plane .drawId | .connect _ | .store _ => cases h

end Testbed

/-- Publishing a status is nothing but publications and pauses. -/
theorem isCalm_of_trace_announce {s : Settings} {ns : String} {status : Status}
    {es : List (Program.Event Effect.interface)} {result : Except ActuatorError Status}
    (h : (announce s ns status).Trace es result) : ∀ e ∈ es, Testbed.IsCalm e.1 := by
  rw [announce, bind_eq, trace_bind_iff] at h
  obtain ⟨es₁, es₂, published, rfl, h₁, h₂⟩ := h
  have hrest : es₂ = [] := by
    cases published with
    | error e => exact (trace_done_iff.mp h₂).1
    | ok u => exact (trace_done_iff.mp h₂).1
  rw [hrest, List.append_nil]
  obtain ⟨left, h₃, -⟩ := trace_bind_done_iff.mp h₁
  refine RetryPolicy.trace_attemptFrom_forall (fun u es left h e hmem => ?_)
    (fun time es u h e hmem => ?_) h₃
  · obtain ⟨answer, h', -⟩ := trace_bind_done_iff.mp h
    rw [trace_request_iff.mp h'] at hmem
    rw [List.mem_singleton.mp hmem]
    trivial
  · rw [trace_request_iff.mp h] at hmem
    rw [List.mem_singleton.mp hmem]
    trivial

/-- **Publishing a status changes nothing else.** -/
theorem calm_of_announce {s : Settings} {ns : String} {status : Status} {t t' : Testbed}
    {result : Except ActuatorError Status}
    (h : t.run (announce s ns status) = (some result, t')) : Testbed.Calm t t' := by
  obtain ⟨es, htrace, hreplies⟩ := run_eq_some_iff.mp h
  exact hreplies.invariant Testbed.Calm.refl (fun h h' => h.trans h')
    fun e hmem t => Testbed.calm_perform (isCalm_of_trace_announce htrace e hmem) t

end Actuator

end ClusterNet
