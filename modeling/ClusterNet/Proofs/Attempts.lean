import ClusterNet.Actuator.Effect
import ClusterNet.Proofs.Http.Client
import ClusterNet.Proofs.Retry
import Mathlib.Algebra.GroupWithZero.Nat

/-!
# How often something is attempted

Two things are attempted more than once: a request to a control plane, as long as it fails with an
error that may pass, and to publish a status, as long as someone else is faster. Both follow a
policy, and both are the same loop. So the outcomes that single attempts would have, one after the
other and without end, settle how many of them are made: as many as it takes to get an outcome that
is none to be tried again, but no more than the policy allows, and at least one. That outcome is the
result, and time passes between the attempts only.

What is attempted is the same each time. A request may go out with other headers than before, as
a client has to prove anew who it is.

## Main definitions

* `Duration.total` — spans of time, one after another
* `Http.Client.Tries` — what is asked for in one attempt at a request, and what comes of it
* `Http.pause?`, `Actuator.pause?` — the pauses in what is asked for

## Main results

* `Http.Client.tries_of_trace` — an attempt sends the request of its route, once at most
* `attempts_bounded` — how many attempts are made, and what they come to
-/

namespace ClusterNet

open ControlPlane (ApiError)
open Program

/-- The length of spans of time, one after another. -/
def Duration.total (times : List Duration) : ℕ := (times.map Duration.nanoseconds).sum

/-! ### Requests to a control plane -/

namespace Http

namespace Client

/-- One attempt at a request, by what is asked for and what comes of it. -/
inductive Tries (c : Client) (r : Route) : List Event → Except ApiError String → Prop
  /-- The client cannot prove who it is. -/
  | barred {proof : List Event} (hproof : ∀ e ∈ proof, ∃ authHost apiToken answer,
      e = exchanged (exchangeRequest authHost apiToken) answer) (e : ApiError) :
    Tries c r proof (.error e)
  /-- The request is sent. -/
  | sent {proof : List Event} (hproof : ∀ e ∈ proof, ∃ authHost apiToken answer,
      e = exchanged (exchangeRequest authHost apiToken) answer) {q : Request}
    (hverb : q.verb = r.verb) (hurl : q.url = c.base ++ r.path) (hquery : q.query = r.query)
    (hbody : q.body = (r.value.map Body.json).getD .empty) (answer : Except Failure Response) :
    Tries c r (proof ++ [exchanged q answer]) (outcome r answer)

variable {c : Client} {r : Route} {tokens : TokenCache} {es : List Event}

/-- An attempt sends the request of its route, once at most. -/
theorem tries_of_trace {result : Except ApiError String × TokenCache}
    (h : (c.attempt r tokens).Trace es result) : c.Tries r es result.1 := by
  cases attempted_of_trace h with
  | unauthorized hauth => exact .barred (authorize_cases hauth).1 _
  | unsendable hauth => exact .barred (authorize_cases hauth).1 _
  | sent answer hauth => exact .sent (authorize_cases hauth).1 rfl rfl rfl rfl answer

/-- There is no pause within an attempt. -/
theorem Tries.pauses {result : Except ApiError String} (h : c.Tries r es result) :
    es.filterMap pause? = [] := by
  have hnone : ∀ {proof : List Event}, (∀ e ∈ proof, ∃ authHost apiToken answer,
      e = exchanged (exchangeRequest authHost apiToken) answer) → proof.filterMap pause? = [] := by
    intro proof hproof
    refine List.filterMap_eq_nil_iff.mpr fun e he => ?_
    obtain ⟨authHost, apiToken, answer, rfl⟩ := hproof e he
    rfl
  cases h with
  | barred hproof => exact hnone hproof
  | sent hproof =>
    rw [List.filterMap_append, hnone hproof]
    rfl

end Client

end Http

/-! ### Statuses -/

namespace Actuator

/-- A pause. -/
abbrev paused (time : Duration) : Program.Event Effect.interface := ⟨.plane (.sleep time), ()⟩

/-- A status that was published, or not. -/
abbrev published (ns : String) (status : Status) (answer : Except PublishError Unit) :
    Program.Event Effect.interface :=
  ⟨.publish ns status, answer⟩

/-- The length of a pause. -/
def pause? : Program.Event Effect.interface → Option Duration
  | ⟨.plane (.sleep time), _⟩ => some time
  | _ => none

/-- One attempt to publish a status. -/
def publishOnce (ns : String) (status : Status) (u : Unit) :
    Work (Except PublishError Unit × Unit) := do
  return (← Work.publish ns status, u)

end Actuator

/-! ### Both -/

/-- **Attempts are bounded, and the outcome that decides is the result.** The outcomes that single
attempts would have are counted from zero. So if the last one that is made has the number `n`, there
are `n + 1` of them, and `n` pauses. -/
theorem attempts_bounded (p : RetryPolicy) :
    (∀ (c : Http.Client) (r : Http.Route) (events : ℕ → List Http.Event)
        (outcome : ℕ → Except ApiError String) (tokens : ℕ → Http.TokenCache), c.retry = p →
      (∀ i, (c.attempt r (tokens i)).Trace (events i) (outcome i, tokens (i + 1))) →
      ∃ n, p.IsLast ApiError.isTransient outcome n ∧
        (c.send r (tokens 0)).Trace (p.timeline Http.paused 0 n events)
          (outcome n, tokens (n + 1)) ∧
        (∀ i, c.Tries r (events i) (outcome i)) ∧
        Duration.total ((p.timeline Http.paused 0 n events).filterMap Http.pause?) =
          Duration.total ((List.range n).map p.delay)) ∧
    ∀ (ns : String) (status : Actuator.Status) (outcome : ℕ → Except Actuator.PublishError Unit),
      let events (i : ℕ) := [Actuator.published ns status (outcome i)]
      ∃ n, p.IsLast Actuator.PublishError.isConflict outcome n ∧
        (Actuator.publish Actuator.Work.publish Actuator.Work.sleep p ns status).Trace
          (p.timeline Actuator.paused 0 n events) (outcome n) ∧
        Duration.total ((p.timeline Actuator.paused 0 n events).filterMap Actuator.pause?) =
          Duration.total ((List.range n).map p.delay) := by
  constructor
  · rintro c r events outcome tokens rfl hmade
    have htries : ∀ i, c.Tries r (events i) (outcome i) := fun i =>
      Http.Client.tries_of_trace (hmade i)
    have hpause : ∀ time, (Http.Work.sleep time).Trace [Http.paused time] () := fun _ =>
      trace_request_iff.mpr rfl
    have hruns : ∃ n, c.retry.IsLast ApiError.isTransient outcome n ∧
        (c.send r (tokens 0)).Trace (c.retry.timeline Http.paused 0 n events)
          (outcome n, tokens (n + 1)) :=
      RetryPolicy.trace_attempt hpause hmade
    obtain ⟨n, hlast, htrace⟩ := hruns
    refine ⟨n, hlast, htrace, htries, ?_⟩
    rw [RetryPolicy.filterMap_timeline (fun _ => rfl) fun i _ => (htries i).pauses]
    simp only [Nat.zero_add]
  · intro ns status outcome events
    have hmade : ∀ i, (Actuator.publishOnce ns status ()).Trace (events i) (outcome i, ()) :=
      fun i => trace_bind_done_iff.mpr ⟨outcome i, trace_request_iff.mpr rfl, rfl⟩
    have hpause : ∀ time, (Actuator.Work.sleep time).Trace [Actuator.paused time] () := fun _ =>
      trace_request_iff.mpr rfl
    have hruns : ∃ n, p.IsLast Actuator.PublishError.isConflict outcome n ∧
        (p.attempt (Actuator.publishOnce ns status) Actuator.PublishError.isConflict
          Actuator.Work.sleep ()).Trace (p.timeline Actuator.paused 0 n events) (outcome n, ()) :=
      RetryPolicy.trace_attempt hpause hmade
    obtain ⟨n, hlast, htrace⟩ := hruns
    refine ⟨n, hlast, trace_bind_done_iff.mpr ⟨_, htrace, rfl⟩, ?_⟩
    rw [RetryPolicy.filterMap_timeline (fun _ => rfl) fun i _ => rfl]
    simp only [Nat.zero_add]

/-- A host that is busy at first is asked twice. -/
theorem attempts_bounded_busyHost :
    let c : Http.Client :=
      { base := "http://host", credentials := .basic "user" "secret", retry := {} }
    let r : Http.Route := { verb := .get, path := "/api/v1/logical-ports" }
    let q := c.request r
      [(Http.authorizationHeader, "Basic " ++ Http.userText "user" "secret")]
    (c.send r {}).Trace
      [Http.exchanged q (.ok ⟨503, ""⟩), Http.paused (c.retry.delay 0),
        Http.exchanged q (.ok ⟨200, "[]"⟩)] (.ok "[]", {}) := by
  intro c r q
  let answer : ℕ → Except Http.Failure Http.Response :=
    RetryPolicy.first (.ok ⟨503, ""⟩) fun _ => .ok ⟨200, "[]"⟩
  have hauth : (c.authorize {}).Trace [] (.ok q.headers, {}) := .done _
  have hheaders : Http.Client.sendable q.headers = true := by decide +kernel
  have hmade : ∀ i, (c.attempt r {}).Trace [Http.exchanged q (answer i)]
      (Http.Client.outcome r (answer i), {}) := by
    intro i
    cases i with
    | zero => exact (Http.Client.Attempted.sent (answer 0) hauth hheaders).trace
    | succ i => exact (Http.Client.Attempted.sent (answer (i + 1)) hauth hheaders).trace
  obtain ⟨n, hlast, htrace, -⟩ := (attempts_bounded c.retry).1 c r _ _ (fun _ => {}) rfl hmade
  have hsecond : n + 1 ≤ 2 := hlast.2 (.inr ⟨1, rfl, nofun⟩)
  have hfirst : n ≠ 0 := by
    rintro rfl
    rcases hlast.1 with hlimit | ⟨i, hi, hcounts⟩
    · exact nomatch hlimit
    · obtain rfl : i = 0 := (Nat.succ.inj hi).symm
      exact nomatch hcounts _ rfl
  obtain rfl : n = 1 := by omega
  exact htrace

end ClusterNet
