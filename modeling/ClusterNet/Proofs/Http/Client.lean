import ClusterNet.Http.Client
import ClusterNet.Proofs.Retry

/-!
# What a client asks for

A request to a control plane is sent once or several times, each time behind what is needed to prove
who sends it. Whatever the hosts answer, that comes to an end. What it comes to is decided by the
last answer: the answers before it were errors that may pass, and where a client cannot prove who it
is, there is no answer at all.

So it is the last answer that says whether an object is missing. Only two answers say so, and
neither is a rejection. Behind them the client still has what it needs to be accepted, and so the
next request is really sent.

## Main definitions

* `Http.Client.Attempted` — the ways in which one attempt can go
* `Http.Client.Sends` — what is asked for to send a request
* `Http.Response.SaysMissing` — the answers that say that an object does not exist
* `Http.SaysMissing` — what a run has read last says that the object does not exist
* `Http.Client.Ready` — tokens by which a client can prove who it is without asking for another one

## Main results

* `Http.isMissing_outcome_iff` — which answers mean that an object is missing
* `Http.Client.sends_of_trace` — nothing else is asked for
* `Http.Client.isMissing_call_iff` — the last answer decides
* `Http.Client.exists_sent` — a client that is ready sends its request
* `Http.Client.ends_carryOut` — work over a network comes to an end
-/

namespace ClusterNet

namespace Http

open ControlPlane (ApiError)
open Program

/-- What work over a network asked for, with the answer. -/
abbrev Event := Program.Event Effect.interface

/-- A request to a host with its answer. -/
abbrev exchanged (r : Request) (answer : Except Failure Response) : Event := ⟨.exchange r, answer⟩

/-- An id that was drawn. -/
abbrev drawn (id : String) : Event := ⟨.drawId, id⟩

/-- A pause. -/
abbrev paused (time : Duration) : Event := ⟨.sleep time, ()⟩

/-- The length of a pause. -/
def pause? : Event → Option Duration
  | ⟨.sleep time, _⟩ => some time
  | _ => none

variable {c : Client} {r : Route} {tokens tokens' : TokenCache} {es : List Event}
  {headers : List (String × String)}

/-! ### Answers that say that an object is missing -/

/-- An answer that says that the object does not exist: by its status, or by the code in the reason
that it gives for refusing the request. -/
def Response.SaysMissing (a : Response) : Prop :=
  a.status = 404 ∨ a.status = 400 ∧ ∃ refusal, Refusal.ofBody? a.body = some refusal ∧
    (refusal.code = some 202 ∨ refusal.code = some 600 ∨ refusal.code = some 500012)

/-- Whether an outcome is that the object does not exist. -/
def IsMissing {α : Type} (outcome : Except ApiError α) : Prop :=
  ∃ e, outcome = .error e ∧ e.isNotFound = true

theorem not_isMissing_ok {α : Type} (a : α) : ¬ IsMissing (.ok a) := nofun

theorem isMissing_error_iff {α : Type} {e : ApiError} :
    IsMissing (.error e : Except ApiError α) ↔ e.isNotFound = true :=
  ⟨fun ⟨_, h, he⟩ => Except.error.inj h ▸ he, fun h => ⟨e, rfl, h⟩⟩

/-- The codes that count are those that are looked for. -/
theorem any_missingCodes_iff {code : Option Int64} :
    code.any missingCodes.contains = true ↔
      code = some 202 ∨ code = some 600 ∨ code = some 500012 := by
  cases code with
  | none => simp
  | some code => simp [missingCodes]

theorem isMissing_errorOf_iff {a : Response} {what : String} :
    (errorOf a.status a.body what).isNotFound = true ↔ a.SaysMissing := by
  rw [errorOf, Response.SaysMissing]
  have hcode : ((Refusal.ofBody? a.body).bind Refusal.code).any missingCodes.contains = true ↔
      ∃ refusal, Refusal.ofBody? a.body = some refusal ∧
        (refusal.code = some 202 ∨ refusal.code = some 600 ∨ refusal.code = some 500012) := by
    cases Refusal.ofBody? a.body with
    | none => simp
    | some refusal => simp [any_missingCodes_iff]
  rw [← hcode]
  cases hmissing : isMissing a.status ((Refusal.ofBody? a.body).bind Refusal.code) with
  | true =>
    simp only [isMissing, Bool.or_eq_true, Bool.and_eq_true, beq_iff_eq] at hmissing
    exact ⟨fun _ => hmissing, fun _ => rfl⟩
  | false =>
    refine ⟨nofun, fun h => ?_⟩
    refine absurd ?_ (Bool.eq_false_iff.mp hmissing)
    simpa only [isMissing, Bool.or_eq_true, Bool.and_eq_true, beq_iff_eq] using h

/-- An answer that says that the object is missing is neither a rejection nor a success. -/
theorem Response.SaysMissing.refuses {a : Response} (h : a.SaysMissing) :
    a.isRejection = false ∧ a.isSuccess = false := by
  rcases h with hstatus | ⟨hstatus, -⟩ <;>
    exact ⟨by rw [isRejection, hstatus]; rfl, by rw [isSuccess, hstatus]; rfl⟩

/-- **Which answers mean that the object is missing.** -/
theorem isMissing_outcome_iff {answer : Except Failure Response} :
    IsMissing (Client.outcome r answer) ↔ ∃ a, answer = .ok a ∧ a.SaysMissing := by
  cases answer with
  | error f =>
    refine ⟨fun h => ?_, fun ⟨_, h, _⟩ => nomatch h⟩
    exact nomatch isMissing_error_iff.mp h
  | ok a =>
    have hsame : (∃ a', Except.ok (ε := Failure) a = .ok a' ∧ a'.SaysMissing) ↔ a.SaysMissing :=
      ⟨fun ⟨_, h, ha⟩ => Except.ok.inj h ▸ ha, fun h => ⟨a, rfl, h⟩⟩
    rw [hsame, Client.outcome]
    split
    · next hrejection =>
      refine ⟨fun h => ?_, fun h => ?_⟩
      · exact nomatch isMissing_error_iff.mp h
      · exact nomatch hrejection.symm.trans h.refuses.1
    · split
      · next hsuccess =>
        refine ⟨fun h => absurd h (not_isMissing_ok _), fun h => ?_⟩
        exact nomatch hsuccess.symm.trans h.refuses.2
      · exact isMissing_error_iff.trans isMissing_errorOf_iff

/-- A body is not read as an object that is missing. -/
theorem isMissing_readBody_iff {m : ControlPlane.Method} {body : Except ApiError String} :
    IsMissing (body.bind (readBody m)) ↔ IsMissing body := by
  have hdecode : ∀ {α : Type} (codec : Codec α) (text : String),
      ¬ IsMissing (decodeBody codec text) := by
    intro α codec text
    rw [decodeBody]
    split
    · exact not_isMissing_ok _
    · exact fun h => nomatch isMissing_error_iff.mp h
  cases body with
  | error e => exact isMissing_error_iff.trans isMissing_error_iff.symm
  | ok text =>
    refine ⟨fun h => absurd h ?_, fun h => absurd h (not_isMissing_ok _)⟩
    cases m with
    | patch | delete | deleteBalancer => exact not_isMissing_ok _
    | _ => exact hdecode _ text

/-! ### Proving who asks -/

namespace Client

/-- What is asked for to prove who sends a request: a token, if that. Where there is none, the
client could not be authenticated. Where there is one, it is kept, and is not asked for again. -/
theorem authorize_cases {left : Except ApiError (List (String × String)) × TokenCache}
    (h : (c.authorize tokens).Trace es left) :
    (∀ e ∈ es, ∃ authHost apiToken answer,
      e = exchanged (exchangeRequest authHost apiToken) answer) ∧
    ((∃ reason, left.1 = .error (.authenticationFailed reason)) ∨
      ∃ headers, left.1 = .ok headers ∧ c.authorize left.2 = .done (.ok headers, left.2)) := by
  have hkept : ∀ {headers}, c.authorize tokens = .done (.ok headers, tokens) →
      es = [] ∧ left = (.ok headers, tokens) := by
    intro headers hdone
    rw [hdone] at h
    exact trace_done_iff.mp h
  cases hcredentials : c.credentials with
  | basic username password =>
    have hdone := authorize.eq_1 c tokens
    rw [hcredentials] at hdone
    obtain ⟨rfl, rfl⟩ := hkept hdone
    exact ⟨nofun, .inr ⟨_, rfl, hdone⟩⟩
  | remote username password =>
    have hdone := authorize.eq_1 c tokens
    rw [hcredentials] at hdone
    obtain ⟨rfl, rfl⟩ := hkept hdone
    exact ⟨nofun, .inr ⟨_, rfl, hdone⟩⟩
  | apiToken authHost apiToken =>
    have hauthorize : ∀ tokens, c.authorize tokens = (tokens.accessToken authHost apiToken).bind
        fun left => .done (left.1.map fun token => [(tokenHeader, token)], left.2) := by
      intro tokens
      rw [authorize, hcredentials]
    have hready : ∀ {tokens token}, tokens.find? authHost apiToken = some token →
        c.authorize tokens = .done (.ok [(tokenHeader, token)], tokens) := by
      intro tokens token hfind
      rw [hauthorize, TokenCache.accessToken, hfind]
      rfl
    cases hfind : tokens.find? authHost apiToken with
    | some token =>
      obtain ⟨rfl, rfl⟩ := hkept (hready hfind)
      exact ⟨nofun, .inr ⟨_, rfl, hready hfind⟩⟩
    | none =>
      rw [hauthorize, trace_bind_done_iff, TokenCache.accessToken, hfind] at h
      obtain ⟨issued, htrace, rfl⟩ := h
      obtain ⟨es₁, es₂, result, rfl, h₁, h₂⟩ := trace_bind_iff.mp htrace
      obtain ⟨answer, es₃, rfl, h₃⟩ := trace_request_bind_iff.mp h₁
      have hes : es₃ = [] := (trace_done_iff.mp h₃).1
      have hes' : es₂ = [] := by cases result <;> exact (trace_done_iff.mp h₂).1
      subst hes hes'
      refine ⟨fun e he => ⟨authHost, apiToken, answer, List.mem_singleton.mp he⟩, ?_⟩
      cases result with
      | error e =>
        obtain ⟨-, rfl⟩ := trace_done_iff.mp h₂
        exact .inl ⟨_, rfl⟩
      | ok token =>
        obtain ⟨-, rfl⟩ := trace_done_iff.mp h₂
        exact .inr ⟨_, rfl, hready (TokenCache.find?_keep_self ..)⟩

theorem ends_authorize (c : Client) (tokens : TokenCache) : (c.authorize tokens).Ends := by
  rw [authorize]
  split
  · exact .done _
  · exact .done _
  · refine Ends.bind ?_ fun _ => .done _
    rw [TokenCache.accessToken]
    split
    · exact .done _
    · refine Ends.bind ((ends_request _).bind fun _ => .done _) fun issue => ?_
      cases issue <;> exact .done _

/-- Whether headers can be sent. -/
def sendable (headers : List (String × String)) : Bool := headers.all fun h => isHeaderValue h.2

/-- Tokens by which a client can prove who it is without asking for another one. -/
def Ready (c : Client) (tokens : TokenCache) : Prop :=
  ∃ headers, c.authorize tokens = .done (.ok headers, tokens) ∧ sendable headers = true

/-! ### One attempt -/

/-- The ways in which one attempt can go: what is asked for, and what it comes to. -/
inductive Attempted (c : Client) (r : Route) (tokens : TokenCache) :
    List Event → Except ApiError String × TokenCache → Prop
  /-- The client cannot prove who it is. -/
  | unauthorized {es : List Event} {reason : String} {tokens' : TokenCache}
    (hauth : (c.authorize tokens).Trace es (.error (.authenticationFailed reason), tokens')) :
    Attempted c r tokens es (.error (.authenticationFailed reason), tokens')
  /-- What proves it cannot be sent. -/
  | unsendable {es : List Event} {headers : List (String × String)} {tokens' : TokenCache}
    (hauth : (c.authorize tokens).Trace es (.ok headers, tokens'))
    (hheaders : sendable headers = false) :
    Attempted c r tokens es (.error (.http false), tokens')
  /-- The request was sent. -/
  | sent {es : List Event} {headers : List (String × String)} {tokens' : TokenCache}
    (answer : Except Failure Response)
    (hauth : (c.authorize tokens).Trace es (.ok headers, tokens'))
    (hheaders : sendable headers = true) :
    Attempted c r tokens (es ++ [exchanged (c.request r headers) answer])
      (outcome r answer, c.tokensAfter tokens' answer)

theorem attempted_of_trace {result : Except ApiError String × TokenCache}
    (h : (c.attempt r tokens).Trace es result) : Attempted c r tokens es result := by
  obtain ⟨es₁, es₂, ⟨headers?, tokens'⟩, rfl, h₁, h₂⟩ := trace_bind_iff.mp h
  rcases (authorize_cases h₁).2 with ⟨reason, rfl⟩ | ⟨headers, rfl, -⟩
  · obtain ⟨rfl, rfl⟩ := trace_done_iff.mp h₂
    rw [List.append_nil]
    exact .unauthorized h₁
  · dsimp only at h₂
    split at h₂
    · next hheaders =>
      obtain ⟨answer, es₃, rfl, h₃⟩ := trace_request_bind_iff.mp h₂
      obtain ⟨rfl, rfl⟩ := trace_done_iff.mp h₃
      exact .sent answer h₁ hheaders
    · next hheaders =>
      obtain ⟨rfl, rfl⟩ := trace_done_iff.mp h₂
      rw [List.append_nil]
      exact .unsendable h₁ (Bool.eq_false_iff.mpr hheaders)

/-- An attempt can go in all of these ways. -/
theorem Attempted.trace {result : Except ApiError String × TokenCache}
    (h : Attempted c r tokens es result) : (c.attempt r tokens).Trace es result := by
  cases h with
  | unauthorized hauth =>
    exact trace_bind_iff.mpr ⟨es, [], _, (List.append_nil es).symm, hauth, .done _⟩
  | unsendable hauth hheaders =>
    refine trace_bind_iff.mpr ⟨es, [], _, (List.append_nil es).symm, hauth, ?_⟩
    rw [sendable] at hheaders
    dsimp only
    rw [if_neg (Bool.eq_false_iff.mp hheaders)]
    exact .done _
  | sent answer hauth hheaders =>
    refine trace_bind_iff.mpr ⟨_, _, _, rfl, hauth, ?_⟩
    rw [sendable] at hheaders
    dsimp only
    rw [if_pos hheaders]
    exact trace_request_bind_iff.mpr ⟨answer, [], rfl, .done _⟩

theorem ends_attempt (c : Client) (r : Route) (tokens : TokenCache) :
    (c.attempt r tokens).Ends := by
  refine (ends_authorize c tokens).bind fun left => ?_
  rcases left with ⟨e | headers, tokens'⟩
  · exact .done _
  · dsimp only
    split
    · exact (ends_request _).bind fun _ => .done _
    · exact .done _

/-- What a client asks for to send a request on a route. -/
inductive Sends (c : Client) (r : Route) : Event → Prop
  /-- A token that proves who it is. -/
  | token (authHost apiToken : String) (answer : Except Failure Response) :
    Sends c r (exchanged (exchangeRequest authHost apiToken) answer)
  /-- The request. -/
  | request (headers : List (String × String)) (answer : Except Failure Response) :
    Sends c r (exchanged (c.request r headers) answer)
  /-- A pause before the next attempt. -/
  | pause (time : Duration) : Sends c r ⟨.sleep time, ()⟩

theorem sends_of_authorize {left : Except ApiError (List (String × String)) × TokenCache}
    (h : (c.authorize tokens).Trace es left) : ∀ e ∈ es, c.Sends r e := by
  intro e he
  obtain ⟨authHost, apiToken, answer, rfl⟩ := (authorize_cases h).1 e he
  exact .token authHost apiToken answer

theorem Attempted.sends {result : Except ApiError String × TokenCache}
    (h : Attempted c r tokens es result) : ∀ e ∈ es, c.Sends r e := by
  cases h with
  | unauthorized hauth => exact sends_of_authorize hauth
  | unsendable hauth => exact sends_of_authorize hauth
  | @sent _ headers _ answer hauth _ =>
    intro e he
    rcases List.mem_append.mp he with he | he
    · exact sends_of_authorize hauth e he
    · rw [List.mem_singleton.mp he]
      exact .request headers answer

/-- A client asks for nothing but what it takes to send its request. -/
theorem sends_of_trace {result : Except ApiError String × TokenCache}
    (h : (c.send r tokens).Trace es result) : ∀ e ∈ es, c.Sends r e := by
  refine RetryPolicy.trace_attemptFrom_forall (fun _ _ _ h => (attempted_of_trace h).sends) ?_ h
  intro time es u hpause e he
  rw [trace_request_iff.mp hpause] at he
  rw [List.mem_singleton.mp he]
  exact .pause time

end Client

/-! ### What was read -/

/-- The answer to a request that only reads. -/
def readAnswer? : Event → Option (Except Failure Response)
  | ⟨.exchange r, answer⟩ => if r.verb = .get then some answer else none
  | _ => none

/-- The answers to the requests that only read. -/
def readAnswers (es : List Event) : List (Except Failure Response) := es.filterMap readAnswer?

/-- What was read last says that the object does not exist. -/
def SaysMissing (es : List Event) : Prop :=
  ∃ a, (readAnswers es).getLast? = some (.ok a) ∧ a.SaysMissing

theorem readAnswers_append (es es' : List Event) :
    readAnswers (es ++ es') = readAnswers es ++ readAnswers es' :=
  List.filterMap_append

/-- Where no answer was read, nothing was read. -/
theorem verb_of_readAnswers {request : Request} {answer : Except Failure Response}
    (h : readAnswers es = []) (hmem : exchanged request answer ∈ es) : request.verb ≠ .get := by
  intro hverb
  have hread : readAnswer? (exchanged request answer) = some answer := if_pos hverb
  exact nomatch hread.symm.trans (List.filterMap_eq_nil_iff.mp h _ hmem)

/-- Nothing is read to prove who asks. -/
theorem readAnswers_of_authorize {left : Except ApiError (List (String × String)) × TokenCache}
    (h : (c.authorize tokens).Trace es left) : readAnswers es = [] := by
  refine List.filterMap_eq_nil_iff.mpr fun e he => ?_
  obtain ⟨authHost, apiToken, answer, rfl⟩ := (Client.authorize_cases h).1 e he
  rfl

/-- Nothing is read by requests that do something else. -/
theorem readAnswers_of_sends (h : ∀ e ∈ es, c.Sends r e) (hverb : r.verb ≠ .get) :
    readAnswers es = [] := by
  refine List.filterMap_eq_nil_iff.mpr fun e he => ?_
  cases h e he with
  | token => rfl
  | request => exact if_neg hverb
  | pause => rfl

/-- What was read before something that reads nothing is what was read last. -/
theorem saysMissing_append_iff {es' : List Event} (h : readAnswers es' = []) :
    SaysMissing (es ++ es') ↔ SaysMissing es := by
  rw [SaysMissing, readAnswers_append, h, List.append_nil, SaysMissing]

namespace Client

/-- What an attempt to read has read, and what it makes of it. -/
theorem Attempted.reads {result : Except ApiError String × TokenCache}
    (h : Attempted c r tokens es result) (hverb : r.verb = .get) :
    (readAnswers es = [] ∧ ¬ IsMissing result.1) ∨
      ∃ answer, readAnswers es = [answer] ∧ result.1 = outcome r answer := by
  cases h with
  | unauthorized hauth =>
    exact .inl ⟨readAnswers_of_authorize hauth, fun h => nomatch isMissing_error_iff.mp h⟩
  | unsendable hauth =>
    exact .inl ⟨readAnswers_of_authorize hauth, fun h => nomatch isMissing_error_iff.mp h⟩
  | @sent _ headers _ answer hauth =>
    refine .inr ⟨answer, ?_, rfl⟩
    have hread : readAnswer? (exchanged (c.request r headers) answer) = some answer := if_pos hverb
    rw [readAnswers_append, readAnswers_of_authorize hauth, List.nil_append, readAnswers,
      List.filterMap_cons_some hread, List.filterMap_nil]

/-- An attempt that failed with an error that may pass has not found the object missing. -/
theorem Attempted.not_saysMissing {e : ApiError} {a : Response}
    (h : Attempted c r tokens es (.error e, tokens')) (hverb : r.verb = .get)
    (hpass : e.isTransient = true) (ha : .ok a ∈ readAnswers es) : ¬ a.SaysMissing := by
  intro hmissing
  rcases h.reads hverb with ⟨hnone, -⟩ | ⟨answer, hone, houtcome⟩
  · rw [hnone] at ha
    exact absurd ha List.not_mem_nil
  · rw [hone] at ha
    have hmissing : IsMissing (outcome r answer) :=
      isMissing_outcome_iff.mpr ⟨a, (List.mem_singleton.mp ha).symm, hmissing⟩
    rw [← houtcome, isMissing_error_iff] at hmissing
    obtain ⟨what, rfl⟩ := ApiError.isNotFound_iff.mp hmissing
    exact nomatch hpass

/-- A client that finds an object missing has been accepted. -/
theorem Attempted.ready {result : Except ApiError String × TokenCache}
    (h : Attempted c r tokens es result) (hmissing : IsMissing result.1) : c.Ready result.2 := by
  cases h with
  | unauthorized hauth => exact nomatch isMissing_error_iff.mp hmissing
  | unsendable hauth => exact nomatch isMissing_error_iff.mp hmissing
  | sent answer hauth hheaders =>
    obtain ⟨a, rfl, ha⟩ := isMissing_outcome_iff.mp hmissing
    rcases (authorize_cases hauth).2 with ⟨reason, hfailed⟩ | ⟨headers', hok, hagain⟩
    · exact nomatch hfailed
    · cases hok
      dsimp only [tokensAfter]
      rw [ha.refuses.1]
      exact ⟨_, hagain, hheaders⟩

/-- **The last answer decides** whether an object is missing. The answers before it were errors that
may pass. -/
theorem isMissing_send_iff {result : Except ApiError String × TokenCache} (hverb : r.verb = .get)
    (h : (c.send r tokens).Trace es result) : IsMissing result.1 ↔ SaysMissing es := by
  obtain ⟨es₁, es₂, tokens₁, rfl, hlast, hearlier⟩ := RetryPolicy.trace_attemptFrom_last h
  have hpassed : ∀ a, .ok a ∈ readAnswers es₁ → ¬ a.SaysMissing := by
    intro a hmem hmissing
    obtain ⟨e, he, hread⟩ := List.mem_filterMap.mp hmem
    rcases hearlier e he with ⟨time, es', u, hpause, hmem⟩ | ⟨s, es', err, s', hes, hpass, hmem⟩
    · rw [trace_request_iff.mp hpause] at hmem
      rw [List.mem_singleton.mp hmem] at hread
      exact nomatch hread
    · exact (attempted_of_trace hes).not_saysMissing hverb hpass
        (List.mem_filterMap.mpr ⟨e, hmem, hread⟩) hmissing
  rcases (attempted_of_trace hlast).reads hverb with ⟨hnone, hnot⟩ | ⟨answer, hone, houtcome⟩
  · rw [saysMissing_append_iff hnone]
    refine iff_of_false hnot ?_
    rintro ⟨a, ha, hmissing⟩
    exact hpassed a (List.mem_of_getLast? ha) hmissing
  · rw [houtcome, isMissing_outcome_iff, SaysMissing, readAnswers_append, hone,
      List.getLast?_append]
    simp

/-- A client that is ready sends its request. -/
theorem exists_sent {result : Except ApiError String × TokenCache} (hready : c.Ready tokens)
    (h : (c.send r tokens).Trace es result) :
    ∃ headers answer, exchanged (c.request r headers) answer ∈ es := by
  obtain ⟨headers, hdone, hheaders⟩ := hready
  obtain ⟨es₁, es₂, outcome, rfl, hfirst⟩ := RetryPolicy.trace_attemptFrom_first h
  cases attempted_of_trace hfirst with
  | unauthorized hauth =>
    rw [hdone] at hauth
    exact nomatch (trace_done_iff.mp hauth).2
  | unsendable hauth hnot =>
    rw [hdone] at hauth
    cases (trace_done_iff.mp hauth).2
    exact nomatch hheaders.symm.trans hnot
  | @sent es₃ headers' _ answer =>
    refine ⟨headers', answer, ?_⟩
    exact List.mem_append_left _ (List.mem_append_right _ (List.mem_singleton_self _))

/-! ### Requests to a control plane -/

variable {q : ControlPlane.Request} {answer : ControlPlane.Answer q}

theorem trace_call_iff : (c.call q tokens).Trace es (answer, tokens') ↔
    ∃ body, (c.send (route q) tokens).Trace es (body, tokens') ∧
      answer = body.bind (readBody q.method) := by
  rw [call, trace_bind_done_iff]
  constructor
  · rintro ⟨⟨body, tokens₁⟩, htrace, hleft⟩
    obtain ⟨rfl, rfl⟩ := Prod.mk.inj hleft
    exact ⟨body, htrace, rfl⟩
  · rintro ⟨body, htrace, rfl⟩
    exact ⟨(body, tokens'), htrace, rfl⟩

/-- A read comes to a missing object exactly if that is what was read last, and then the client is
ready for the next request. -/
theorem isMissing_call_iff (hverb : (route q).verb = .get)
    (h : (c.call q tokens).Trace es (answer, tokens')) : IsMissing answer ↔ SaysMissing es := by
  obtain ⟨body, hsend, rfl⟩ := trace_call_iff.mp h
  rw [isMissing_readBody_iff, isMissing_send_iff hverb hsend]

theorem ready_of_isMissing (h : (c.call q tokens).Trace es (answer, tokens'))
    (hmissing : IsMissing answer) : c.Ready tokens' := by
  obtain ⟨body, hsend, rfl⟩ := trace_call_iff.mp h
  obtain ⟨es₁, es₂, tokens₁, rfl, hlast, -⟩ := RetryPolicy.trace_attemptFrom_last hsend
  exact (attempted_of_trace hlast).ready (isMissing_readBody_iff.mp hmissing)

theorem sends_of_call (h : (c.call q tokens).Trace es (answer, tokens')) :
    ∀ e ∈ es, c.Sends (route q) e := by
  obtain ⟨body, hsend, -⟩ := trace_call_iff.mp h
  exact sends_of_trace hsend

/-- A drawn id is drawn once. -/
theorem trace_carry_drawId_iff {id : String} :
    (c.carry .drawId tokens).Trace es (id, tokens') ↔ es = [drawn id] ∧ tokens' = tokens := by
  rw [carry, trace_bind_done_iff]
  constructor
  · rintro ⟨id', htrace, hleft⟩
    obtain ⟨rfl, rfl⟩ := Prod.mk.inj hleft
    exact ⟨trace_request_iff.mp htrace, rfl⟩
  · rintro ⟨rfl, rfl⟩
    exact ⟨id, trace_request_iff.mpr rfl, rfl⟩

theorem ends_carry (c : Client) (e : ControlPlane.Effect) (tokens : TokenCache) :
    (c.carry e tokens).Ends := by
  cases e with
  | call q =>
    refine (RetryPolicy.ends_attemptFrom (ends_attempt c (route q)) ?_ _ _ _).bind fun _ => .done _
    exact fun time => ends_request _
  | drawId => exact (ends_request _).bind fun _ => .done _
  | sleep time => exact (ends_request _).bind fun _ => .done _

/-- **Work over a network comes to an end** if the work on the control plane does. -/
theorem ends_carryOut {α : Type} {work : ControlPlane.Work α} (hwork : work.Ends) (c : Client)
    (tokens : TokenCache) : (c.carryOut work tokens).Ends :=
  hwork.translateFrom (ends_carry c) tokens

end Client

end Http

end ClusterNet
