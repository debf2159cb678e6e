import ClusterNet.ControlPlane.Credentials
import ClusterNet.ControlPlane.Effect
import ClusterNet.Http.Refusal
import ClusterNet.Http.Route
import ClusterNet.Http.Token
import ClusterNet.Retry

/-!
# Requests over a network

The requests to a control plane, carried out by exchanges with its host.

## Main definitions

* `Http.Client` — a host, who asks it, and how often;
* `Http.Client.authorize` — the headers by which the client proves who it is;
* `Http.Client.outcome` — what an answer means;
* `Http.Client.attempt` — one attempt at a request;
* `Http.Client.send` — attempts until one counts;
* `Http.Client.call` — a request to the control plane;
* `Http.Client.carryOut` — work on a control plane, carried out over a network.

The access tokens are handed on from one step to the next, so that whoever owns them can share
them between clients.
-/

namespace ClusterNet

namespace Http

open ControlPlane (ApiError Credentials)

/-- How a control plane is asked. -/
structure Client where
  /-- The address of the host. -/
  base : String
  /-- Who asks. -/
  credentials : Credentials
  /-- How often something is asked. -/
  retry : RetryPolicy

/-- A user and a password as they are sent. -/
def userText (username password : String) : String :=
  String.ofList (Text.base64 (Text.bytes s!"{username}:{password}"))

namespace Client

/-- The headers by which the client proves who it is. -/
def authorize (c : Client) (tokens : TokenCache) :
    Work (Except ApiError (List (String × String)) × TokenCache) :=
  match c.credentials with
  | .basic username password =>
    .done (.ok [(authorizationHeader, s!"Basic {userText username password}")], tokens)
  | .remote username password =>
    .done (.ok [(authorizationHeader, s!"Remote {userText username password}")], tokens)
  | .apiToken authHost apiToken =>
    (tokens.accessToken authHost apiToken).bind fun (token, tokens) =>
      .done (token.map fun token => [(tokenHeader, token)], tokens)

/-- The tokens that are left when the host did not accept the client. -/
def rejected (c : Client) (tokens : TokenCache) : TokenCache :=
  match c.credentials with
  | .apiToken authHost apiToken => tokens.invalidate authHost apiToken
  | _ => tokens

/-- The request on a route. -/
def request (c : Client) (r : Route) (headers : List (String × String)) : Request where
  verb := r.verb
  url := c.base ++ r.path
  query := r.query
  headers
  body := (r.value.map Body.json).getD .empty

/-- What an answer to a request on a route means: the body, or an error. -/
def outcome (r : Route) : Except Failure Response → Except ApiError String
  | .error f => .error f.error
  | .ok answer =>
    if answer.isRejection then
      .error (.authenticationFailed s!"{r.verb.name} {r.path} returned HTTP {answer.status}")
    else if answer.isSuccess then .ok answer.body
    else .error (errorOf answer.status answer.body r.path)

/-- The tokens that are left behind an answer. One that breaks off says nothing about them, whatever
its status. -/
def tokensAfter (c : Client) (tokens : TokenCache) : Except Failure Response → TokenCache
  | .error _ => tokens
  | .ok answer => if answer.isRejection then c.rejected tokens else tokens

/-- One attempt at a request. A token that cannot be sent in a header is no reason to send the
request without it. -/
def attempt (c : Client) (r : Route) (tokens : TokenCache) :
    Work (Except ApiError String × TokenCache) :=
  (c.authorize tokens).bind fun
    | (.error e, tokens) => .done (.error e, tokens)
    | (.ok headers, tokens) =>
      if headers.all fun h => isHeaderValue h.2 then
        (Work.exchange (c.request r headers)).bind fun answer =>
          .done (outcome r answer, c.tokensAfter tokens answer)
      else .done (.error (.http false), tokens)

/-- Attempts at a request until one succeeds, fails for good, or is the last one allowed. -/
def send (c : Client) (r : Route) (tokens : TokenCache) :
    Work (Except ApiError String × TokenCache) :=
  c.retry.attempt (c.attempt r) ApiError.isTransient Work.sleep tokens

/-- A request to the control plane. -/
def call (c : Client) (r : ControlPlane.Request) (tokens : TokenCache) :
    Work (ControlPlane.Answer r × TokenCache) :=
  (c.send (route r) tokens).bind fun (body, tokens) =>
    .done (body.bind (readBody r.method), tokens)

/-- What work on a control plane needs, carried out over a network. -/
def carry (c : Client) : (e : ControlPlane.Effect) → TokenCache → Work (e.Answer × TokenCache)
  | .call r, tokens => c.call r tokens
  | .drawId, tokens => Work.drawId.bind fun id => .done (id, tokens)
  | .sleep time, tokens => (Work.sleep time).bind fun () => .done ((), tokens)

/-- Work on a control plane, carried out over a network. -/
def carryOut {α : Type} (c : Client) (w : ControlPlane.Work α) (tokens : TokenCache) :
    Work (α × TokenCache) :=
  w.translateFrom c.carry tokens

end Client

end Http

end ClusterNet
