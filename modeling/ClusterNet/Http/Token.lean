import ClusterNet.Http.Effect
import ClusterNet.Json.Codec
import ClusterNet.Json.Parser
import ClusterNet.OrderedMap

/-!
# Access tokens

The owner of an API token exchanges it for an access token, which is shown to the control plane
and kept for further requests. A token that the control plane rejects is dropped.

## Main definitions

* `Http.TokenCache` — the access tokens that are kept, by the host that issued them and the API
  token they were exchanged for;
* `Http.issued` — what the answer to an exchange comes to;
* `Http.exchangeToken` — one exchange;
* `Http.TokenCache.accessToken` — the token that is kept, or a new one;
* `Http.TokenCache.invalidate` — the cache without a token.

## Main results

`find?` after `keep` and `invalidate`: a change at one place of the cache is not seen at another.
-/

namespace ClusterNet

namespace Http

open ControlPlane (ApiError)

/-- Where API tokens are exchanged. -/
def authorizePath : String := "/csp/gateway/am/api/auth/api-tokens/authorize"

/-- How an issued token is written. What else the host says about it is not read. -/
def issuedToken : Record String :=
  .iso (.field (.required "access_token" .text) .nil) (fun (token, ()) => token) fun t => (t, ())

/-- The request that exchanges an API token. -/
def exchangeRequest (authHost apiToken : String) : Request where
  verb := .post
  url := baseUrl authHost ++ authorizePath
  body := .form [("refresh_token", apiToken)]

/-- The error of an exchange that a host refuses. -/
def exchangeRefused (authHost : String) (status : Nat) : ApiError :=
  .authenticationFailed s!"token exchange at {authHost} returned HTTP {status}"

/-- The token in an answer to an exchange. -/
def tokenIn (authHost : String) (r : Response) : Except ApiError String :=
  if r.isSuccess then
    match (Json.parse r.body).bind issuedToken.codec.decode with
    | some token => .ok token
    | none => .error (.http false)
  else .error (exchangeRefused authHost r.status)

/-- What an exchange comes to. The status counts before the answer has come to its end. -/
def issued (authHost : String) : Except Failure Response → Except ApiError String
  | .ok r => tokenIn authHost r
  | .error f =>
    match f.status with
    | some status =>
      .error (if isSuccessStatus status then f.error else exchangeRefused authHost status)
    | none => .error f.error

/-- Exchange an API token for an access token. -/
def exchangeToken (authHost apiToken : String) : Work (Except ApiError String) :=
  (Work.exchange (exchangeRequest authHost apiToken)).bind fun answer =>
    .done (issued authHost answer)

/-- The access tokens that are kept, by the host that issued them and the API token. -/
structure TokenCache where
  /-- The tokens. -/
  tokens : OrderedMap (String × String) String := .empty
deriving Inhabited

namespace TokenCache

/-- The token that is kept. -/
def find? (c : TokenCache) (authHost apiToken : String) : Option String :=
  c.tokens.find? (authHost, apiToken)

/-- Keep a token. -/
def keep (c : TokenCache) (authHost apiToken token : String) : TokenCache :=
  ⟨c.tokens.insert (authHost, apiToken) token⟩

/-- Drop a token. -/
def invalidate (c : TokenCache) (authHost apiToken : String) : TokenCache :=
  ⟨c.tokens.erase (authHost, apiToken)⟩

@[simp] theorem find?_keep_self (c : TokenCache) (authHost apiToken token : String) :
    (c.keep authHost apiToken token).find? authHost apiToken = some token :=
  OrderedMap.find?_insert_self ..

theorem find?_keep_of_ne (c : TokenCache) {authHost apiToken authHost' apiToken' : String}
    (token : String) (h : (authHost', apiToken') ≠ (authHost, apiToken)) :
    (c.keep authHost apiToken token).find? authHost' apiToken' = c.find? authHost' apiToken' :=
  OrderedMap.find?_insert_of_ne _ h _

@[simp] theorem find?_invalidate_self (c : TokenCache) (authHost apiToken : String) :
    (c.invalidate authHost apiToken).find? authHost apiToken = none :=
  OrderedMap.find?_erase_self ..

theorem find?_invalidate_of_ne (c : TokenCache) {authHost apiToken authHost' apiToken' : String}
    (h : (authHost', apiToken') ≠ (authHost, apiToken)) :
    (c.invalidate authHost apiToken).find? authHost' apiToken' = c.find? authHost' apiToken' :=
  OrderedMap.find?_erase_of_ne _ h

/-- The token that is kept, or a new one, which is kept from then on. Whatever goes wrong with an
exchange, the owner of the API token could not be authenticated, and nothing is kept. -/
def accessToken (c : TokenCache) (authHost apiToken : String) :
    Work (Except ApiError String × TokenCache) :=
  match c.find? authHost apiToken with
  | some token => .done (.ok token, c)
  | none =>
    (exchangeToken authHost apiToken).bind fun
      | .ok token => .done (.ok token, c.keep authHost apiToken token)
      | .error e => .done (.error (.authenticationFailed e.message), c)

end TokenCache

end Http

end ClusterNet
