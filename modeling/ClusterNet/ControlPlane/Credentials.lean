import ClusterNet.ControlPlane.Error
import ClusterNet.Duration
import ClusterNet.Text.Blank
import ClusterNet.Text.Quoted

/-!
# Connection settings

What it takes to connect to a control plane.

## Main definitions

* `ControlPlane.Credentials` — who connects, in one of three modes;
* `ControlPlane.ConnectorSettings` — where to, as whom, and how;
* `Credentials.validate`, `ConnectorSettings.validate` — whether they can be used at all.

Secrets never show: the text of credentials holds the user or the host only.
-/

namespace ClusterNet

namespace ControlPlane

/-- Who connects. -/
inductive Credentials where
  /-- A user of the control plane. -/
  | basic (username password : String)
  /-- A user of an identity provider. -/
  | remote (username password : String)
  /-- The owner of a token, which is exchanged for another one at a host of its own. -/
  | apiToken (authHost apiToken : String)
deriving DecidableEq, Repr, Inhabited

namespace Credentials

/-- The name of the mode. -/
def mode : Credentials → String
  | basic .. => "basic"
  | remote .. => "remote"
  | apiToken .. => "api-token"

/-- Whether nothing is missing. -/
def validate : Credentials → Except ApiError Unit
  | basic username password | remote username password =>
    if username.isEmpty || password.isEmpty then
      .error (.invalidConfig "username and password must be set")
    else .ok ()
  | apiToken authHost token =>
    if authHost.isEmpty || token.isEmpty then
      .error (.invalidConfig "auth host and API token must be set")
    else .ok ()

/-- The member that shows, by name and value. -/
def shown : Credentials → String × String
  | basic username _ => ("username", username)
  | remote username _ => ("username", username)
  | apiToken authHost _ => ("auth_host", authHost)

/-- The credentials without their secret. -/
def text (c : Credentials) : String :=
  let (name, value) := c.shown
  s!"Credentials \x7b mode: {Text.quoted c.mode}, {name}: {Text.quoted value}, .. \x7d"

end Credentials

/-- What it takes to connect. -/
structure ConnectorSettings where
  /-- The name or the address of the host. -/
  host : String
  /-- Who connects. -/
  credentials : Credentials
  /-- Whether any certificate of the host is accepted. -/
  insecure : Bool := false
  /-- A file of further authorities to trust. -/
  caFile : Option String := none
  /-- A file with the certificate to show to the host. -/
  clientCertFile : Option String := none
  /-- A file with the key of that certificate. -/
  clientKeyFile : Option String := none
  /-- How often a request is repeated after an error that may pass. -/
  retries : Nat := 3
  /-- How long to wait for an answer. -/
  timeout : Duration := .ofSeconds 30
deriving DecidableEq, Repr

/-- Whether the settings can be used at all. -/
def ConnectorSettings.validate (s : ConnectorSettings) : Except ApiError Unit :=
  if Text.isAllBlank s.host then .error (.invalidConfig "host must be set")
  else if s.clientCertFile.isSome != s.clientKeyFile.isSome then
    .error (.invalidConfig "client certificate and key must be given together")
  else s.credentials.validate

end ControlPlane

end ClusterNet
