import ClusterNet.ControlPlane.Generation
import ClusterNet.Http.Client
import ClusterNet.Text.Pem

/-!
# Connecting

A connection is made by asking the control plane for its version, so that a wrong host or wrong
credentials show at once.

## Main definitions

* `Http.Connection` — a client and what is known of the control plane;
* `Http.loadFiles` — reads the certificates that settings name;
* `Http.connect` — makes a connection.

Unusable settings are found before anything is read, and unusable files before anything is sent.
-/

namespace ClusterNet

namespace Http

open ControlPlane (ApiError ConnectorSettings Generation NodeVersion)

/-- A connection to a control plane. -/
structure Connection where
  /-- How it is asked. -/
  client : Client
  /-- Its version. -/
  version : NodeVersion
  /-- Its generation. -/
  generation : Generation

/-- How a version is asked for. -/
def versionRoute : Route where
  verb := .get
  path := "/api/v1/node/version"

/-- The client that settings describe. -/
def Client.ofSettings (s : ConnectorSettings) : Client where
  base := baseUrl s.host
  credentials := s.credentials
  retry := .withRetries s.retries

/-- A file that has to be there. -/
def requireFile (path : String) : Work (Except ApiError String) :=
  (Work.readFile path).bind fun
    | some text => .done (.ok text)
    | none => .done (.error .io)

/-- Read the authorities in a file. There may be none in it. -/
def loadAuthorities : Option String → Work (Except ApiError Unit)
  | none => .done (.ok ())
  | some path =>
    (requireFile path).bind fun text =>
      .done (text.bind fun text =>
        if (Text.Pem.labels? text).isSome then .ok () else .error (.http false))

/-- Read a certificate and its key. -/
def loadIdentity (certificate key : String) : Work (Except ApiError Unit) :=
  (requireFile certificate).bind fun
    | .error e => .done (.error e)
    | .ok certificate =>
      (requireFile key).bind fun key =>
        .done (key.bind fun key =>
          if Text.Pem.isIdentity s!"{certificate}\n{key}" then .ok () else .error (.http false))

/-- Read the files that settings name. -/
def loadFiles (s : ConnectorSettings) : Work (Except ApiError Unit) :=
  (loadAuthorities s.caFile).bind fun
    | .error e => .done (.error e)
    | .ok () =>
      match s.clientCertFile, s.clientKeyFile with
      | some certificate, some key => loadIdentity certificate key
      | _, _ => .done (.ok ())

/-- What the version in a body says about a control plane. -/
def readVersion (body : String) : Except ApiError (NodeVersion × Generation) :=
  (decodeBody NodeVersion.codec body).bind fun version =>
    match Generation.ofVersion? version.productVersion with
    | some generation => .ok (version, generation)
    | none => .error (.unexpectedResponse s!"unparsable product version '{version.productVersion}'")

/-- Connect to a control plane. -/
def connect (s : ConnectorSettings) (tokens : TokenCache) :
    Work (Except ApiError Connection × TokenCache) :=
  match s.validate with
  | .error e => .done (.error e, tokens)
  | .ok () =>
    (loadFiles s).bind fun
      | .error e => .done (.error e, tokens)
      | .ok () =>
        let client := Client.ofSettings s
        (client.send versionRoute tokens).bind fun (body, tokens) =>
          .done ((body.bind readVersion).map fun (version, generation) =>
            { client, version, generation }, tokens)

end Http

end ClusterNet
