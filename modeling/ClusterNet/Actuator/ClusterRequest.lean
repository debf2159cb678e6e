import ClusterNet.Actuator.Error
import ClusterNet.Cluster.Spec
import ClusterNet.Config.Controller
import ClusterNet.ControlPlane.Credentials

/-!
# Requests of clusters

## Main definitions

* `Actuator.ClusterRequest` — what is asked for a cluster, and by whom;
* `ClusterRequest.spec`, `ClusterRequest.credentials`, `ClusterRequest.connectorSettings` — what
  it comes to in a region.
-/

namespace ClusterNet

namespace Actuator

open Cluster (Spec)
open Config (Region)
open ControlPlane (ClusterIdentity ConnectorSettings Credentials)

/-- What a cluster shows to its control plane. -/
inductive Secret where
  /-- A user and a password. -/
  | userPassword (username password : String)
  /-- A token. -/
  | apiToken (token : String)
deriving DecidableEq, Repr, Inhabited

/-- The secret without what is secret about it. -/
def Secret.text : Secret → String
  | userPassword username _ => s!"UserPassword \x7b username: {Text.quoted username}, .. \x7d"
  | apiToken _ => "ApiToken(..)"

/-- What is asked for a cluster. -/
structure ClusterRequest where
  /-- The namespace of the cluster's state. -/
  ns : String
  /-- The region that the cluster is in. -/
  region : String
  /-- The garden it belongs to. -/
  gardenId : String
  /-- The name of that garden. -/
  gardenName : String
  /-- The name of the cluster. -/
  clusterName : String
  /-- The network of its workers. -/
  workersNetwork : String
  /-- What it shows to the control plane. -/
  secret : Secret
deriving DecidableEq, Repr, Inhabited

namespace ClusterRequest

/-- The request without what is secret about it. -/
def text (r : ClusterRequest) : String :=
  s!"ClusterRequest \x7b namespace: {Text.quoted r.ns}, region: {Text.quoted r.region}, " ++
    s!"garden_id: {Text.quoted r.gardenId}, garden_name: {Text.quoted r.gardenName}, " ++
    s!"cluster_name: {Text.quoted r.clusterName}, " ++
    s!"workers_network: {Text.quoted r.workersNetwork}, secret: {r.secret.text} \x7d"

/-- The cluster that the request is about. -/
def identity (r : ClusterRequest) : ClusterIdentity := ⟨r.gardenId, r.clusterName⟩

/-- The infrastructure that is asked for in a region. -/
def spec (r : ClusterRequest) (region : Region) : Spec where
  tier0GatewayName := region.tier0GatewayName
  edgeClusterName := region.edgeClusterName
  transportZoneName := region.transportZoneName
  snatIpPoolName := region.snatIpPoolName
  gardenId := r.gardenId
  gardenName := r.gardenName
  clusterName := r.clusterName
  workersNetwork := r.workersNetwork
  dnsServers := region.dnsServers

/-- The credentials in the mode that a region asks for. -/
def givenCredentials (secret : Secret) (region : Region) : Except ActuatorError Credentials :=
  match secret, region.authHost with
  | .apiToken token, some authHost => .ok (.apiToken authHost token)
  | .apiToken _, none =>
    .error (.config s!"region '{region.name}' has no vmcAuthHost to exchange an API token at")
  | .userPassword _ _, some _ =>
    .error (.config s!"region '{region.name}' requires an API token")
  | .userPassword username password, none =>
    .ok (if region.remoteAuth then .remote username password else .basic username password)

/-- An error of the settings as one of the request. -/
def unusable {α : Type} (result : Except ControlPlane.ApiError α) : Except ActuatorError α :=
  result.mapError fun e => .config e.message

/-- The credentials for a region, if nothing is missing. -/
def credentials (r : ClusterRequest) (region : Region) : Except ActuatorError Credentials := do
  let credentials ← givenCredentials r.secret region
  unusable credentials.validate
  return credentials

/-- What it takes to connect to the control plane of a region. -/
def connectorSettings (r : ClusterRequest) (region : Region) (retries : Nat) :
    Except ActuatorError ConnectorSettings := do
  let credentials ← r.credentials region
  let settings : ConnectorSettings := {
    host := region.host
    credentials
    insecure := region.insecure
    caFile := region.caFile
    retries }
  unusable settings.validate
  return settings

end ClusterRequest

end Actuator

end ClusterNet
