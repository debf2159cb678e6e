import ClusterNet.Cluster.Error
import ClusterNet.ControlPlane.Tag
import ClusterNet.Json.Codec
import ClusterNet.Network.AddressPlan

/-!
# What is asked for

## Main definitions

* `Cluster.Spec` — the infrastructure that a cluster should have;
* `Cluster.Spec.validate` — whether it can be had;
* `Cluster.Spec.addressPlan` — the addresses set aside in its network.
-/

namespace ClusterNet

namespace Cluster

open ControlPlane (ClusterIdentity)
open Network (AddressPlan)

/-- The infrastructure that a cluster should have. -/
structure Spec where
  /-- The display name of the tier-0 gateway that connects it. -/
  tier0GatewayName : String
  /-- The display name of the edge cluster that its gateway runs on. -/
  edgeClusterName : String
  /-- The display name of the transport zone that its segment spans. -/
  transportZoneName : String
  /-- The display name of the pool that its outward address comes from. -/
  snatIpPoolName : String
  /-- The garden it belongs to. -/
  gardenId : String
  /-- The name of that garden. -/
  gardenName : String
  /-- The name of the cluster. -/
  clusterName : String
  /-- The network of its workers. -/
  workersNetwork : String
  /-- The DNS servers that its workers use. -/
  dnsServers : List String
deriving DecidableEq, Repr, Inhabited

namespace Spec

/-- The members that may not be blank. -/
def required (s : Spec) : List (String × String) :=
  [("tier0GatewayName", s.tier0GatewayName), ("edgeClusterName", s.edgeClusterName),
   ("transportZoneName", s.transportZoneName), ("snatIpPoolName", s.snatIpPoolName),
   ("gardenId", s.gardenId), ("gardenName", s.gardenName), ("clusterName", s.clusterName)]

/-- The addresses set aside in the workers' network. -/
def addressPlan (s : Spec) : Except InfraError AddressPlan :=
  (AddressPlan.ofCidr s.workersNetwork).mapError fun e => .cidr e.message

/-- Whether what is asked for can be had: no name is blank and the network has an address plan.
The first blank name is reported. -/
def validate (s : Spec) : Except InfraError Unit :=
  match s.required.find? fun m => Text.isAllBlank m.2 with
  | some (name, _) => .error (.invalidSpec s!"{name} must not be empty")
  | none => s.addressPlan.map fun _ => ()

/-- The cluster that the infrastructure belongs to. -/
def identity (s : Spec) : ClusterIdentity := ⟨s.gardenId, s.clusterName⟩

/-- The display name of the cluster's objects. -/
def objectName (s : Spec) : String := s!"{s.gardenName}--{s.clusterName}"

/-- The display name of the cluster's segment. -/
def segmentName (s : Spec) : String := s!"{s.objectName}--workers"

/-- How a specification is written. -/
def record : Record Spec :=
  .iso
    (.field (.required "tier0GatewayName" .text) <| .field (.required "edgeClusterName" .text) <|
      .field (.required "transportZoneName" .text) <| .field (.required "snatIpPoolName" .text) <|
      .field (.required "gardenId" .text) <| .field (.required "gardenName" .text) <|
      .field (.required "clusterName" .text) <| .field (.required "workersNetwork" .text) <|
      .field (.items "dnsServers" .text) .nil)
    (fun (tier0GatewayName, edgeClusterName, transportZoneName, snatIpPoolName, gardenId,
        gardenName, clusterName, workersNetwork, dnsServers, ()) =>
      { tier0GatewayName, edgeClusterName, transportZoneName, snatIpPoolName, gardenId,
        gardenName, clusterName, workersNetwork, dnsServers })
    fun s => (s.tier0GatewayName, s.edgeClusterName, s.transportZoneName, s.snatIpPoolName,
      s.gardenId, s.gardenName, s.clusterName, s.workersNetwork, s.dnsServers, ())

/-- The codec of specifications. -/
def codec : Codec Spec := record.codec

end Spec

end Cluster

end ClusterNet
