import ClusterNet.Json.Codec
import ClusterNet.Text.Blank
import ClusterNet.Text.Decimal

/-!
# API generations

A control plane offers DHCP in one of two ways, and its version says which.

## Main definitions

* `ControlPlane.Generation` — the two ways, with their `name`;
* `ControlPlane.Generation.ofVersion?` — the way a product version stands for;
* `ControlPlane.NodeVersion` — the version that a control plane reports.
-/

namespace ClusterNet

namespace ControlPlane

/-- How a control plane offers DHCP. -/
inductive Generation where
  /-- Only by the objects of the manager interface. -/
  | v2
  /-- By DHCP server configurations of the policy interface. -/
  | v3
deriving DecidableEq, Repr, Inhabited

namespace Generation

/-- The generation's name. -/
def name : Generation → String
  | v2 => "v2"
  | v3 => "v3"

/-- All generations. -/
def all : List Generation := [v2, v3]

/-- The codec of generations. -/
def codec : Codec Generation := .choice name all

/-- The generation that a product version such as `3.1.2.0` stands for: its first number decides,
and versions from 3 on have the newer one. -/
def ofVersion? (version : String) : Option Generation :=
  let major := Text.trimList (version.toList.takeWhile (· != '.'))
  (Text.boundedDecimal? UInt32.size major).map fun n => if 3 ≤ n then v3 else v2

end Generation

/-- The version of a control plane. -/
structure NodeVersion where
  /-- The version of the product. -/
  productVersion : String
  /-- The version of the node. -/
  nodeVersion : Option String := none
deriving DecidableEq, Repr, Inhabited

/-- How the version of a control plane is written. -/
def NodeVersion.record : Record NodeVersion :=
  .iso
    (.field (.required "product_version" .text) <| .field (.optional "node_version" .text) .nil)
    (fun (productVersion, nodeVersion, ()) => { productVersion, nodeVersion })
    fun v => (v.productVersion, v.nodeVersion, ())

/-- The codec of the versions of control planes. -/
def NodeVersion.codec : Codec NodeVersion := NodeVersion.record.codec

end ControlPlane

end ClusterNet
