import ClusterNet.Config.Controller
import ClusterNet.Yaml.Shape

/-!
# Reading the configuration

## Main definitions

* `Config.controllerShape` — what is asked for of a configuration file;
* `ControllerConfig.ofYaml` — the configuration in a text, if it can be decoded and makes sense.
-/

namespace ClusterNet

namespace Config

open Yaml (Document Shape)

/-- What is asked for of a zone. Its placement is among the other members. -/
def zoneShape : Shape := .openRecord [("name", .text)]

/-- What is asked for of a region. Its placement is among the other members. -/
def regionShape : Shape := .openRecord [
  ("name", .text), ("nsxtHost", .text), ("nsxtInsecureSsl", .bool), ("nsxtCaFile", .optionalText),
  ("nsxtRemoteAuth", .bool), ("vmcAuthHost", .optionalText), ("tier0GatewayName", .text),
  ("edgeClusterName", .text), ("transportZoneName", .text), ("snatIpPoolName", .text),
  ("dnsServers", .list .text), ("zones", .list zoneShape)]

/-- What is asked for of the settings of the wait. -/
def realizationShape : Shape := .record [
  ("initialIntervalMs", .natural), ("maxIntervalMs", .natural), ("timeoutSeconds", .natural)]

/-- What is asked for of the settings of load balancers. -/
def loadBalancerShape : Shape := .record [("clusterTagScope", .text)]

/-- What is asked for of a configuration file. -/
def controllerShape : Shape := .record [
  ("regions", .list regionShape), ("recoveryEnabled", .bool), ("apiRetries", .natural),
  ("realization", realizationShape), ("loadBalancer", loadBalancerShape)]

/-- The configuration that a text holds, whether or not it makes sense. -/
def ControllerConfig.decode? (s : String) : Option ControllerConfig :=
  (Document.parse? s).bind fun d =>
    (d.value? controllerShape).bind ControllerConfig.codec.decode

/-- The configuration in a text. -/
def ControllerConfig.ofYaml (s : String) : Except ConfigError ControllerConfig :=
  match ControllerConfig.decode? s with
  | none => .error .yaml
  | some c => c.validate.map fun () => c

end Config

end ClusterNet
