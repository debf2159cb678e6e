import ClusterNet.Actuator.Error
import ClusterNet.Json

/-!
# Reports of errors

An error is reported by the kinds of its causes, the outermost first, and by its wording. There is
no wording of our own for what a file system, a network or a decoder found wrong, nor for a token
that could not be exchanged because of one of these.

## Main definitions

* `ErrorReport` — a report, with `ErrorReport.json`;
* `ApiError.report` and its kin — the reports of all errors.
-/

namespace ClusterNet

open Actuator (ActuatorError PublishError)
open Cluster (InfraError)
open Config (ConfigError)
open ControlPlane (ApiError)
open Store (StoreError)

/-- A report of an error. -/
structure ErrorReport where
  /-- The kinds of the causes, the outermost first. -/
  kinds : String
  /-- The wording, if it is our own. -/
  wording : Option String
deriving DecidableEq, Repr, Inhabited

namespace ErrorReport

/-- The members of a report. -/
def members (r : ErrorReport) : List (String × Json) :=
  ("error", .string r.kinds) :: (r.wording.map fun m => ("message", Json.string m)).toList

/-- A report as a JSON value. -/
def json (r : ErrorReport) : Json := .object r.members

/-- The report of an error that was caused by another one. -/
def behind (cause : ErrorReport) (kind wording : String) : ErrorReport where
  kinds := s!"{kind}>{cause.kinds}"
  wording := cause.wording.map fun _ => wording

end ErrorReport

/-- How an exchange begins to be described that failed on its way. -/
def brokenExchange : String := "HTTP error"

/-- The report of a control-plane error. -/
def ControlPlane.ApiError.report (e : ApiError) : ErrorReport :=
  match e with
  | .notFound _ => ⟨"NotFound", some e.message⟩
  | .refused .. => ⟨"Api", some e.message⟩
  | .http _ => ⟨"Http", none⟩
  | .invalidConfig _ => ⟨"InvalidConfig", some e.message⟩
  | .authenticationFailed reason =>
    let isBroken := brokenExchange.toList.isPrefixOf reason.toList
    ⟨"AuthenticationFailed", if isBroken then none else some e.message⟩
  | .unexpectedResponse _ => ⟨"UnexpectedResponse", some e.message⟩
  | .json => ⟨"Json", none⟩
  | .io => ⟨"Io", none⟩

/-- The report of an error of a cluster's infrastructure. -/
def Cluster.InfraError.report (e : InfraError) : ErrorReport :=
  match e with
  | .task label source => source.report.behind s!"Task[{label}]" e.message
  | .lookupNotFound .. => ⟨"LookupNotFound", some e.message⟩
  | .missingDependency .. => ⟨"MissingDependency", some e.message⟩
  | .realizationTimeout .. => ⟨"RealizationTimeout", some e.message⟩
  | .cidr _ => ⟨"Cidr", some e.message⟩
  | .invalidSpec _ => ⟨"InvalidSpec", some e.message⟩
  | .api source => source.report.behind "Nsxt" e.message

/-- The report of an error of the store. -/
def Store.StoreError.report (e : StoreError) : ErrorReport :=
  match e with
  | .versionMismatch .. => ⟨"VersionMismatch", some e.message⟩
  | .conflict _ => ⟨"Conflict", some e.message⟩
  | .retriesExhausted .. => ⟨"RetriesExhausted", some e.message⟩
  | .json => ⟨"Json", none⟩
  | .io => ⟨"Io", none⟩

/-- The report of an error of the configuration. -/
def Config.ConfigError.report (e : ConfigError) : ErrorReport :=
  match e with
  | .directoryNotFound => ⟨"ConfigDirNotFound", some e.message⟩
  | .fileNotFound => ⟨"ConfigFileNotFound", some e.message⟩
  | .unknownRegion _ => ⟨"UnknownRegion", some e.message⟩
  | .invalid _ => ⟨"Invalid", some e.message⟩
  | .yaml => ⟨"Yaml", none⟩
  | .io => ⟨"Io", none⟩

/-- The report of an error of publishing. -/
def Actuator.PublishError.report (e : PublishError) : ErrorReport :=
  match e with
  | .conflict _ => ⟨"Conflict", some e.message⟩
  | .other _ => ⟨"Other", some e.message⟩

/-- The report of an error of the actuator. -/
def Actuator.ActuatorError.report (e : ActuatorError) : ErrorReport :=
  match e with
  | .config _ => ⟨"Config", some e.message⟩
  | .configFile source => source.report.behind "ConfigFile" e.message
  | .connect source => source.report.behind "Connect" e.message
  | .infra source => source.report.behind "Infra" e.message
  | .store source => source.report.behind "Store" e.message
  | .teardownIncomplete _ => ⟨"TeardownIncomplete", some e.message⟩
  | .publish source => source.report.behind "Publish" e.message

end ClusterNet
