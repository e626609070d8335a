/-
Collecting one side, `collectSide` of packages/collector/src/collect.ts: the endpoints that pass the probe
are grouped into failure domains, each domain contributes the reading of the first of its endpoints that
can be read, and the readings have to agree.
-/
import IcttSentinel.Collector.Read
import IcttSentinel.RpcQuorum.Endpoints

namespace IcttSentinel.Collector

open IcttSentinel.Config IcttSentinel.Evidence IcttSentinel.Lib IcttSentinel.RpcQuorum

/-- What collecting a side is given. The host of an endpoint is that of the URL its secret names; the quorum is
the greatest of the policy and of the chains, none of which is below two. -/
structure SideArgs where
  label : String
  deployment : Deployment
  pin : ChainPin
  queries : Queries
  required : Nat
  hostnameOf : Endpoint → Option String
  runtime : ChainReader
  keccak256 : List Int → String
  nfc : Nfc
  maxRangeBlocks : Nat
  maxLogs : Nat
  required_bound : 2 ≤ required

structure AgreedSide where
  label : String
  deployment : Deployment
  reading : ChainReading
  witnesses : List Endpoint
  probe : Probe

/-- A side agreed on, the reason why it is not, or what is thrown. -/
inductive SideResult where
  | agreed (side : AgreedSide)
  | refused (reason : String)
  | thrown (error : NonCanonicalValueError)

namespace SideArgs

variable (args : SideArgs)

def endpoints : List Endpoint := args.deployment.chain.endpoints

def probeOf (e : Endpoint) : Except Failure Probe :=
  probeDeployment args.keccak256 args.deployment args.runtime e args.pin

/-- An endpoint with its probe, if it passes. -/
def passing (e : Endpoint) : Option (Endpoint × Probe) :=
  match args.probeOf e with
  | .ok probe => if probe.identity && probe.finality && probe.fingerprint then some (e, probe) else none
  | .error _ => none

def eligible : List (Endpoint × Probe) := args.endpoints.filterMap args.passing

/-- The failure domains of the eligible endpoints. -/
def units : List (List Endpoint) :=
  let endpoints := args.eligible.map (·.1)
  collapsedIndependenceGroups endpointClaim (·.id.val) endpoints (correlateEndpoints (endpoints.map (correlationInput args.hostnameOf)))

def readingOf (e : Endpoint) : Except Failure ChainReading :=
  readChain args.runtime e args.pin args.maxRangeBlocks args.maxLogs args.queries

/-- The first endpoint of a failure domain that can be read, with its reading. -/
def readUnit (unit : List Endpoint) : Option (Endpoint × ChainReading) :=
  unit.findSome? fun e => (args.readingOf e).toOption.map (e, ·)

def readings : List (Endpoint × ChainReading) := args.units.filterMap args.readUnit

/-- A reading that was tried exceeded the bound on logs. -/
def bounded : Bool :=
  args.units.any fun unit => (unit.takeWhile fun e => !(args.readingOf e).isOk).any fun e =>
    match args.readingOf e with
    | .ok _ => false
    | .error failure => failure.name = "CollectionBoundExceeded"

end SideArgs

def collectSide (args : SideArgs) : SideResult :=
  match agreeOnReadings args.nfc args.readings args.required with
  | .error error => .thrown error
  | .ok .divergent => .refused (args.label ++ ":" ++ if args.bounded then "log-bound-exceeded" else "witness-divergence")
  | .ok .insufficient =>
    .refused (args.label ++ ":" ++ if args.bounded then "log-bound-exceeded" else "insufficient-independent-witnesses")
  | .ok (.ok reading witnesses) =>
    match args.eligible.find? fun e => witnesses.head?.map (·.id) = some e.1.id with
    | none => .refused (args.label ++ ":insufficient-independent-witnesses")
    | some e => .agreed { label := args.label, deployment := args.deployment, reading, witnesses, probe := e.2 }

end IcttSentinel.Collector
