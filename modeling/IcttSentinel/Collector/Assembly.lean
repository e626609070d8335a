/-
From agreed readings to the input of the proof, the first half of `assemble` in packages/collector/src/collect.ts:
the logs and results of every side are decoded, every route is assessed, and each value of the input is an
observation. The loader has lowered the ids and addresses of the manifest.
-/
import IcttSentinel.Adapters.Events
import IcttSentinel.Adapters.Scaling
import IcttSentinel.Collector.Side
import IcttSentinel.Evidence.Verify

namespace IcttSentinel.Collector

open IcttSentinel.Adapters IcttSentinel.Config IcttSentinel.Evidence IcttSentinel.InvariantCore IcttSentinel.Lib

/-! ## What is given -/

structure Teleporter where
  registryAddress : String
  messengerAddress : String

structure ApprovedRemote where
  name : Slug
  deployment : Deployment
  teleporter : Teleporter
  expectedDecimals : Nat

/-- The formats that the schema gives a deployment, and the ids that the load-time rules tell apart. -/
structure Deployment.Formed (d : Deployment) : Prop where
  blockchainId : isHash d.chain.blockchainId = true
  address : isRoleHolder d.contract.address = true
  runtimeCodeHash : ∀ hash ∈ d.contract.fingerprint.runtimeCodeHash, isHash hash = true
  endpointIds : (d.chain.endpoints.map (·.id)).Nodup

/-- An approved manifest of a canonical ERC20, as far as a bundle is assembled from it. -/
structure ApprovedManifest where
  name : Slug
  homeDecimals : Nat
  home : Deployment
  homeTeleporter : Teleporter
  tokenAddress : String
  remotes : List ApprovedRemote
  formed : ∀ d ∈ home :: remotes.map (·.deployment), d.Formed
  blockchainIds : ((home :: remotes.map (·.deployment)).map (·.chain.blockchainId)).Nodup
  tokenAddress_formed : isRoleHolder tokenAddress = true
  remotes_bounds : 1 ≤ remotes.length ∧ remotes.length ≤ 32
  decimals_bounds : homeDecimals ≤ 77 ∧ ∀ r ∈ remotes, r.expectedDecimals ≤ 77

/-- The evidence section of a policy. -/
structure EvidencePolicy where
  maxAgeSeconds : Nat
  expiresAfterSeconds : Nat
  expires_bounds : 1 ≤ expiresAfterSeconds ∧ expiresAfterSeconds ≤ 604800

structure Producer where
  buildCommit : String
  artifactChecksum : String
  checksum_formed : isHex 64 artifactChecksum = true

/-- What the collector runs on beside the verifier's host. -/
structure CollectorHost extends Host where
  keccak256 : List Int → String
  /-- `new Date(ms).toISOString()`. -/
  isoString : Int → Except Failure String

/-- What is assembled: an agreed side for the home, and one for each remote of the manifest. -/
structure AssembleArgs where
  manifest : ApprovedManifest
  manifestDigest : String
  policyDigest : String
  policy : EvidencePolicy
  producer : Producer
  sourceLockHash : String
  now : Int
  required : Nat
  home : AgreedSide
  remotes : List (ApprovedRemote × AgreedSide)

/-! ## Decoding -/

def coordOf (reading : ChainReading) (l : RawLog) : LogCoordinate where
  blockNumber := l.blockNumber
  blockHash := l.blockHash
  txHash := l.transactionHash
  logIndex := l.logIndex
  blockTimestamp := ((reading.blocks.lookup l.blockNumber).map (·.2.timestamp)).getD 0

def logsOf (reading : ChainReading) (name : String) : List RawLog := ((reading.logs.lookup name).map (·.2)).getD []

/-- `factsOf`. -/
def factsOf {T : Type} (reading : ChainReading) (name : String) (decode : EventLog → Except Failure T) :
    Except Failure (List (Fact T)) :=
  (logsOf reading name).mapM fun l => do
    let value ← decode ⟨l.address, l.topics, l.data⟩
    return { value, coord := coordOf reading l }

/-- `call`. -/
def callOf (reading : ChainReading) (name : String) : Except Failure String :=
  orFail "AbiDecodeError" ("missing call " ++ name) ((reading.calls.lookup name).map (·.2))

def pinRef (reading : ChainReading) : PinRef where
  blockNumber := reading.pin.blockNumber
  blockHash := reading.pin.blockHash
  timestamp := reading.pin.timestamp

def pinnedBlock (blockchainId : String) (reading : ChainReading) : PinnedBlock where
  blockchainId := blockchainId
  blockNumber := reading.pin.blockNumber
  blockHash := reading.pin.blockHash

/-- `lower`. -/
def lower (s : String) : String := s.toLower

section Decode

variable (keccak256 : List Int → String)

/-- Deliveries from `origin` to `destination`; others' payloads are never decoded. -/
def deliveries (reading : ChainReading) (name origin destination : String) : Except Failure (List (Fact Delivery)) := do
  let received ← factsOf reading name (decodeReceiveCrossChainMessage keccak256)
  let own := received.filter fun f => lower f.value.originSenderAddress = origin && lower f.value.destinationAddress = destination
  own.mapM fun f => do
    let payload ← decodeTransferrerMessage f.value.message
    return {
      value := {
        messageId := f.value.messageId
        sourceBlockchainId := f.value.sourceBlockchainId
        originSenderAddress := f.value.originSenderAddress
        destinationAddress := f.value.destinationAddress
        payload }
      coord := f.coord }

/-- What the home's own logs say. -/
structure HomeFacts where
  sent : List (Fact TokensSentEvent)
  unsupported : List (Fact TokensRoutedEvent)
  registrations : List (Fact RemoteRegisteredEvent)
  collateral : List (Fact CollateralAddedEvent)
  tokenAddress : String
  escrow : Int
  registryVersion : Int

def homeFacts (reading : ChainReading) : Except Failure HomeFacts := do
  let sent ← factsOf reading "home.tokensSent" (decodeTokensSent keccak256)
  let called ← factsOf reading "home.tokensAndCallSent" fun l => decodeTokensAndCall keccak256 l .tokensAndCallSent
  let routed ← factsOf reading "home.tokensRouted" (decodeTokensRouted keccak256)
  let callRouted ← factsOf reading "home.tokensAndCallRouted" fun l => decodeTokensAndCall keccak256 l .tokensAndCallRouted
  return {
    sent
    unsupported := called ++ routed ++ callRouted
    registrations := ← factsOf reading "home.remoteRegistered" (decodeRemoteRegistered keccak256)
    collateral := ← factsOf reading "home.collateralAdded" (decodeCollateralAdded keccak256)
    tokenAddress := ← decodeAddressResult (← callOf reading "homeEscrow.tokenAddress")
    escrow := ← decodeUintResult (← callOf reading "homeEscrow.escrowBalance")
    registryVersion := ← decodeUintResult (← callOf reading "home.registryVersion") }

end Decode

/-! ## Routes -/

namespace AssembleArgs

variable (args : AssembleArgs)

def homeChain : String := lower args.manifest.home.chain.blockchainId

def tokenHome : String := lower args.manifest.home.contract.address

def agreed : List AgreedSide := args.home :: args.remotes.map (·.2)

/-- `sideOf.get(chain)`: the last side of the chain. -/
def sideOf (chain : String) : Option AgreedSide :=
  args.agreed.reverse.find? fun a => lower a.deployment.chain.blockchainId = chain

/-- `evmChainOf.get(lower(chain)) ?? 0n`. -/
def evmChainOf (chain : String) : Int := ((args.sideOf (lower chain)).map fun a => (a.deployment.chain.evmChainId : Int)).getD 0

/-- `digestOf`, of the coordinates of a fact. -/
def digestOf (host : CollectorHost) (coord : LogCoordinate) (chain : String) : String :=
  factDigest host.toHost (args.evmChainOf chain) coord.blockHash coord.txHash coord.logIndex

end AssembleArgs

/-- A route with the facts of both sides, and what is observed of its remote. -/
structure RouteParts where
  route : Route
  home : SideFacts
  remote : SideFacts
  assessment : RouteAssessment
  observation : RemoteObservation
  registryVersion : Int

def remoteChainOf (r : ApprovedRemote) : String := lower r.deployment.chain.blockchainId

def remoteAddressOf (r : ApprovedRemote) : String := lower r.deployment.contract.address

/-- `${blockchainId}/${address}`. -/
def remoteKey (blockchainId address : String) : String := lower blockchainId ++ "/" ++ lower address

def ApprovedRemote.key (r : ApprovedRemote) : String :=
  remoteKey r.deployment.chain.blockchainId r.deployment.contract.address

def registrationKey (f : Fact RemoteRegisteredEvent) : String :=
  remoteKey f.value.remoteBlockchainId f.value.remoteTokenTransferrerAddress

section Routes

variable (host : CollectorHost) (args : AssembleArgs)

/-- The facts of both sides of a route. -/
def routeFacts (facts : HomeFacts) (i : Nat) (r : ApprovedRemote) (side : AgreedSide) : Except Failure (SideFacts × SideFacts) := do
  let hr := args.home.reading
  let rr := side.reading
  let homeSide : SideFacts := {
    blockchainId := args.homeChain
    pin := pinRef hr
    sent := facts.sent
    unsupportedSends := facts.unsupported
    delivered := ← deliveries host.keccak256 hr ("home.receiveCrossChainMessage." ++ toString i) (remoteAddressOf r) args.tokenHome
    executed := ← factsOf hr ("home.messageExecuted." ++ toString i) (decodeMessageExecuted host.keccak256)
    failed := ← factsOf hr ("home.messageExecutionFailed." ++ toString i) (decodeMessageExecutionFailed host.keccak256) }
  let remoteSide : SideFacts := {
    blockchainId := remoteChainOf r
    pin := pinRef rr
    sent := ← factsOf rr "remote.tokensSent" (decodeTokensSent host.keccak256)
    unsupportedSends := ← factsOf rr "remote.tokensAndCallSent" fun l => decodeTokensAndCall host.keccak256 l .tokensAndCallSent
    delivered := ← deliveries host.keccak256 rr "remote.receiveCrossChainMessage" args.tokenHome (remoteAddressOf r)
    executed := ← factsOf rr "remote.messageExecuted" (decodeMessageExecuted host.keccak256)
    failed := ← factsOf rr "remote.messageExecutionFailed" (decodeMessageExecutionFailed host.keccak256) }
  return (homeSide, remoteSide)

/-- One iteration over the remotes. -/
def assembleRoute (facts : HomeFacts) (entry : (ApprovedRemote × AgreedSide) × Nat) : Except Failure RouteParts := do
  let ((r, side), i) := entry
  let hr := args.home.reading
  let rr := side.reading
  let registryVersion ← decodeUintResult (← callOf rr "remote.registryVersion")
  let (homeSide, remoteSide) ← routeFacts host args facts i r side
  let route : Route := {
    homeBlockchainId := args.homeChain
    tokenHomeAddress := args.tokenHome
    remoteBlockchainId := remoteChainOf r
    remoteAddress := remoteAddressOf r }
  let assessment := assessRoute route homeSide remoteSide fun f chain => args.digestOf host f.coord chain
  let settings ← decodeRemoteSettingsResult (← callOf hr ("remotes." ++ toString i ++ ".settings"))
  let derived := deriveTokenMultiplierValues args.manifest.homeDecimals r.expectedDecimals
  let registration := facts.registrations.find? fun f =>
    lower f.value.remoteBlockchainId = remoteChainOf r && lower f.value.remoteTokenTransferrerAddress = remoteAddressOf r
  let pointsBack := (← decodeBytes32Result (← callOf rr "remote.tokenHomeBlockchainID")) = args.homeChain
  let linked ← andAlso pointsBack do
    let address ← decodeAddressResult (← callOf rr "remote.tokenHomeAddress")
    return address = args.tokenHome
  let derivedAlike := match derived with
    | .ok value => value.tokenMultiplier = settings.tokenMultiplier && value.multiplyOnRemote = settings.multiplyOnRemote
    | .error _ => false
  let observation : RemoteObservation := {
    remoteBlockchainId := remoteChainOf r
    remoteAddress := remoteAddressOf r
    transferredBalance := some (← decodeUintResult (← callOf hr ("remotes." ++ toString i ++ ".transferredBalance")))
    remoteTotalSupply := some (← decodeUintResult (← callOf rr "remote.totalSupply"))
    scale := {
      tokenMultiplier := settings.tokenMultiplier
      multiplyOnRemote := settings.multiplyOnRemote
      homeDecimals := args.manifest.homeDecimals
      remoteDecimals := r.expectedDecimals
      established := settings.registered && settings.collateralNeeded = 0 && derivedAlike &&
        registration.map (·.value.tokenDecimals) = some (r.expectedDecimals : Int) }
    homePin := some (pinnedBlock args.homeChain hr)
    remotePin := some (pinnedBlock (remoteChainOf r) rr)
    fingerprintRecognised := args.home.probe.fingerprint && side.probe.fingerprint
    tokenBehaviourCanonical := r.deployment.contract.role = .erc20TokenRemote
    -- a remote that does not point back at this home is not this route
    routeSingleHop := assessment.unsupported.length = 0 && linked
    initialReserveImbalance := ← decodeUintResult (← callOf rr "remote.initialReserveImbalance") }
  return { route, home := homeSide, remote := remoteSide, assessment, observation, registryVersion }

end Routes

/-! ## The input of the proof -/

def pendingAgeLimitSeconds : Int := 900

/-- `RULE_VERSION`. -/
def collectedRuleVersion : String := "acc-erc20-canonical@1"

/-- A fact that is cited, as its coordinates and its chain. -/
structure UsedFact where
  coord : LogCoordinate
  chain : String

/-- A trace with the chains it leads from and to. -/
structure RoutedTrace where
  trace : MessageTrace
  src : String
  dst : String

def RoutedTrace.facts (t : RoutedTrace) : List UsedFact :=
  (t.trace.source.toList.map fun f => ⟨f.coord, t.src⟩) ++ (t.trace.delivery.toList.map fun f => ⟨f.coord, t.dst⟩) ++
    (t.trace.failures ++ t.trace.executions).map fun f => ⟨f.coord, t.dst⟩

def RouteParts.traces (p : RouteParts) : List RoutedTrace :=
  p.assessment.messages.map fun trace =>
    match trace.direction with
    | .homeToRemote => { trace, src := p.route.homeBlockchainId, dst := p.route.remoteBlockchainId }
    | .remoteToHome => { trace, src := p.route.remoteBlockchainId, dst := p.route.homeBlockchainId }

structure Assembled where
  facts : HomeFacts
  routes : List RouteParts
  input : ProofInput

namespace Assembled

variable (a : Assembled)

def traces : List RoutedTrace := a.routes.flatMap (·.traces)

end Assembled

section Input

variable (host : CollectorHost) (args : AssembleArgs)

def approvedKeys : List String := args.manifest.remotes.map (·.key)

def untrackedRemotes (facts : HomeFacts) : List String :=
  sortStrings ((facts.registrations.map registrationKey).eraseDups.filter fun k => !(approvedKeys args).contains k)

/-- Every registration this home ever emitted, against the approved roster. -/
def censusOf (facts : HomeFacts) : CensusState :=
  if (approvedKeys args).all (fun k => (facts.registrations.map registrationKey).contains k) && (untrackedRemotes args facts).isEmpty then
    .completeFromDeploymentBlock
  else .partialCensus

/-- Every side was pinned recently. -/
def isFresh : Bool :=
  args.agreed.all fun a =>
    let age := args.now / 1000 - a.reading.pin.timestamp
    0 ≤ age && age ≤ args.policy.maxAgeSeconds

/-- `Math.min` over the witnesses of the sides. -/
def independentWitnesses : Nat := (args.remotes.map (·.2.witnesses.length)).foldl min args.home.witnesses.length

def homeDescriptor : Option SourceDescriptor :=
  args.manifest.home.contract.fingerprint.sourceRef.bind fun s => sourceDescriptors.find? (·.sourcePath = s.path)

def proofInputOf (facts : HomeFacts) (routes : List RouteParts) : ProofInput where
  deploymentId := args.manifest.name.val
  family := supportedFamily
  provenance := {
    manifestHash := some args.manifestDigest
    policyHash := some args.policyDigest
    sourceLockCommitSha := some pinnedCommitSha
    adapterId := (homeDescriptor args).map (·.adapterId)
    adapterVersion := (homeDescriptor args).map fun d => (d.adapterVersion : Int)
    ruleVersion := collectedRuleVersion }
  census := censusOf args facts
  untrackedRemotes := untrackedRemotes args facts
  cut := if routes.any fun p => p.assessment.openEdges.length > 0 then .open else .closed
  freshness := {
    fresh := isFresh args
    independentWitnessGroups := independentWitnesses args
    requiredWitnessGroups := args.required }
  remotes := routes.map (·.observation)
  pending := routes.flatMap (·.assessment.pending)
  effects := routes.flatMap (·.assessment.effects)
  homeEscrow := {
    escrowBalance := if lower facts.tokenAddress = lower args.manifest.tokenAddress then some facts.escrow else none
    homePin := some (pinnedBlock args.homeChain args.home.reading)
    acceptedCollateralHomeUnits := (facts.collateral.map (·.value.amount)).sum }
  pendingAgeLimitSeconds := pendingAgeLimitSeconds

/-- Everything before the proof is replayed. -/
def assembleInput : Except Failure Assembled := do
  let facts ← homeFacts host.keccak256 args.home.reading
  let routes ← args.remotes.zipIdx.mapM (assembleRoute host args facts)
  return { facts, routes, input := proofInputOf args facts routes }

/-- The facts that the bundle cites. -/
def usedFacts (a : Assembled) : List UsedFact :=
  a.traces.flatMap (·.facts) ++
    ((a.facts.registrations.filter fun f => (approvedKeys args).contains (registrationKey f)).map fun f => ⟨f.coord, args.homeChain⟩) ++
    a.facts.collateral.map fun f => ⟨f.coord, args.homeChain⟩

end Input

end IcttSentinel.Collector
