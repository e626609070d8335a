/-
The probe of one endpoint at a pin, packages/collector/src/probe.ts, and the shapes of the values it reads,
values.ts: whether the endpoint is on the chain that the manifest names, holds a final block, and serves the
contract that was approved. A provider's answers are a parameter; anything that does not fit is refused.
-/
import IcttSentinel.Config.Manifest
import IcttSentinel.Domain.Finality
import IcttSentinel.Evidence.Replay
import IcttSentinel.Lib.JsonRead
import IcttSentinel.RpcQuorum.Operations

namespace IcttSentinel.Collector

open IcttSentinel.Config IcttSentinel.Domain IcttSentinel.Lib IcttSentinel.RpcQuorum IcttSentinel.Storage

/-- An `Error`, thrown or rejected with. -/
structure Failure where
  name : String
  message : String
  deriving DecidableEq, Repr

/-- What a reader provides: reads, which an endpoint answers alike whenever it is asked, and the clock in
milliseconds while it is probed. -/
structure ChainReader where
  read : Endpoint → ReadOperation → Except Failure Json
  now : Endpoint → Int

/-! ## Values -/

def orFail {α : Type} (name message : String) : Option α → Except Failure α
  | none => .error { name, message }
  | some a => .ok a

def object (value : Json) : Except Failure Json :=
  if value.isObject then .ok value else .error { name := "ProviderValueError", message := "Expected object." }

def hexQuantity (value : Option Json) : Except Failure Int := do
  let s ← orFail "ProviderValueError" "Invalid RPC quantity."
    ((value.bind Json.string?).filter fun s => isHexQuantity s && s.length ≤ 66)
  return hexValue s

def bytes32 (value : Option Json) : Except Failure String :=
  orFail "ProviderValueError" "Invalid bytes32." ((value.bind Json.string?).filter (matchesHex "0x" 64))

/-- `b && c`, where `c` may throw. -/
def andAlso (b : Bool) (c : Except Failure Bool) : Except Failure Bool := if b then c else .ok false

/-- What a `try` makes of a value that may be missing. -/
def orFalse : Except Failure Bool → Bool
  | .ok b => b
  | .error _ => false

/-! ## Approved contracts -/

/-- `ContractRole`, as far as manifests and descriptors name them. -/
inductive ContractRole where
  | erc20TokenHome
  | nativeTokenHome
  | erc20TokenRemote
  | nativeTokenRemote
  | abstractBase
  | teleporterMessenger
  | teleporterRegistry
  | warpAdapter
  | library
  deriving DecidableEq, Repr

def ContractRole.text : ContractRole → String
  | .erc20TokenHome => "erc20-token-home"
  | .nativeTokenHome => "native-token-home"
  | .erc20TokenRemote => "erc20-token-remote"
  | .nativeTokenRemote => "native-token-remote"
  | .abstractBase => "abstract-base"
  | .teleporterMessenger => "teleporter-messenger"
  | .teleporterRegistry => "teleporter-registry"
  | .warpAdapter => "warp-adapter"
  | .library => "library"

inductive SupportLevel where
  | supported
  | limited
  | unsupported
  deriving DecidableEq, Repr

structure SourceDescriptor where
  adapterId : String
  adapterVersion : Nat
  role : ContractRole
  support : SupportLevel
  sourcePath : String

def pinnedCommitSha : String := "8fef6ef73767f4497a72d8348a0774a262e0c535"

/-- `SOURCE_DESCRIPTORS`. -/
def sourceDescriptors : List SourceDescriptor :=
  [⟨"ictt.token-home.abstract", 1, .abstractBase, .unsupported,
      "icm-contracts/avalanche/ictt/TokenHome/TokenHome.sol"⟩,
   ⟨"ictt.token-home.erc20", 1, .erc20TokenHome, .supported,
      "icm-contracts/avalanche/ictt/TokenHome/ERC20TokenHome.sol"⟩,
   ⟨"ictt.token-home.erc20-upgradeable", 1, .erc20TokenHome, .supported,
      "icm-contracts/avalanche/ictt/TokenHome/ERC20TokenHomeUpgradeable.sol"⟩,
   ⟨"ictt.token-home.native", 1, .nativeTokenHome, .supported,
      "icm-contracts/avalanche/ictt/TokenHome/NativeTokenHome.sol"⟩,
   ⟨"ictt.token-home.native-upgradeable", 1, .nativeTokenHome, .supported,
      "icm-contracts/avalanche/ictt/TokenHome/NativeTokenHomeUpgradeable.sol"⟩,
   ⟨"ictt.token-remote.abstract", 1, .abstractBase, .unsupported,
      "icm-contracts/avalanche/ictt/TokenRemote/TokenRemote.sol"⟩,
   ⟨"ictt.token-remote.erc20", 1, .erc20TokenRemote, .supported,
      "icm-contracts/avalanche/ictt/TokenRemote/ERC20TokenRemote.sol"⟩,
   ⟨"ictt.token-remote.erc20-upgradeable", 1, .erc20TokenRemote, .supported,
      "icm-contracts/avalanche/ictt/TokenRemote/ERC20TokenRemoteUpgradeable.sol"⟩,
   ⟨"ictt.token-remote.native", 1, .nativeTokenRemote, .limited,
      "icm-contracts/avalanche/ictt/TokenRemote/NativeTokenRemote.sol"⟩,
   ⟨"ictt.token-remote.native-upgradeable", 1, .nativeTokenRemote, .limited,
      "icm-contracts/avalanche/ictt/TokenRemote/NativeTokenRemoteUpgradeable.sol"⟩,
   ⟨"teleporter.messenger", 1, .teleporterMessenger, .supported,
      "icm-contracts/avalanche/teleporter/TeleporterMessenger.sol"⟩,
   ⟨"teleporter.registry", 1, .teleporterRegistry, .supported,
      "icm-contracts/avalanche/teleporter/registry/TeleporterRegistry.sol"⟩,
   ⟨"teleporter-v2-experimental.warp-adapter", 1, .warpAdapter, .unsupported,
      "icm-contracts/avalanche/teleporterV2/WarpAdapter.sol"⟩,
   ⟨"utilities.token-scaling", 1, .library, .supported, "icm-contracts/avalanche/utilities/TokenScalingUtils.sol"⟩]

structure SourceRef where
  commitSha : String
  path : String

structure FingerprintExpectation where
  runtimeCodeHash : Option String
  allowedImplementationHashes : List String
  sourceRef : Option SourceRef

inductive ProxyKind where
  | none
  | erc1967
  | transparent
  | beacon
  deriving DecidableEq, Repr

structure ProxyExpectation where
  kind : ProxyKind
  implementation : Option String
  admin : Option String

structure Contract where
  role : ContractRole
  address : String
  deploymentBlock : Nat
  proxy : ProxyExpectation
  fingerprint : FingerprintExpectation

/-- An approved contract with its chain. -/
structure Deployment where
  chain : ChainIdentity
  contract : Contract

/-- `endpointPseudonym`. -/
def endpointPseudonym (hash : String → String) (deploymentId endpointId : String) : String :=
  "ep-" ++ String.ofList ((hash (deploymentId ++ "|" ++ endpointId)).toList.take 16)

/-- A stable pseudonym for an endpoint. A URL never appears in evidence. -/
def witnessId (sha256 : String → String) (deploymentId endpointId : String) : String :=
  endpointPseudonym (Evidence.domainSeparatedSha256 sha256 "ictt-sentinel/endpoint/v1") deploymentId endpointId

/-- An explicit chain position: a number and a hash. -/
structure ChainPin where
  blockchainId : String
  blockNumber : Int
  blockHash : String
  deriving DecidableEq, Repr

/-! ## Reading code and slots -/

/-- `codeHash`, over the Keccak of the bytes. -/
def codeHash (keccak256 : List Int → String) (runtimeCodeHex : String) : Except Failure String :=
  let body := if "0x".toList.isPrefixOf runtimeCodeHex.toList then runtimeCodeHex.toList.drop 2 else runtimeCodeHex.toList
  let lower := body.map Char.toLower
  if body.length % 2 ≠ 0 || !lower.all isLowerHex then
    .error { name := "TypeError", message := "runtime code must be an even-length hex string" }
  else .ok (keccak256 ((lower.toChunks 2).map fun digits => digits.foldl (fun n c => 16 * n + hexDigitValue c) 0))

/-- `EIP1967_SLOTS`, in the order they are read. -/
def eip1967Slots : List String :=
  ["0x360894a13ba1a3210667c828492db98dca3e2076cc3735a920a3ca505d382bbc",
   "0xb53127684a568b3173ae13b9f8a6016e243e63b6e8ee1178d6a717850b5d6103",
   "0xa3f0ad74e5423aebfd80d3ef4346578335a9a72aeaee59ff6cb3582b35133d50"]

/-- The address in a slot, none where the slot is empty. -/
def slotAddress (value : Json) : Except Failure (Option String) := do
  let word ← bytes32 (some value)
  if !(word.toList.take 26 = "0x".toList ++ List.replicate 24 '0') then
    throw { name := "Error", message := "Non-address slot." }
  return if word.toList.drop 2 = List.replicate 64 '0' then none else some ("0x" ++ String.ofList (word.toList.drop 26))

/-- Code that is there. -/
def presentCode (value : Json) : Option String := value.string?.filter (· ≠ "0x")

/-! ## The probe -/

structure ObservedFingerprint where
  runtimeHash : Option String
  implementation : Option String
  implementationHash : Option String
  admin : Option String
  beacon : Option String
  deriving DecidableEq, Repr

structure Probe where
  identity : Bool
  finality : Bool
  archive : Bool
  fingerprint : Bool
  blockHash : String
  observedFingerprint : ObservedFingerprint
  acceptanceEvidence : String
  deriving DecidableEq, Repr

section Probe

variable (keccak256 : List Int → String) (deployment : Deployment) (runtime : ChainReader) (endpoint : Endpoint) (pin : ChainPin)

def blockAt (number : Int) : Except Failure Json := do
  let value ← runtime.read endpoint (.blockByRef (.number number))
  object value

/-- The block that the chain is recognised by. -/
def anchorNumber (chain : ChainIdentity) : Int :=
  if chain.genesisHash.isNone then (chain.trustedCheckpoint.map fun c => (c.blockNumber : Int)).getD 0 else 0

def anchorHash (chain : ChainIdentity) : Option String := chain.genesisHash.or (chain.trustedCheckpoint.map (·.blockHash))

/-- The endpoint names the chain by all its ids, if what is asked before holds. -/
def namesChain (pinned : Bool) : Except Failure Bool := do
  let chain := deployment.chain
  let evm ← hexQuantity (some (← runtime.read endpoint .evmChainId))
  let network ← runtime.read endpoint .networkVersion
  let warp ← bytes32 (some (← runtime.read endpoint (.warpBlockchainId pin.blockNumber)))
  let anchor ← blockAt runtime endpoint (anchorNumber chain)
  andAlso (pinned && evm = chain.evmChainId && network.string? = some (toString chain.networkId) &&
      warp = chain.blockchainId) do
    let hash ← bytes32 (anchor.field? "hash")
    andAlso (some hash = anchorHash chain) do
      let number ← hexQuantity (anchor.field? "number")
      return number = anchorNumber chain

/-- The block at the pin is the pinned one. -/
def isPinned (block : Json) : Except Failure Bool := do
  let hash ← bytes32 (block.field? "hash")
  andAlso (hash = pin.blockHash) do
    let number ← hexQuantity (block.field? "number")
    return number = pin.blockNumber

/-- The probe of finality, which fails closed. -/
def probeFinality (superseded : Bool) : Bool :=
  let chain := deployment.chain
  orFalse do
    let raw ← runtime.read endpoint (.blockByRef .finalized)
    let finalized ← object raw
    let number ← hexQuantity (finalized.field? "number")
    let exact ← blockAt runtime endpoint number
    let timestamp ← hexQuantity (finalized.field? "timestamp")
    let age := runtime.now endpoint / 1000 - timestamp
    andAlso (number ≥ pin.blockNumber) do
      let finalizedHash ← bytes32 (finalized.field? "hash")
      let exactHash ← bytes32 (exact.field? "hash")
      return finalizedHash = exactHash && age ≥ 0 && age ≤ chain.finality.maxLagSeconds &&
        (chain.finality.mode = .settledQuorum || chain.finality.acceptedStateQueries = .acceptedOnly) && !superseded

/-- What stands at the address of the contract. -/
def observeFingerprint : Except Failure ObservedFingerprint := do
  let address := deployment.contract.address
  let runtimeCode ← runtime.read endpoint (.code address pin.blockNumber)
  let runtimeHash ← (presentCode runtimeCode).mapM (codeHash keccak256)
  let slots ← eip1967Slots.mapM fun slot => do
    let value ← runtime.read endpoint (.storageSlot address slot pin.blockNumber)
    slotAddress value
  let admin := (slots[1]?).join
  let beacon := (slots[2]?).join
  let implementation ← match beacon with
    | none => pure (slots[0]?).join
    | some beacon => do
      let value ← runtime.read endpoint (.call beacon "0x5c60da1b" pin.blockNumber)
      slotAddress value
  let implementationHash ← match implementation with
    | none => pure none
    | some implementation => do
      let code ← runtime.read endpoint (.code implementation pin.blockNumber)
      (presentCode code).mapM (codeHash keccak256)
  return { runtimeHash, implementation, implementationHash, admin, beacon }

/-- The contract is the approved one. -/
def fingerprintMatches (contract : Contract) (observed : ObservedFingerprint) : Bool :=
  let source := contract.fingerprint.sourceRef
  let descriptor := source.bind fun s => sourceDescriptors.find? (·.sourcePath = s.path)
  let proxyMatches :=
    match contract.proxy.kind with
    | .none => observed.implementation.isNone && observed.admin.isNone && observed.beacon.isNone
    | kind => observed.implementation.isSome && contract.proxy.implementation = observed.implementation &&
        (if kind = .beacon then observed.beacon.isSome else observed.beacon.isNone) && contract.proxy.admin = observed.admin
  source.map (·.commitSha) = some pinnedCommitSha && descriptor.map (·.role) = some contract.role &&
    descriptor.map (·.support) = some .supported && observed.runtimeHash.isSome &&
    observed.runtimeHash = contract.fingerprint.runtimeCodeHash && proxyMatches &&
    (observed.implementation.isNone ||
      observed.implementationHash.any fun hash => contract.fingerprint.allowedImplementationHashes.contains hash)

/-- `/^0x[0-9a-f]+$/`. -/
def isHexCode (s : String) : Bool :=
  "0x".toList.isPrefixOf s.toList && !(s.toList.drop 2).isEmpty && (s.toList.drop 2).all isLowerHex

/-- The probe of the archive, which fails closed. -/
def probeArchive : Bool :=
  let contract := deployment.contract
  let start : Int := contract.deploymentBlock
  orFalse do
    let historical ← blockAt runtime endpoint start
    let code ← runtime.read endpoint (.code contract.address start)
    let logs ← runtime.read endpoint (.logs start start (some contract.address) none)
    let after ← blockAt runtime endpoint start
    andAlso (endpoint.archiveDepth = .full) do
      let number ← hexQuantity (historical.field? "number")
      andAlso (number = start) do
        let historicalHash ← bytes32 (historical.field? "hash")
        let afterHash ← bytes32 (after.field? "hash")
        return historicalHash = afterHash && code.string?.any isHexCode && logs.elements?.isSome

def probeDeployment : Except Failure Probe := do
  let chain := deployment.chain
  let initial ← blockAt runtime endpoint pin.blockNumber
  let pinned ← isPinned pin initial
  let identity ← namesChain deployment runtime endpoint pin pinned
  let timestamp ← hexQuantity (initial.field? "timestamp")
  let superseded := !finalityBasisStands chain.finality.mode.text
    { evmChainId := chain.evmChainId, blockchainId := chain.blockchainId } timestamp
  let finality := probeFinality deployment runtime endpoint pin superseded
  let observed ← observeFingerprint keccak256 deployment runtime endpoint pin
  let archive := probeArchive deployment runtime endpoint
  let after ← blockAt runtime endpoint pin.blockNumber
  let stable ← isPinned pin after
  let blockHash ← bytes32 (after.field? "hash")
  return {
    identity := identity && stable
    finality := finality && stable
    archive := archive && stable
    fingerprint := fingerprintMatches deployment.contract observed && stable
    blockHash
    observedFingerprint := observed
    acceptanceEvidence :=
      if superseded then "superseded-by-acp-194"
      else if !finality then "unproven"
      else if chain.finality.mode = .settledQuorum then
        "finalized-tag-probe; explicit-number-hash-recheck; settled-quorum"
      else "finalized-tag-probe; explicit-number-hash-recheck; operator-accepted-only-attestation" }

end Probe

end IcttSentinel.Collector
