/-
Event and call codecs, packages/ictt-adapters/src/events.ts. Decoding is strict: a log whose length, offsets
or padding do not fit is refused, never read as the nearest plausible value. Keccak is a parameter.
-/
import IcttSentinel.Collector.Model
import IcttSentinel.Collector.Probe

namespace IcttSentinel.Adapters

open IcttSentinel.Collector IcttSentinel.RpcQuorum IcttSentinel.Storage

/-! ## Signatures -/

def sendTokensInput : String := "(bytes32,address,address,address,uint256,uint256,uint256,address)"

def sendAndCallInput : String := "(bytes32,address,address,bytes,uint256,uint256,address,address,address,uint256,uint256)"

def teleporterMessage : String := "(uint256,address,bytes32,address,uint256,address[],(uint256,address)[],bytes)"

inductive EventName where
  | tokensSent
  | tokensAndCallSent
  | tokensRouted
  | tokensAndCallRouted
  | collateralAdded
  | remoteRegistered
  | receiveCrossChainMessage
  | messageExecuted
  | messageExecutionFailed
  deriving DecidableEq, Repr

def EventName.text : EventName → String
  | .tokensSent => "tokensSent"
  | .tokensAndCallSent => "tokensAndCallSent"
  | .tokensRouted => "tokensRouted"
  | .tokensAndCallRouted => "tokensAndCallRouted"
  | .collateralAdded => "collateralAdded"
  | .remoteRegistered => "remoteRegistered"
  | .receiveCrossChainMessage => "receiveCrossChainMessage"
  | .messageExecuted => "messageExecuted"
  | .messageExecutionFailed => "messageExecutionFailed"

/-- `EVENT_SIGNATURES`. -/
def EventName.signature : EventName → String
  | .tokensSent => "TokensSent(bytes32,address," ++ sendTokensInput ++ ",uint256)"
  | .tokensAndCallSent => "TokensAndCallSent(bytes32,address," ++ sendAndCallInput ++ ",uint256)"
  | .tokensRouted => "TokensRouted(bytes32," ++ sendTokensInput ++ ",uint256)"
  | .tokensAndCallRouted => "TokensAndCallRouted(bytes32," ++ sendAndCallInput ++ ",uint256)"
  | .collateralAdded => "CollateralAdded(bytes32,address,uint256,uint256)"
  | .remoteRegistered => "RemoteRegistered(bytes32,address,uint256,uint8)"
  | .receiveCrossChainMessage => "ReceiveCrossChainMessage(bytes32,bytes32,address,address," ++ teleporterMessage ++ ")"
  | .messageExecuted => "MessageExecuted(bytes32,bytes32)"
  | .messageExecutionFailed => "MessageExecutionFailed(bytes32,bytes32," ++ teleporterMessage ++ ")"

/-- `hash`, of a text of ASCII letters. -/
def hash (keccak256 : List Int → String) (text : String) : String := keccak256 (text.toList.map fun c => (c.toNat : Int))

/-- `EVENT_TOPICS[name]`. -/
def eventTopic (keccak256 : List Int → String) (name : EventName) : String := hash keccak256 name.signature

structure EventLog where
  address : String
  topics : List String
  data : String

/-! ## Word reading -/

def abiError {α : Type} (message : String) : Except Failure α := .error { name := "AbiDecodeError", message }

def abiUnless (holds : Bool) (message : String) : Except Failure Unit := if holds then .ok () else abiError message

/-- The digits of the data. -/
def body (data : String) : Except Failure (List Char) := do
  abiUnless (isHexData data) "data is not lowercase hex"
  return data.toList.drop 2

def wordAt (hex : List Char) (index : Nat) : Except Failure (List Char) := do
  let w := (hex.drop (index * 64)).take 64
  abiUnless (w.length = 64) "read past the end of the data"
  return w

def uint (w : List Char) : Int := w.foldl (fun n c => 16 * n + hexDigitValue c) 0

def address (w : List Char) : Except Failure String := do
  abiUnless (w.take 24 = List.replicate 24 '0') "address word is not zero-padded"
  return "0x" ++ String.ofList (w.drop 24)

def bytes32 (w : List Char) : String := "0x" ++ String.ofList w

/-- An offset or length that must fit inside `limit` bytes and be word-aligned when asked. -/
def position (w : List Char) (limit : Nat) (aligned : Bool) : Except Failure Nat := do
  abiUnless (uint w ≤ limit) "offset or length out of bounds"
  let n := (uint w).toNat
  abiUnless (!aligned || n % 32 = 0) "offset is not word-aligned"
  return n

def exactWords (hex : List Char) (n : Nat) : Except Failure Unit :=
  abiUnless (hex.length = n * 64) ("expected exactly " ++ toString n ++ " data words")

def topic (log : EventLog) (i : Nat) : Except Failure String :=
  match log.topics[i]? with
  | some t => .ok t
  | none => abiError "missing topic"

/-- A `bytes` value whose length word sits at byte offset `start` of `hex`. -/
def dynamicBytes (hex : List Char) (start : Nat) : Except Failure (List Char) := do
  abiUnless (start % 32 = 0) "bytes offset is not word-aligned"
  let lengthWord ← wordAt hex (start / 32)
  let length ← position lengthWord (hex.length / 2) false
  let first := (start / 32 + 1) * 64
  let stop := first + length * 2
  abiUnless (stop ≤ hex.length) "bytes run past the end of the data"
  -- Solidity pads to a whole word
  let padded := first + (length + 31) / 32 * 64
  abiUnless (padded ≤ hex.length && ((hex.take padded).drop stop).all (· = '0')) "bytes padding is not zero"
  return (hex.take stop).drop first

/-! ## Events -/

structure RemoteRegisteredEvent where
  remoteBlockchainId : String
  remoteTokenTransferrerAddress : String
  initialCollateralNeeded : Int
  tokenDecimals : Int
  deriving DecidableEq, Repr

structure CollateralAddedEvent where
  remoteBlockchainId : String
  remoteTokenTransferrerAddress : String
  amount : Int
  remaining : Int
  deriving DecidableEq, Repr

structure ReceivedMessage where
  messageId : String
  sourceBlockchainId : String
  originSenderAddress : String
  destinationBlockchainId : String
  destinationAddress : String
  message : String
  deriving DecidableEq, Repr

section Events

variable (keccak256 : List Int → String)

def expectTopics (log : EventLog) (name : EventName) (count : Nat) : Except Failure Unit := do
  abiUnless (log.topics.length = count) (name.text ++ ": wrong topic count")
  abiUnless (log.topics[0]? = some (eventTopic keccak256 name)) (name.text ++ ": wrong topic0")
  abiUnless (log.topics.all (matchesHex "0x" 64)) (name.text ++ ": malformed topic")

/-- The address in a topic. -/
def topicAddress (log : EventLog) (i : Nat) : Except Failure String := do
  let t ← topic log i
  address (t.toList.drop 2)

/-- Fully static. -/
def decodeTokensSent (log : EventLog) : Except Failure TokensSentEvent := do
  expectTopics keccak256 log .tokensSent 3
  let hex ← body log.data
  exactWords hex 9
  return {
    messageId := ← topic log 1
    sender := ← topicAddress log 2
    destinationBlockchainId := bytes32 (← wordAt hex 0)
    destinationTokenTransferrerAddress := ← address (← wordAt hex 1)
    recipient := ← address (← wordAt hex 2)
    multiHopFallback := ← address (← wordAt hex 7)
    amount := uint (← wordAt hex 8) }

/-- Fully static. -/
def decodeTokensRouted (log : EventLog) : Except Failure TokensRoutedEvent := do
  expectTopics keccak256 log .tokensRouted 2
  let hex ← body log.data
  exactWords hex 9
  return {
    messageId := ← topic log 1
    destinationBlockchainId := bytes32 (← wordAt hex 0)
    destinationTokenTransferrerAddress := ← address (← wordAt hex 1)
    amount := uint (← wordAt hex 8) }

/-- `TokensAndCallSent` or `TokensAndCallRouted`: only the destination and the amount. -/
def decodeTokensAndCall (log : EventLog) (name : EventName) : Except Failure TokensRoutedEvent := do
  expectTopics keccak256 log name (if name = .tokensAndCallSent then 3 else 2)
  let hex ← body log.data
  abiUnless (128 ≤ hex.length) (name.text ++ ": data too short")
  let offset ← position (← wordAt hex 0) (hex.length / 2) true
  let tuple := offset / 32
  return {
    messageId := ← topic log 1
    destinationBlockchainId := bytes32 (← wordAt hex tuple)
    destinationTokenTransferrerAddress := ← address (← wordAt hex (tuple + 1))
    amount := uint (← wordAt hex 1) }

def decodeRemoteRegistered (log : EventLog) : Except Failure RemoteRegisteredEvent := do
  expectTopics keccak256 log .remoteRegistered 3
  let hex ← body log.data
  exactWords hex 2
  let decimals := uint (← wordAt hex 1)
  abiUnless (decimals ≤ 255) "remoteRegistered: decimals exceed uint8"
  return {
    remoteBlockchainId := ← topic log 1
    remoteTokenTransferrerAddress := ← topicAddress log 2
    initialCollateralNeeded := uint (← wordAt hex 0)
    tokenDecimals := decimals }

def decodeCollateralAdded (log : EventLog) : Except Failure CollateralAddedEvent := do
  expectTopics keccak256 log .collateralAdded 3
  let hex ← body log.data
  exactWords hex 2
  return {
    remoteBlockchainId := ← topic log 1
    remoteTokenTransferrerAddress := ← topicAddress log 2
    amount := uint (← wordAt hex 0)
    remaining := uint (← wordAt hex 1) }

/-- Delivery only; execution is a separate event. -/
def decodeReceiveCrossChainMessage (log : EventLog) : Except Failure ReceivedMessage := do
  expectTopics keccak256 log .receiveCrossChainMessage 4
  let hex ← body log.data
  -- the reward redeemer is validated and not used
  let _ ← address (← wordAt hex 0)
  let tuple ← position (← wordAt hex 1) (hex.length / 2) true
  let start := tuple / 32
  let struct := hex.drop (tuple * 2)
  abiUnless (512 ≤ struct.length) "receiveCrossChainMessage: struct too short"
  let limit := struct.length / 2
  let _ ← position (← wordAt struct 5) limit true
  let _ ← position (← wordAt struct 6) limit true
  let messageAt ← position (← wordAt struct 7) limit true
  return {
    messageId := ← topic log 1
    sourceBlockchainId := ← topic log 2
    originSenderAddress := ← address (← wordAt hex (start + 1))
    destinationBlockchainId := bytes32 (← wordAt hex (start + 2))
    destinationAddress := ← address (← wordAt hex (start + 3))
    message := "0x" ++ String.ofList (← dynamicBytes struct messageAt) }

def decodeMessageExecuted (log : EventLog) : Except Failure MessageOutcomeEvent := do
  expectTopics keccak256 log .messageExecuted 3
  exactWords (← body log.data) 0
  return { messageId := ← topic log 1, sourceBlockchainId := ← topic log 2 }

/-- Delivered, but the application call reverted. -/
def decodeMessageExecutionFailed (log : EventLog) : Except Failure MessageOutcomeEvent := do
  expectTopics keccak256 log .messageExecutionFailed 3
  let _ ← body log.data
  return { messageId := ← topic log 1, sourceBlockchainId := ← topic log 2 }

end Events

/-! ## Payloads -/

/-- `TRANSFERRER_MESSAGE_TYPES`, in declaration order. -/
def transferrerMessageTypes : List MessageType :=
  [.registerRemote, .singleHopSend, .singleHopCall, .multiHopSend, .multiHopCall]

/-- The type of a message, and the payload of a single hop; other types are classified but not interpreted. -/
def decodeTransferrerMessage (message : String) : Except Failure TransferrerPayload := do
  let hex ← body message
  abiUnless (256 ≤ hex.length) "transferrer message too short"
  let tuple ← position (← wordAt hex 0) (hex.length / 2) true
  let struct := hex.drop (tuple * 2)
  let typeIndex := uint (← wordAt struct 0)
  let messageType ← orFail "AbiDecodeError" "unknown transferrer message type" transferrerMessageTypes[typeIndex.toNat]?
  let payload ← dynamicBytes struct (← position (← wordAt struct 1) (struct.length / 2) true)
  if messageType = .singleHopSend then do
    exactWords payload 2
    let recipient ← address (← wordAt payload 0)
    let amount := uint (← wordAt payload 1)
    return { messageType, singleHopSend := some { recipient, amount } }
  else return { messageType, singleHopSend := none }

/-! ## Calls -/

section Calls

variable (keccak256 : List Int → String)

def selector (signature : String) : String := String.ofList ((hash keccak256 signature).toList.take 10)

def encodeAddress (value : String) : Except Failure String := do
  abiUnless (matchesHex "0x" 40 value) "address must be lowercase hex"
  return String.ofList (List.replicate 24 '0' ++ value.toList.drop 2)

def encodeBytes32 (value : String) : Except Failure String := do
  abiUnless (matchesHex "0x" 64 value) "bytes32 must be lowercase hex"
  return String.ofList (value.toList.drop 2)

/-- `CALLS.getTransferredBalance`. -/
def getTransferredBalance (remoteBlockchainId remoteAddress : String) : Except Failure String := do
  return selector keccak256 "getTransferredBalance(bytes32,address)" ++ (← encodeBytes32 remoteBlockchainId) ++
    (← encodeAddress remoteAddress)

/-- `CALLS.getTokenAddress`. -/
def getTokenAddress : String := selector keccak256 "getTokenAddress()"

/-- `CALLS.totalSupply`. -/
def totalSupply : String := selector keccak256 "totalSupply()"

/-- `CALLS.balanceOf`. -/
def balanceOf (holder : String) : Except Failure String := do
  return selector keccak256 "balanceOf(address)" ++ (← encodeAddress holder)

/-- `CALLS.getInitialReserveImbalance`. -/
def getInitialReserveImbalance : String := selector keccak256 "getInitialReserveImbalance()"

end Calls

/-! ## Results -/

/-- The word of a single-word return value. -/
def decodeWordResult (result : String) : Except Failure (List Char) := do
  let hex ← body result
  exactWords hex 1
  wordAt hex 0

def decodeUintResult (result : String) : Except Failure Int := do
  return uint (← decodeWordResult result)

def decodeAddressResult (result : String) : Except Failure String := do
  address (← decodeWordResult result)

def decodeBytes32Result (result : String) : Except Failure String := do
  return bytes32 (← decodeWordResult result)

def bool (w : List Char) : Except Failure Bool :=
  if w = List.replicate 64 '0' then .ok false
  else if w = List.replicate 63 '0' ++ ['1'] then .ok true
  else abiError "bool word is neither 0 nor 1"

structure RemoteSettingsResult where
  registered : Bool
  collateralNeeded : Int
  tokenMultiplier : Int
  multiplyOnRemote : Bool
  deriving DecidableEq, Repr

/-- A static struct, returned as four words. -/
def decodeRemoteSettingsResult (result : String) : Except Failure RemoteSettingsResult := do
  let hex ← body result
  exactWords hex 4
  return {
    registered := ← bool (← wordAt hex 0)
    collateralNeeded := uint (← wordAt hex 1)
    tokenMultiplier := uint (← wordAt hex 2)
    multiplyOnRemote := ← bool (← wordAt hex 3) }

end IcttSentinel.Adapters
