/-
The economic model of one canonical ERC20 route, packages/collector/src/model.ts: from the decoded
facts of the two sides up to their pins, the transfers in flight, the credited effects with their
sources, and the edges that leave the cut open. Ids and addresses are lowercase hex, so the
case-insensitive comparison is one of ASCII letters.
-/
import IcttSentinel.InvariantCore.Inputs
import IcttSentinel.Lib.Grouping
import IcttSentinel.Lib.Sorting

namespace IcttSentinel.Collector

open IcttSentinel.InvariantCore IcttSentinel.Lib

structure LogCoordinate where
  blockNumber : Int
  blockHash : String
  txHash : String
  logIndex : Int
  blockTimestamp : Int
  deriving DecidableEq, Repr

structure Fact (T : Type) where
  value : T
  coord : LogCoordinate
  deriving DecidableEq, Repr

/-- `TransferrerMessageType`. -/
inductive MessageType where
  | registerRemote
  | singleHopSend
  | singleHopCall
  | multiHopSend
  | multiHopCall
  deriving DecidableEq, Repr

def MessageType.text : MessageType → String
  | .registerRemote => "REGISTER_REMOTE"
  | .singleHopSend => "SINGLE_HOP_SEND"
  | .singleHopCall => "SINGLE_HOP_CALL"
  | .multiHopSend => "MULTI_HOP_SEND"
  | .multiHopCall => "MULTI_HOP_CALL"

structure SingleHopSend where
  recipient : String
  amount : Int
  deriving DecidableEq, Repr

/-- The decoded payload; `singleHopSend` is present for `SINGLE_HOP_SEND` only. -/
structure TransferrerPayload where
  messageType : MessageType
  singleHopSend : Option SingleHopSend
  deriving DecidableEq, Repr

structure TokensSentEvent where
  messageId : String
  sender : String
  destinationBlockchainId : String
  destinationTokenTransferrerAddress : String
  recipient : String
  multiHopFallback : String
  amount : Int
  deriving DecidableEq, Repr

structure TokensRoutedEvent where
  messageId : String
  destinationBlockchainId : String
  destinationTokenTransferrerAddress : String
  amount : Int
  deriving DecidableEq, Repr

structure MessageOutcomeEvent where
  messageId : String
  sourceBlockchainId : String
  deriving DecidableEq, Repr

/-- A Teleporter delivery, with the ICTT payload. -/
structure Delivery where
  messageId : String
  sourceBlockchainId : String
  originSenderAddress : String
  destinationAddress : String
  payload : TransferrerPayload
  deriving DecidableEq, Repr

structure PinRef where
  blockNumber : Int
  blockHash : String
  timestamp : Int
  deriving DecidableEq, Repr

/-- Everything one side of a route contributed up to its pin. -/
structure SideFacts where
  blockchainId : String
  pin : PinRef
  sent : List (Fact TokensSentEvent)
  unsupportedSends : List (Fact TokensRoutedEvent)
  delivered : List (Fact Delivery)
  executed : List (Fact MessageOutcomeEvent)
  failed : List (Fact MessageOutcomeEvent)
  deriving DecidableEq, Repr

structure Route where
  homeBlockchainId : String
  tokenHomeAddress : String
  remoteBlockchainId : String
  remoteAddress : String
  deriving DecidableEq, Repr

inductive TraceState where
  | sourceAccounted
  | delivered
  | executedFailed
  | executedSuccess
  deriving DecidableEq, Repr

structure MessageTrace where
  direction : Direction
  messageId : String
  state : TraceState
  source : Option (Fact TokensSentEvent)
  delivery : Option (Fact Delivery)
  failures : List (Fact MessageOutcomeEvent)
  executions : List (Fact MessageOutcomeEvent)
  deriving DecidableEq, Repr

structure OpenEdge where
  direction : Direction
  messageId : String
  deriving DecidableEq, Repr

structure RouteAssessment where
  pending : List PendingEnvelope
  effects : List CreditedEffect
  openEdges : List OpenEdge
  unsupported : List String
  messages : List MessageTrace
  deriving DecidableEq, Repr

/-- What several loop iterations pushed, in order. -/
def RouteAssessment.concat (parts : List RouteAssessment) : RouteAssessment where
  pending := parts.flatMap (·.pending)
  effects := parts.flatMap (·.effects)
  openEdges := parts.flatMap (·.openEdges)
  unsupported := parts.flatMap (·.unsupported)
  messages := parts.flatMap (·.messages)

def RouteAssessment.nothing : RouteAssessment := .concat []

def same (a b : String) : Bool := a.toLower = b.toLower

/-- One direction of a route: `Direction` in the source. -/
structure RouteDirection where
  direction : Direction
  source : SideFacts
  destination : SideFacts
  isRouteSend : TokensSentEvent → Bool
  isRouteDelivery : Delivery → Bool

namespace RouteDirection

variable (d : RouteDirection)

def sends : List (Fact TokensSentEvent) := d.source.sent.filter fun f => d.isRouteSend f.value
def sendsById : Groups String (Fact TokensSentEvent) := groupBy (fun f => f.value.messageId) d.sends
def deliveries : List (Fact Delivery) := d.destination.delivered.filter fun f => d.isRouteDelivery f.value
def deliveredById : Groups String (Fact Delivery) := groupBy (fun f => f.value.messageId) d.deliveries
def executedById : Groups String (Fact MessageOutcomeEvent) :=
  groupBy (fun f => f.value.messageId) d.destination.executed
def failedById : Groups String (Fact MessageOutcomeEvent) :=
  groupBy (fun f => f.value.messageId) d.destination.failed

end RouteDirection

section Assess

variable (d : RouteDirection) (route : Route) (digestOf : Fact TokensSentEvent → String → String)

/-- One iteration over `deliveredById`: an executed delivery is an effect of its source, or an open
edge when no source is inside the cut. -/
def assessDelivered (entry : String × List (Fact Delivery)) : RouteAssessment :=
  let (messageId, delivered) := entry
  let executions := d.executedById.at_ messageId
  let failures := d.failedById.at_ messageId
  let source := d.sendsById.at_ messageId
  let delivery := delivered.head?
  let amount := (delivery.bind fun f => f.value.payload.singleHopSend).map (·.amount)
  let sourceFact := if source.length = 1 then source.head? else none
  if executions.length = 0 then .nothing
  else
    { pending := []
      openEdges := if source.length = 0 then [{ direction := d.direction, messageId }] else []
      effects :=
        if source.length = 0 then []
        else match amount with
          | none => []
          | some amount =>
            [{ messageKey := messageId
               remoteBlockchainId := route.remoteBlockchainId
               remoteAddress := route.remoteAddress
               amount
               hasUniqueAuthorisedSource := source.length = 1
               routeMatchesSource := match sourceFact with
                | none => false
                | some f => f.value.amount = amount
               duplicateEffect := executions.length > 1 || delivered.length > 1
               causalSourceFact := sourceFact.map fun f => digestOf f d.source.blockchainId }]
      unsupported := []
      messages :=
        [{ direction := d.direction, messageId, state := .executedSuccess, source := sourceFact, delivery,
           failures, executions }] }

/-- One iteration over `sendsById`: a send not executed inside the destination cut is in flight. -/
def assessSent (entry : String × List (Fact TokensSentEvent)) : RouteAssessment :=
  let (messageId, facts) := entry
  match facts.head? with
  | none => .nothing
  | some fact =>
    let duplicate :=
      if facts.length > 1 then [d.direction.text ++ ":duplicate-send-" ++ messageId] else []
    if (d.executedById.at_ messageId).length > 0 && d.deliveredById.has messageId then
      { RouteAssessment.nothing with unsupported := duplicate }
    else
      let delivery := (d.deliveredById.at_ messageId).head?
      let failures := d.failedById.at_ messageId
      let age := d.source.pin.timestamp - fact.coord.blockTimestamp
      { pending :=
          [{ messageKey := messageId
             direction := d.direction
             amount := fact.value.amount
             ageSeconds := if age < 0 then 0 else age
             remoteBlockchainId := route.remoteBlockchainId
             remoteAddress := route.remoteAddress }]
        effects := []
        openEdges := []
        unsupported := duplicate
        messages :=
          [{ direction := d.direction
             messageId
             state :=
               if failures.length > 0 then .executedFailed
               else if delivery ≠ none then .delivered
               else .sourceAccounted
             source := some fact
             delivery
             failures
             executions := [] }] }

def assessDirection : RouteAssessment :=
  let types := d.deliveries.filterMap fun f =>
    if f.value.payload.messageType ≠ .singleHopSend then
      some (d.direction.text ++ ":" ++ f.value.payload.messageType.text)
    else none
  .concat ({ RouteAssessment.nothing with unsupported := types } ::
    d.deliveredById.rows.map (assessDelivered d route digestOf) ++ d.sendsById.rows.map (assessSent d route))

end Assess

/-- The two predicates on each side's facts that a direction of the route is made of. -/
def sendsToRemote (route : Route) (e : TokensSentEvent) : Bool :=
  same e.destinationBlockchainId route.remoteBlockchainId &&
    same e.destinationTokenTransferrerAddress route.remoteAddress

def sendsToHome (route : Route) (e : TokensSentEvent) : Bool :=
  same e.destinationBlockchainId route.homeBlockchainId &&
    same e.destinationTokenTransferrerAddress route.tokenHomeAddress

def deliveredToRemote (route : Route) (m : Delivery) : Bool :=
  same m.sourceBlockchainId route.homeBlockchainId && same m.originSenderAddress route.tokenHomeAddress &&
    same m.destinationAddress route.remoteAddress

def deliveredToHome (route : Route) (m : Delivery) : Bool :=
  same m.sourceBlockchainId route.remoteBlockchainId && same m.originSenderAddress route.remoteAddress &&
    same m.destinationAddress route.tokenHomeAddress

def homeToRemote (route : Route) (home remote : SideFacts) : RouteDirection where
  direction := .homeToRemote
  source := home
  destination := remote
  isRouteSend := sendsToRemote route
  isRouteDelivery := deliveredToRemote route

def remoteToHome (route : Route) (home remote : SideFacts) : RouteDirection where
  direction := .remoteToHome
  source := remote
  destination := home
  isRouteSend := sendsToHome route
  isRouteDelivery := deliveredToHome route

/-- Assess one approved route at its two pins. -/
def assessRoute (route : Route) (home remote : SideFacts)
    (digestOf : Fact TokensSentEvent → String → String) : RouteAssessment :=
  let h2r := assessDirection (homeToRemote route home remote) route digestOf
  let r2h := assessDirection (remoteToHome route home remote) route digestOf
  let routed := home.unsupportedSends.filterMap fun f =>
    if same f.value.destinationBlockchainId route.remoteBlockchainId &&
        same f.value.destinationTokenTransferrerAddress route.remoteAddress then
      some "home-to-remote:routed-or-send-and-call"
    else none
  let multiHop := remote.sent.filterMap fun f =>
    if !same f.value.destinationBlockchainId route.homeBlockchainId then some "remote-to-home:multi-hop" else none
  let sendAndCall := if remote.unsupportedSends.length > 0 then ["remote-to-home:send-and-call"] else []
  { pending := h2r.pending ++ r2h.pending
    effects := h2r.effects ++ r2h.effects
    openEdges := h2r.openEdges ++ r2h.openEdges
    unsupported := sortStrings (h2r.unsupported ++ r2h.unsupported ++ routed ++ multiHop ++ sendAndCall).eraseDups
    messages := h2r.messages ++ r2h.messages }

end IcttSentinel.Collector
