/-
What a route's assessment depends on, packages/collector/src/model.ts: of the facts of the two sides only those that
belong to a message of the route. Executions and failures are looked up by message id among all the facts of a messenger,
so they belong to the route when a send or a delivery of the route has their id.
-/
import IcttSentinel.Collector.Model

namespace IcttSentinel.Collector

open IcttSentinel.InvariantCore IcttSentinel.Lib

/-! ## The facts of a route -/

/-- The ids of the sends and deliveries of a direction. -/
def RouteDirection.messageIds (d : RouteDirection) : List String :=
  d.sends.map (fun f => f.value.messageId) ++ d.deliveries.map fun f => f.value.messageId

/-- The ids of the messages of a route, in either direction. -/
def Route.messageIds (route : Route) (home remote : SideFacts) : List String :=
  (homeToRemote route home remote).messageIds ++ (remoteToHome route home remote).messageIds

/-- Routed and send-and-call traffic of the home that touches the remote. -/
def routedToRemote (route : Route) (e : TokensRoutedEvent) : Bool :=
  same e.destinationBlockchainId route.remoteBlockchainId &&
    same e.destinationTokenTransferrerAddress route.remoteAddress

def outcomesOf (ids : List String) (outcomes : List (Fact MessageOutcomeEvent)) : List (Fact MessageOutcomeEvent) :=
  outcomes.filter fun f => ids.contains f.value.messageId

/-- The facts of the home side without those that belong to no message of the route. -/
def Route.ownHome (route : Route) (home remote : SideFacts) : SideFacts :=
  { home with
    sent := home.sent.filter fun f => sendsToRemote route f.value
    unsupportedSends := home.unsupportedSends.filter fun f => routedToRemote route f.value
    delivered := home.delivered.filter fun f => deliveredToHome route f.value
    executed := outcomesOf (route.messageIds home remote) home.executed
    failed := outcomesOf (route.messageIds home remote) home.failed }

/-- The facts of the remote side without those that belong to no message of the route. Its sends are all its own: one that
does not go home makes the route unsupported. -/
def Route.ownRemote (route : Route) (home remote : SideFacts) : SideFacts :=
  { remote with
    delivered := remote.delivered.filter fun f => deliveredToRemote route f.value
    executed := outcomesOf (route.messageIds home remote) remote.executed
    failed := outcomesOf (route.messageIds home remote) remote.failed }

/-! ## One direction -/

/-- Two directions with the same sends and deliveries, and the same outcomes of these. -/
structure RouteDirection.Agree (d d' : RouteDirection) : Prop where
  direction : d'.direction = d.direction
  chain : d'.source.blockchainId = d.source.blockchainId
  pin : d'.source.pin = d.source.pin
  sends : d'.sends = d.sends
  deliveries : d'.deliveries = d.deliveries
  executed : ∀ id ∈ d.messageIds, d'.executedById.at_ id = d.executedById.at_ id
  failed : ∀ id ∈ d.messageIds, d'.failedById.at_ id = d.failedById.at_ id

namespace RouteDirection.Agree

variable {d d' : RouteDirection} (h : d.Agree d') (route : Route) (digestOf : Fact TokensSentEvent → String → String)
include h

theorem sendsById : d'.sendsById = d.sendsById := by
  unfold RouteDirection.sendsById
  rw [h.sends]

theorem deliveredById : d'.deliveredById = d.deliveredById := by
  unfold RouteDirection.deliveredById
  rw [h.deliveries]

theorem assessDelivered_eq {entry : String × List (Fact Delivery)} (hentry : entry ∈ d.deliveredById.rows) :
    assessDelivered d' route digestOf entry = assessDelivered d route digestOf entry := by
  obtain ⟨messageId, delivered⟩ := entry
  have hid : messageId ∈ d.messageIds :=
    List.mem_append_right _ (mem_keys_groupBy.1 (List.mem_map.2 ⟨_, hentry, rfl⟩))
  unfold assessDelivered
  simp only [h.executed _ hid, h.failed _ hid, h.sendsById, h.direction, h.chain]

theorem assessSent_eq {entry : String × List (Fact TokensSentEvent)} (hentry : entry ∈ d.sendsById.rows) :
    assessSent d' route entry = assessSent d route entry := by
  obtain ⟨messageId, facts⟩ := entry
  have hid : messageId ∈ d.messageIds :=
    List.mem_append_left _ (mem_keys_groupBy.1 (List.mem_map.2 ⟨_, hentry, rfl⟩))
  unfold assessSent
  simp only [h.executed _ hid, h.failed _ hid, h.deliveredById, h.direction, h.pin]

/-- A direction is assessed from its sends and deliveries, and from the outcomes of these. -/
theorem assessDirection_eq : assessDirection d' route digestOf = assessDirection d route digestOf := by
  have hdelivered : d.deliveredById.rows.map (assessDelivered d' route digestOf) =
      d.deliveredById.rows.map (assessDelivered d route digestOf) :=
    List.map_congr_left fun _ hentry => h.assessDelivered_eq route digestOf hentry
  have hsent : d.sendsById.rows.map (assessSent d' route) = d.sendsById.rows.map (assessSent d route) :=
    List.map_congr_left fun _ hentry => h.assessSent_eq route hentry
  unfold assessDirection
  rw [h.deliveredById, h.sendsById, h.deliveries, h.direction, hdelivered, hsent]

end RouteDirection.Agree

/-! ## Both directions -/

theorem filter_filter_self {α : Type} (p : α → Bool) (l : List α) : (l.filter p).filter p = l.filter p := by
  rw [List.filter_filter]
  simp only [Bool.and_self]

/-- The outcomes of an id of the route are all kept. -/
theorem at_outcomesOf {ids : List String} {id : String} (hid : id ∈ ids) (outcomes : List (Fact MessageOutcomeEvent)) :
    (groupBy (fun f => f.value.messageId) (outcomesOf ids outcomes)).at_ id =
      (groupBy (fun f => f.value.messageId) outcomes).at_ id := by
  rw [at_groupBy, at_groupBy, outcomesOf, List.filter_filter]
  refine List.filter_congr fun f _ => ?_
  by_cases hf : f.value.messageId = id
  · rw [hf, List.contains_iff_mem.2 hid, Bool.and_true]
  · rw [decide_eq_false hf, Bool.false_and]

/-- Traffic to other remotes is not reported. -/
theorem filterMap_routedToRemote (route : Route) (l : List (Fact TokensRoutedEvent)) (text : String) :
    ((l.filter fun f => routedToRemote route f.value).filterMap fun f =>
        if same f.value.destinationBlockchainId route.remoteBlockchainId &&
          same f.value.destinationTokenTransferrerAddress route.remoteAddress then some text else none) =
      l.filterMap fun f =>
        if same f.value.destinationBlockchainId route.remoteBlockchainId &&
          same f.value.destinationTokenTransferrerAddress route.remoteAddress then some text else none := by
  rw [List.filterMap_filter]
  refine List.filterMap_congr fun f _ => ?_
  show (if routedToRemote route f.value = true then if routedToRemote route f.value = true then some text else none
    else none) = if routedToRemote route f.value = true then some text else none
  split
  next => rfl
  next => rfl

section Frame

variable (route : Route) (home remote : SideFacts)

theorem homeToRemote_agree : (homeToRemote route home remote).Agree
    (homeToRemote route (route.ownHome home remote) (route.ownRemote home remote)) where
  direction := rfl
  chain := rfl
  pin := rfl
  sends := filter_filter_self _ _
  deliveries := filter_filter_self _ _
  executed _ hid := at_outcomesOf (List.mem_append_left _ hid) _
  failed _ hid := at_outcomesOf (List.mem_append_left _ hid) _

theorem remoteToHome_agree : (remoteToHome route home remote).Agree
    (remoteToHome route (route.ownHome home remote) (route.ownRemote home remote)) where
  direction := rfl
  chain := rfl
  pin := rfl
  sends := rfl
  deliveries := filter_filter_self _ _
  executed _ hid := at_outcomesOf (List.mem_append_right _ hid) _
  failed _ hid := at_outcomesOf (List.mem_append_right _ hid) _

/-- A route is assessed from its own facts. -/
theorem assessRoute_own (digestOf : Fact TokensSentEvent → String → String) :
    assessRoute route (route.ownHome home remote) (route.ownRemote home remote) digestOf =
      assessRoute route home remote digestOf := by
  unfold assessRoute
  rw [(homeToRemote_agree route home remote).assessDirection_eq, (remoteToHome_agree route home remote).assessDirection_eq]
  simp only [Route.ownHome, Route.ownRemote, filterMap_routedToRemote]
  rfl

end Frame

/-- Facts that belong to no message of a route, added or taken away on either side, leave its assessment as it is. -/
theorem assessRoute_frame (route : Route) (home remote home' remote' : SideFacts)
    (digestOf : Fact TokensSentEvent → String → String)
    (hhome : route.ownHome home' remote' = route.ownHome home remote)
    (hremote : route.ownRemote home' remote' = route.ownRemote home remote) :
    assessRoute route home' remote' digestOf = assessRoute route home remote digestOf := by
  rw [← assessRoute_own route home' remote', hhome, hremote, assessRoute_own]

/-! ## A route among others -/

def frameRoute : Route where
  homeBlockchainId := "0x0a"
  tokenHomeAddress := "0x1a"
  remoteBlockchainId := "0x0b"
  remoteAddress := "0x1b"

def frameFact {T : Type} (value : T) : Fact T where
  value
  coord := { blockNumber := 1, blockHash := "0xb1", txHash := "0xc1", logIndex := 0, blockTimestamp := 10 }

def frameSend (messageId destinationBlockchainId destinationTokenTransferrerAddress : String) : Fact TokensSentEvent :=
  frameFact { messageId, sender := "0xd1", destinationBlockchainId, destinationTokenTransferrerAddress,
              recipient := "0xd2", multiHopFallback := "0x00", amount := 5 }

def frameHome (sent : List (Fact TokensSentEvent)) : SideFacts where
  blockchainId := "0x0a"
  pin := { blockNumber := 9, blockHash := "0xb9", timestamp := 20 }
  sent
  unsupportedSends := []
  delivered := []
  executed := []
  failed := []

def frameRemote (failed : List (Fact MessageOutcomeEvent)) : SideFacts where
  blockchainId := "0x0b"
  pin := { blockNumber := 8, blockHash := "0xb8", timestamp := 20 }
  sent := []
  unsupportedSends := []
  delivered := []
  executed := []
  failed

/-- A send to another remote, and the failure of its message on this one's messenger. -/
theorem assessRoute_frame_otherSend :
    assessRoute frameRoute (frameHome [frameSend "0xe1" "0x0c" "0x1c", frameSend "0xe2" "0x0b" "0x1b"])
        (frameRemote [frameFact { messageId := "0xe1", sourceBlockchainId := "0x0a" }]) (fun f _ => f.value.messageId) =
      assessRoute frameRoute (frameHome [frameSend "0xe2" "0x0b" "0x1b"]) (frameRemote [])
        (fun f _ => f.value.messageId) :=
  assessRoute_frame frameRoute _ _ _ _ _ (by decide +kernel) (by decide +kernel)

end IcttSentinel.Collector
