/-
Histories of single-hop transfers between a home and a remote. The two chains are two ledgers that
only share messages: a send accounts an amount on its own side, a delivery brings the payload to
the other side, and an execution credits the payload there, after any number of failed attempts and
at most once. Events of the two sides interleave freely; heights only grow on each chain. A pin
cuts one side at a height: its ledger and its facts are those of the events up to the pin.
-/
import IcttSentinel.Collector.Model

namespace IcttSentinel.Collector

open IcttSentinel.InvariantCore IcttSentinel.Lib

inductive Side where
  | home
  | remote
  deriving DecidableEq, Repr

def Side.other : Side → Side
  | .home => .remote
  | .remote => .home

/-- What the contracts of the two sides emit. -/
inductive BridgeEvent where
  | sent (side : Side) (fact : Fact TokensSentEvent)
  | delivered (side : Side) (fact : Fact Delivery)
  | failed (side : Side) (fact : Fact MessageOutcomeEvent)
  | executed (side : Side) (fact : Fact MessageOutcomeEvent)
  deriving DecidableEq, Repr

namespace BridgeEvent

def side : BridgeEvent → Side
  | sent s _ | delivered s _ | failed s _ | executed s _ => s

def height : BridgeEvent → Int
  | sent _ f => f.coord.blockNumber
  | delivered _ f => f.coord.blockNumber
  | failed _ f => f.coord.blockNumber
  | executed _ f => f.coord.blockNumber

def sentFact : BridgeEvent → Option (Fact TokensSentEvent)
  | sent _ f => some f
  | _ => none

def deliveredFact : BridgeEvent → Option (Fact Delivery)
  | delivered _ f => some f
  | _ => none

def failedFact : BridgeEvent → Option (Fact MessageOutcomeEvent)
  | failed _ f => some f
  | _ => none

def executedFact : BridgeEvent → Option (Fact MessageOutcomeEvent)
  | executed _ f => some f
  | _ => none

theorem sentFact_eq_some {e : BridgeEvent} {f : Fact TokensSentEvent} : e.sentFact = some f ↔ e = sent e.side f := by
  cases e <;> simp [sentFact, side]

theorem deliveredFact_eq_some {e : BridgeEvent} {f : Fact Delivery} :
    e.deliveredFact = some f ↔ e = delivered e.side f := by
  cases e <;> simp [deliveredFact, side]

theorem executedFact_eq_some {e : BridgeEvent} {f : Fact MessageOutcomeEvent} :
    e.executedFact = some f ↔ e = executed e.side f := by
  cases e <;> simp [executedFact, side]

end BridgeEvent

open BridgeEvent

/-! ## Valid histories -/

/-- A send on the given side goes to the other end of the route. -/
def sendOnRoute (route : Route) : Side → TokensSentEvent → Bool
  | .home => sendsToRemote route
  | .remote => sendsToHome route

/-- A delivery on the given side comes from the other end of the route. -/
def deliveryOnRoute (route : Route) : Side → Delivery → Bool
  | .home => deliveredToHome route
  | .remote => deliveredToRemote route

/-- The event may follow the given past: a send is on the route under a new message id; a delivery
brings the single-hop payload of an earlier send, once; an attempt to execute follows its delivery
and no earlier success. Heights never decrease on a chain. -/
def Enabled (route : Route) (past : List BridgeEvent) (e : BridgeEvent) : Prop :=
  (∀ x ∈ past, x.side = e.side → x.height ≤ e.height) ∧
  match e with
  | .sent s f => sendOnRoute route s f.value = true ∧
      ∀ s' g, .sent s' g ∈ past → g.value.messageId ≠ f.value.messageId
  | .delivered s f => deliveryOnRoute route s f.value = true ∧
      f.value.payload.messageType = .singleHopSend ∧
      (∃ g p, .sent s.other g ∈ past ∧ g.value.messageId = f.value.messageId ∧
        f.value.payload.singleHopSend = some p ∧ p.amount = g.value.amount) ∧
      ∀ g, .delivered s g ∈ past → g.value.messageId ≠ f.value.messageId
  | .failed s f | .executed s f =>
      (∃ g, .delivered s g ∈ past ∧ g.value.messageId = f.value.messageId) ∧
      ∀ g, .executed s g ∈ past → g.value.messageId ≠ f.value.messageId

/-- A history of the bridge, oldest event first. -/
inductive History (route : Route) : List BridgeEvent → Prop where
  | nil : History route []
  | snoc {past : List BridgeEvent} {e : BridgeEvent} :
      History route past → Enabled route past e → History route (past ++ [e])

/-! ## The ledgers -/

/-- What a contract holds: its accounted balance, and the payloads delivered to it. -/
structure Ledger where
  balance : Int
  inbox : List (String × Int)
  deriving DecidableEq, Repr

/-- `TokenHome` adds what it sends and deducts what it executes; `TokenRemote` burns what it sends
and mints what it executes. -/
def Side.sign : Side → Int
  | .home => 1
  | .remote => -1

/-- One event on the ledger of its own side. -/
def Ledger.step (l : Ledger) : BridgeEvent → Ledger
  | .sent s f => { l with balance := l.balance + s.sign * f.value.amount }
  | .delivered _ f =>
    { l with inbox := (f.value.messageId, (f.value.payload.singleHopSend.map (·.amount)).getD 0) :: l.inbox }
  | .failed _ _ => l
  | .executed s f => { l with balance := l.balance - s.sign * (l.inbox.lookup f.value.messageId).getD 0 }

/-- The events of one side up to a height. -/
def cut (history : List BridgeEvent) (side : Side) (pin : Int) : List BridgeEvent :=
  history.filter fun e => e.side = side && e.height ≤ pin

def ledgerAt (history : List BridgeEvent) (side : Side) (pin : Int) : Ledger :=
  (cut history side pin).foldl Ledger.step { balance := 0, inbox := [] }

/-- `getTransferredBalance` of the home at the home pin. -/
def transferredBalanceAt (history : List BridgeEvent) (pin : Int) : Int := (ledgerAt history .home pin).balance

/-- `totalSupply` of the remote at the remote pin. -/
def totalSupplyAt (history : List BridgeEvent) (pin : Int) : Int := (ledgerAt history .remote pin).balance

/-- The facts of one side up to its pin. -/
def factsAt (blockchainId : String) (history : List BridgeEvent) (side : Side) (pin : PinRef) : SideFacts where
  blockchainId
  pin
  sent := (cut history side pin.blockNumber).filterMap sentFact
  unsupportedSends := []
  delivered := (cut history side pin.blockNumber).filterMap deliveredFact
  executed := (cut history side pin.blockNumber).filterMap executedFact
  failed := (cut history side pin.blockNumber).filterMap failedFact

/-! ## What holds over every history -/

theorem mem_cut {history : List BridgeEvent} {side : Side} {pin : Int} {e : BridgeEvent} :
    e ∈ cut history side pin ↔ e ∈ history ∧ e.side = side ∧ e.height ≤ pin := by
  simp [cut]

theorem cut_snoc (history : List BridgeEvent) (side : Side) (pin : Int) (e : BridgeEvent) :
    cut (history ++ [e]) side pin =
      cut history side pin ++ if e.side = side ∧ e.height ≤ pin then [e] else [] := by
  by_cases h : e.side = side ∧ e.height ≤ pin
  · simp [cut, List.filter_append, h]
  · simp only [cut, List.filter_append, if_neg h]
    simp only [not_and] at h
    by_cases hs : e.side = side <;> simp [hs, h]

theorem mem_sent {history : List BridgeEvent} {side : Side} {pin : Int} {f : Fact TokensSentEvent} :
    f ∈ (cut history side pin).filterMap sentFact ↔ .sent side f ∈ history ∧ f.coord.blockNumber ≤ pin := by
  simp only [List.mem_filterMap, mem_cut, sentFact_eq_some]
  constructor
  · rintro ⟨e, ⟨he, rfl, hp⟩, hf⟩
    rw [hf] at he hp
    exact ⟨he, hp⟩
  · rintro ⟨he, hp⟩
    exact ⟨_, ⟨he, rfl, hp⟩, rfl⟩

theorem mem_delivered {history : List BridgeEvent} {side : Side} {pin : Int} {f : Fact Delivery} :
    f ∈ (cut history side pin).filterMap deliveredFact ↔
      .delivered side f ∈ history ∧ f.coord.blockNumber ≤ pin := by
  simp only [List.mem_filterMap, mem_cut, deliveredFact_eq_some]
  constructor
  · rintro ⟨e, ⟨he, rfl, hp⟩, hf⟩
    rw [hf] at he hp
    exact ⟨he, hp⟩
  · rintro ⟨he, hp⟩
    exact ⟨_, ⟨he, rfl, hp⟩, rfl⟩

theorem mem_executed {history : List BridgeEvent} {side : Side} {pin : Int} {f : Fact MessageOutcomeEvent} :
    f ∈ (cut history side pin).filterMap executedFact ↔
      .executed side f ∈ history ∧ f.coord.blockNumber ≤ pin := by
  simp only [List.mem_filterMap, mem_cut, executedFact_eq_some]
  constructor
  · rintro ⟨e, ⟨he, rfl, hp⟩, hf⟩
    rw [hf] at he hp
    exact ⟨he, hp⟩
  · rintro ⟨he, hp⟩
    exact ⟨_, ⟨he, rfl, hp⟩, rfl⟩

/-- The invariant of a history, relative to a function that gives every message id its amount. -/
structure WellFormed (route : Route) (amountOf : String → Int) (history : List BridgeEvent) : Prop where
  sent : ∀ s f, .sent s f ∈ history →
    sendOnRoute route s f.value = true ∧ f.value.amount = amountOf f.value.messageId
  sentOnce : ((history.filterMap sentFact).map (·.value.messageId)).Nodup
  delivered : ∀ s f, .delivered s f ∈ history → deliveryOnRoute route s f.value = true ∧
    f.value.payload.messageType = .singleHopSend ∧
    ∃ p, f.value.payload.singleHopSend = some p ∧ p.amount = amountOf f.value.messageId
  deliveredOnce : ∀ s pin, (((cut history s pin).filterMap deliveredFact).map (·.value.messageId)).Nodup
  executed : ∀ s f, .executed s f ∈ history → ∃ g, .delivered s g ∈ history ∧
    g.value.messageId = f.value.messageId ∧ g.coord.blockNumber ≤ f.coord.blockNumber
  executedOnce : ∀ s pin, (((cut history s pin).filterMap executedFact).map (·.value.messageId)).Nodup

/-- Message ids are used for one send each, so an id determines the amount. -/
theorem exists_amountOf {route : Route} {history : List BridgeEvent} (h : History route history) :
    ∃ amountOf : String → Int, ∀ s f, .sent s f ∈ history → f.value.amount = amountOf f.value.messageId := by
  induction h with
  | nil => exact ⟨fun _ => 0, fun s f hf => by simp at hf⟩
  | @snoc past e _ henabled ih =>
    obtain ⟨amountOf, ha⟩ := ih
    cases e with
    | sent s f =>
      refine ⟨Function.update amountOf f.value.messageId f.value.amount, fun s' g hg => ?_⟩
      rcases List.mem_append.1 hg with hg | hg
      · rw [Function.update_of_ne (henabled.2.2 s' g hg)]
        exact ha s' g hg
      · obtain ⟨-, rfl⟩ := BridgeEvent.sent.inj (List.mem_singleton.1 hg)
        simp
    | delivered s f => exact ⟨amountOf, fun s' g hg => ha s' g (by simpa using hg)⟩
    | failed s f => exact ⟨amountOf, fun s' g hg => ha s' g (by simpa using hg)⟩
    | executed s f => exact ⟨amountOf, fun s' g hg => ha s' g (by simpa using hg)⟩

/-- Appending to a list keeps the keys of its selected elements distinct, if the new one's is new. -/
theorem nodup_keys_snoc {α β κ : Type} {select : α → Option β} {key : β → κ} {l : List α} {a : α}
    (h : ((l.filterMap select).map key).Nodup)
    (ha : ∀ b, select a = some b → key b ∉ (l.filterMap select).map key) :
    (((l ++ [a]).filterMap select).map key).Nodup := by
  rw [List.filterMap_append, List.map_append]
  cases hb : select a with
  | none => simpa [List.filterMap_cons, hb] using h
  | some b =>
    simp only [List.filterMap_cons, hb, List.filterMap_nil, List.map_singleton]
    refine List.Nodup.append h (List.nodup_singleton _) ?_
    simpa [List.disjoint_singleton] using ha b hb

/-- Every history keeps the invariant. -/
theorem History.wellFormed {route : Route} {amountOf : String → Int} {history : List BridgeEvent}
    (h : History route history)
    (ha : ∀ s f, .sent s f ∈ history → f.value.amount = amountOf f.value.messageId) :
    WellFormed route amountOf history := by
  induction h with
  | nil =>
    exact ⟨by simp, by simp, by simp, by simp [cut], by simp, by simp [cut]⟩
  | @snoc past e _ henabled ih =>
    have ih := ih fun s f hf => ha s f (List.mem_append_left _ hf)
    obtain ⟨hheight, henabled⟩ := henabled
    refine ⟨fun s f hf => ?_, ?_, fun s f hf => ?_, fun s pin => ?_, fun s f hf => ?_, fun s pin => ?_⟩
    · refine ⟨?_, ha s f hf⟩
      rcases List.mem_append.1 hf with hf | hf
      · exact (ih.sent s f hf).1
      · rw [← List.mem_singleton.1 hf] at henabled
        exact henabled.1
    · refine nodup_keys_snoc ih.sentOnce fun f hf hmem => ?_
      rw [sentFact_eq_some.1 hf] at henabled
      obtain ⟨g, hg, hid⟩ := List.mem_map.1 hmem
      obtain ⟨x, hx, hgx⟩ := List.mem_filterMap.1 hg
      rw [sentFact_eq_some.1 hgx] at hx
      exact henabled.2 _ g hx hid
    · rcases List.mem_append.1 hf with hf | hf
      · exact ih.delivered s f hf
      · rw [← List.mem_singleton.1 hf] at henabled
        -- a new delivery names a send of the past, whose amount is that of its message
        obtain ⟨hroute, htype, ⟨g, p, hg, hid, hp, hamount⟩, -⟩ := henabled
        refine ⟨hroute, htype, p, hp, ?_⟩
        rw [hamount, ← hid]
        exact ha _ g (List.mem_append_left _ hg)
    · rw [cut_snoc]
      split
      · rename_i hin
        refine nodup_keys_snoc (ih.deliveredOnce s pin) fun f hf hmem => ?_
        obtain ⟨g, hg, hid⟩ := List.mem_map.1 hmem
        rw [deliveredFact_eq_some.1 hf, hin.1] at henabled
        exact henabled.2.2.2 g (mem_delivered.1 hg).1 hid
      · simpa using ih.deliveredOnce s pin
    · rcases List.mem_append.1 hf with hf | hf
      · obtain ⟨g, hg, hid, hle⟩ := ih.executed s f hf
        exact ⟨g, List.mem_append_left _ hg, hid, hle⟩
      · rw [← List.mem_singleton.1 hf] at henabled hheight
        obtain ⟨⟨g, hg, hid⟩, -⟩ := henabled
        exact ⟨g, List.mem_append_left _ hg, hid, hheight _ hg rfl⟩
    · rw [cut_snoc]
      split
      · rename_i hin
        refine nodup_keys_snoc (ih.executedOnce s pin) fun f hf hmem => ?_
        obtain ⟨g, hg, hid⟩ := List.mem_map.1 hmem
        rw [executedFact_eq_some.1 hf, hin.1] at henabled
        exact henabled.2 g (mem_executed.1 hg).1 hid
      · simpa using ih.executedOnce s pin

end IcttSentinel.Collector
