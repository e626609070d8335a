/-
The receipt of a cross-chain message: when `decodeReceiveCrossChainMessage` accepts exactly the canonical
encodings of a call. Of the two arrays of a Teleporter message the decoder reads the offsets only, and of
the struct only the members that the collection uses.
-/
import IcttSentinel.Adapters.Payload

namespace IcttSentinel.Adapters

open IcttSentinel.Collector IcttSentinel.Lib IcttSentinel.RpcQuorum IcttSentinel.Storage

/-! ## Messages -/

/-- A receipt, `(uint256, address)`. -/
structure TeleporterReceipt where
  receivedMessageNonce : AbiUint
  relayerRewardAddress : AbiAddress

def TeleporterReceipt.encode (r : TeleporterReceipt) : List Char :=
  uintWord r.receivedMessageNonce ++ r.relayerRewardAddress.word

def encodeAddresses (addresses : List AbiAddress) : List Char :=
  uintWord addresses.length ++ addresses.flatMap AbiAddress.word

def encodeReceipts (receipts : List TeleporterReceipt) : List Char :=
  uintWord receipts.length ++ receipts.flatMap TeleporterReceipt.encode

theorem length_encodeAddresses (addresses : List AbiAddress) :
    (encodeAddresses addresses).length = 2 * (32 * (1 + addresses.length)) := by
  have hwords : (addresses.flatMap AbiAddress.word).length = 64 * addresses.length := by
    induction addresses with
    | nil => rfl
    | cons a addresses ih =>
      rw [List.flatMap_cons, List.length_append, a.length_word, ih, List.length_cons]
      omega
  rw [encodeAddresses, List.length_append, length_uintWord, hwords]
  omega

theorem length_encodeReceipts (receipts : List TeleporterReceipt) :
    (encodeReceipts receipts).length = 2 * (32 * (1 + 2 * receipts.length)) := by
  have hwords : (receipts.flatMap TeleporterReceipt.encode).length = 128 * receipts.length := by
    induction receipts with
    | nil => rfl
    | cons r receipts ih =>
      rw [List.flatMap_cons, List.length_append, TeleporterReceipt.encode, List.length_append, length_uintWord,
        r.relayerRewardAddress.length_word, ih, List.length_cons]
      omega
  rw [encodeReceipts, List.length_append, length_uintWord, hwords]
  omega

theorem lower_encodeAddresses (addresses : List AbiAddress) : ∀ c ∈ encodeAddresses addresses, isLowerHex c = true := by
  intro c hc
  rcases List.mem_append.1 hc with hc | hc
  · exact lower_uintWord _ c hc
  · obtain ⟨a, -, hc⟩ := List.mem_flatMap.1 hc
    exact a.lower_word c hc

theorem lower_encodeReceipts (receipts : List TeleporterReceipt) : ∀ c ∈ encodeReceipts receipts, isLowerHex c = true := by
  intro c hc
  rcases List.mem_append.1 hc with hc | hc
  · exact lower_uintWord _ c hc
  · obtain ⟨r, -, hc⟩ := List.mem_flatMap.1 hc
    rcases List.mem_append.1 hc with hc | hc
    · exact lower_uintWord _ c hc
    · exact r.relayerRewardAddress.lower_word c hc

/-- A `ReceiveCrossChainMessage`: its indexed words, and its data, the reward redeemer and the Teleporter message
`(uint256,address,bytes32,address,uint256,address[],(uint256,address)[],bytes)`. -/
structure ReceiveCall where
  messageId : AbiWord
  sourceBlockchainId : AbiWord
  deliverer : AbiWord
  rewardRedeemer : AbiAddress
  messageNonce : AbiUint
  originSenderAddress : AbiAddress
  destinationBlockchainId : AbiWord
  destinationAddress : AbiAddress
  requiredGasLimit : AbiUint
  allowedRelayerAddresses : List AbiAddress
  receipts : List TeleporterReceipt
  message : AbiBytes
  /-- The last offset fits a word. -/
  fits : 256 + 32 * (1 + allowedRelayerAddresses.length) + 32 * (1 + 2 * receipts.length) < 2 ^ 256

namespace ReceiveCall

variable (c : ReceiveCall)

/-- Where the receipts stand in the struct, behind its head and the relayers. -/
def receiptsAt : Nat := 256 + 32 * (1 + c.allowedRelayerAddresses.length)

/-- Where the message stands in the struct, behind the receipts. -/
def messageAt : Nat := c.receiptsAt + 32 * (1 + 2 * c.receipts.length)

def topics (keccak256 : List Int → String) : List String :=
  [eventTopic keccak256 .receiveCrossChainMessage, c.messageId.text, c.sourceBlockchainId.text, c.deliverer.text]

/-- The arrays and the message. -/
def tail : List Char :=
  encodeAddresses c.allowedRelayerAddresses ++ (encodeReceipts c.receipts ++ c.message.encode)

/-- The struct: eight words, of which three are offsets, then what these lead to. -/
def struct : List Char :=
  uintWord c.messageNonce ++ (c.originSenderAddress.word ++ (c.destinationBlockchainId.digits ++
    (c.destinationAddress.word ++ (uintWord c.requiredGasLimit ++ (uintWord 256 ++ (uintWord c.receiptsAt ++
      (uintWord c.messageAt ++ c.tail)))))))

/-- `abi.encode` of the data. -/
def encode : List Char := c.rewardRedeemer.word ++ (uintWord 64 ++ c.struct)

/-- What the decoder returns for the call. -/
def fields : ReceivedMessage where
  messageId := c.messageId.text
  sourceBlockchainId := c.sourceBlockchainId.text
  originSenderAddress := c.originSenderAddress.text
  destinationBlockchainId := c.destinationBlockchainId.text
  destinationAddress := c.destinationAddress.text
  message := "0x" ++ String.ofList c.message.digits

end ReceiveCall

/-! ## Layouts -/

/-- The members of a call that are read in its data. -/
structure ReadCall where
  rewardRedeemer : AbiAddress
  originSenderAddress : AbiAddress
  destinationBlockchainId : AbiWord
  destinationAddress : AbiAddress
  message : AbiBytes

/-- The data lays these members out with the struct at one offset, and the arrays and the message at three within. -/
structure ReceivedAt (hex : List Char) (tuple relayers receipts message : Nat) (r : ReadCall) : Prop where
  redeemer : slice hex 0 64 = r.rewardRedeemer.word
  head : uint (slice hex 64 64) = tuple
  aligned : tuple % 32 = 0
  within : 2 * tuple + 512 ≤ hex.length
  origin : slice hex (2 * tuple + 64) 64 = r.originSenderAddress.word
  chain : slice hex (2 * tuple + 128) 64 = r.destinationBlockchainId.digits
  destination : slice hex (2 * tuple + 192) 64 = r.destinationAddress.word
  relayersWord : uint (slice hex (2 * tuple + 320) 64) = relayers
  relayers_aligned : relayers % 32 = 0
  relayers_within : 2 * (tuple + relayers) ≤ hex.length
  receiptsWord : uint (slice hex (2 * tuple + 384) 64) = receipts
  receipts_aligned : receipts % 32 = 0
  receipts_within : 2 * (tuple + receipts) ≤ hex.length
  messageWord : uint (slice hex (2 * tuple + 448) 64) = message
  message_aligned : message % 32 = 0
  bytes : slice hex (2 * (tuple + message)) (2 * (32 + r.message.padded)) = r.message.encode

/-- The struct follows the head of the data, each array stands between its offset and the next one, and the data ends
with the padding of the message. -/
structure ReceivedTight (hex : List Char) (tuple relayers receipts message : Nat) (r : ReadCall) : Prop where
  struct : tuple = 64
  arrays : relayers = 256
  addresses : ∃ addresses : List AbiAddress, receipts = relayers + 32 * (1 + addresses.length) ∧
    slice hex (2 * (tuple + relayers)) (2 * (32 * (1 + addresses.length))) = encodeAddresses addresses
  list : ∃ list : List TeleporterReceipt, message = receipts + 32 * (1 + 2 * list.length) ∧
    slice hex (2 * (tuple + receipts)) (2 * (32 * (1 + 2 * list.length))) = encodeReceipts list
  ends : hex.length = 2 * (tuple + message + 32 + r.message.padded)

namespace ReceiveCall

variable (c : ReceiveCall)

/-- The members that are read. -/
def read : ReadCall where
  rewardRedeemer := c.rewardRedeemer
  originSenderAddress := c.originSenderAddress
  destinationBlockchainId := c.destinationBlockchainId
  destinationAddress := c.destinationAddress
  message := c.message

theorem length_encode : c.encode.length = 2 * (64 + c.messageAt + 32 + c.message.padded) := by
  simp only [encode, struct, tail, List.length_append, length_uintWord, AbiAddress.length_word,
    c.destinationBlockchainId.length, length_encodeAddresses, length_encodeReceipts, AbiBytes.length_encode, messageAt, receiptsAt]
  omega

theorem lower_encode : ∀ d ∈ c.encode, isLowerHex d = true := by
  have happend : ∀ {x y : List Char}, (∀ d ∈ x, isLowerHex d = true) → (∀ d ∈ y, isLowerHex d = true) →
      ∀ d ∈ x ++ y, isLowerHex d = true := fun hx hy d hd => (List.mem_append.1 hd).elim (hx d) (hy d)
  have htail : ∀ d ∈ c.tail, isLowerHex d = true :=
    happend (lower_encodeAddresses _) (happend (lower_encodeReceipts _) c.message.lower_encode)
  have hoffsets : ∀ d ∈ uintWord 256 ++ (uintWord c.receiptsAt ++ (uintWord c.messageAt ++ c.tail)), isLowerHex d = true :=
    happend (lower_uintWord _) (happend (lower_uintWord _) (happend (lower_uintWord _) htail))
  have hstruct : ∀ d ∈ c.struct, isLowerHex d = true :=
    happend (lower_uintWord _) (happend c.originSenderAddress.lower_word (happend c.destinationBlockchainId.lower
      (happend c.destinationAddress.lower_word (happend (lower_uintWord _) hoffsets))))
  exact happend c.rewardRedeemer.lower_word (happend (lower_uintWord _) hstruct)

theorem spells_encode : Spells ("0x" ++ String.ofList c.encode) c.encode where
  text := rfl
  even := by rw [c.length_encode, Nat.mul_mod_right]
  lower := c.lower_encode

/-- Behind the head of the data stands the struct. -/
theorem slice_struct (start len : Nat) : slice c.encode (128 + start) len = slice c.struct start len := by
  rw [encode, ← slice_skip (length_uintWord 64) start len, ← slice_skip c.rewardRedeemer.length_word (64 + start) len,
    ← Nat.add_assoc]

/-- Behind the head of the struct stand the arrays and the message. -/
theorem slice_tail (start len : Nat) : slice c.struct (512 + start) len = slice c.tail start len := by
  have hlength : (uintWord c.messageNonce ++ (c.originSenderAddress.word ++ (c.destinationBlockchainId.digits ++
      (c.destinationAddress.word ++ (uintWord c.requiredGasLimit ++ (uintWord 256 ++ (uintWord c.receiptsAt ++
        uintWord c.messageAt))))))).length = 512 := by
    simp only [List.length_append, length_uintWord, AbiAddress.length_word, c.destinationBlockchainId.length]
  rw [← slice_skip hlength start len]
  simp only [struct, List.append_assoc]

theorem messageAt_lt : c.messageAt < 2 ^ 256 := c.fits

theorem receiptsAt_le_messageAt : c.receiptsAt ≤ c.messageAt := Nat.le_add_right _ _

theorem le_receiptsAt : 256 ≤ c.receiptsAt := Nat.le_add_right _ _

/-- The canonical encoding is a layout with these offsets. -/
theorem receivedAt_encode : ReceivedAt c.encode 64 256 c.receiptsAt c.messageAt c.read where
  redeemer := slice_head c.rewardRedeemer.length_word
  head := by
    rw [encode, slice_skip c.rewardRedeemer.length_word 0, slice_head (length_uintWord 64)]
    exact uint_uintWord (by norm_num)
  aligned := rfl
  within := by
    have hreceipts := c.le_receiptsAt
    have hmessage := c.receiptsAt_le_messageAt
    rw [c.length_encode]
    omega
  origin := by
    refine (c.slice_struct 64 64).trans ?_
    rw [struct, slice_skip (length_uintWord _) 0, slice_head c.originSenderAddress.length_word]
    rfl
  chain := by
    refine (c.slice_struct 128 64).trans ?_
    rw [struct, slice_skip (length_uintWord _) 64, slice_skip c.originSenderAddress.length_word 0,
      slice_head c.destinationBlockchainId.length]
    rfl
  destination := by
    refine (c.slice_struct 192 64).trans ?_
    rw [struct, slice_skip (length_uintWord _) 128, slice_skip c.originSenderAddress.length_word 64,
      slice_skip c.destinationBlockchainId.length 0, slice_head c.destinationAddress.length_word]
    rfl
  relayersWord := by
    -- the three offset words are read in the struct, behind the static fields before them
    have hword : slice c.struct 320 64 = uintWord 256 := by
      rw [struct, slice_skip (length_uintWord _) 256, slice_skip c.originSenderAddress.length_word 192,
        slice_skip c.destinationBlockchainId.length 128, slice_skip c.destinationAddress.length_word 64,
        slice_skip (length_uintWord _) 0, slice_head (length_uintWord 256)]
    exact (congrArg uint ((c.slice_struct 320 64).trans hword)).trans (uint_uintWord (by norm_num))
  relayers_aligned := rfl
  relayers_within := by
    have hreceipts := c.le_receiptsAt
    have hmessage := c.receiptsAt_le_messageAt
    rw [c.length_encode]
    omega
  receiptsWord := by
    have hword : slice c.struct 384 64 = uintWord c.receiptsAt := by
      rw [struct, slice_skip (length_uintWord _) 320, slice_skip c.originSenderAddress.length_word 256,
        slice_skip c.destinationBlockchainId.length 192, slice_skip c.destinationAddress.length_word 128,
        slice_skip (length_uintWord _) 64, slice_skip (length_uintWord 256) 0, slice_head (length_uintWord _)]
    exact (congrArg uint ((c.slice_struct 384 64).trans hword)).trans
      (uint_uintWord (lt_of_le_of_lt c.receiptsAt_le_messageAt c.messageAt_lt))
  receipts_aligned := by
    unfold receiptsAt
    omega
  receipts_within := by
    have hmessage := c.receiptsAt_le_messageAt
    rw [c.length_encode]
    omega
  messageWord := by
    have hword : slice c.struct 448 64 = uintWord c.messageAt := by
      rw [struct, slice_skip (length_uintWord _) 384, slice_skip c.originSenderAddress.length_word 320,
        slice_skip c.destinationBlockchainId.length 256, slice_skip c.destinationAddress.length_word 192,
        slice_skip (length_uintWord _) 128, slice_skip (length_uintWord 256) 64, slice_skip (length_uintWord _) 0,
        slice_head (length_uintWord _)]
    exact (congrArg uint ((c.slice_struct 448 64).trans hword)).trans (uint_uintWord c.messageAt_lt)
  message_aligned := by
    unfold messageAt receiptsAt
    omega
  bytes := by
    -- the bytes come last in the tail, behind the relayers and the receipts
    have hstart : 2 * (64 + c.messageAt) = 128 + (512 + (2 * (32 * (1 + c.allowedRelayerAddresses.length)) +
        (2 * (32 * (1 + 2 * c.receipts.length)) + 0))) := by
      unfold messageAt receiptsAt
      omega
    rw [hstart, c.slice_struct, c.slice_tail, tail, slice_skip (length_encodeAddresses _),
      slice_skip (length_encodeReceipts _)]
    exact slice_self c.message.length_encode

/-- And the layout is tight. -/
theorem receivedTight_encode : ReceivedTight c.encode 64 256 c.receiptsAt c.messageAt c.read where
  struct := rfl
  arrays := rfl
  addresses := by
    refine ⟨c.allowedRelayerAddresses, rfl, ?_⟩
    refine (c.slice_struct (512 + 0) _).trans ?_
    rw [c.slice_tail, tail, slice_head (length_encodeAddresses _)]
  list := by
    refine ⟨c.receipts, rfl, ?_⟩
    have hstart : 2 * (64 + c.receiptsAt) = 128 + (512 + (2 * (32 * (1 + c.allowedRelayerAddresses.length)) + 0)) := by
      unfold receiptsAt
      omega
    rw [hstart, c.slice_struct, c.slice_tail, tail, slice_skip (length_encodeAddresses _),
      slice_head (length_encodeReceipts _)]
  ends := c.length_encode

end ReceiveCall

section Layouts

variable {hex : List Char} {tuple relayers receipts message : Nat} {r : ReadCall}

/-- A tight layout is the canonical encoding of a call, whatever the topics. -/
theorem ReceivedAt.eq_encode (h : ReceivedAt hex tuple relayers receipts message r)
    (htight : ReceivedTight hex tuple relayers receipts message r) (hlower : ∀ c ∈ hex, isLowerHex c = true)
    (messageId sourceBlockchainId deliverer : AbiWord) :
    ∃ c : ReceiveCall, c.messageId = messageId ∧ c.sourceBlockchainId = sourceBlockchainId ∧ c.deliverer = deliverer ∧
      c.read = r ∧ hex = c.encode := by
  obtain ⟨rfl, rfl, ⟨addresses, rfl, haddresses⟩, ⟨list, rfl, hlist⟩, hends⟩ := htight
  have hfull : ∀ start, start + 64 ≤ hex.length → (slice hex start 64).length = 64 := fun start hstart =>
    length_slice_of_le hstart
  have hdigits : ∀ start, ∀ d ∈ slice hex start 64, isLowerHex d = true := fun start d hd => hlower d (mem_of_mem_slice hd)
  -- the decoder reads neither the nonce nor the gas limit: any word there is some number
  obtain ⟨nonce, -, hnonce, hnonceWord⟩ := eq_uintWord (hdigits 128) (hfull 128 (by omega))
  obtain ⟨gas, -, hgas, hgasWord⟩ := eq_uintWord (hdigits 384) (hfull 384 (by omega))
  have hoffset : ∀ start n : Nat, start + 64 ≤ hex.length → uint (slice hex start 64) = n →
      slice hex start 64 = uintWord n := fun start n hstart hn => word_eq (hdigits start) (hfull start hstart) hn
  have hhead := hoffset 64 64 (by omega) h.head
  have hrelayers := hoffset 448 256 (by omega) h.relayersWord
  have hreceipts := hoffset 512 _ (by omega) h.receiptsWord
  have hmessage := hoffset 576 _ (by omega) h.messageWord
  obtain ⟨k, hk, hbound, -⟩ := eq_uintWord (hdigits 576) (hfull 576 (by omega))
  obtain rfl := Int.natCast_inj.1 (hk.symm.trans h.messageWord)
  let c : ReceiveCall := {
    messageId := messageId
    sourceBlockchainId := sourceBlockchainId
    deliverer := deliverer
    rewardRedeemer := r.rewardRedeemer
    messageNonce := ⟨nonce, hnonce⟩
    originSenderAddress := r.originSenderAddress
    destinationBlockchainId := r.destinationBlockchainId
    destinationAddress := r.destinationAddress
    requiredGasLimit := ⟨gas, hgas⟩
    allowedRelayerAddresses := addresses
    receipts := list
    message := r.message
    fits := hbound }
  have hlength : hex.length = 64 + (64 + (64 + (64 + (64 + (64 + (64 + (64 + (64 + (64 +
      (2 * (32 * (1 + addresses.length)) + (2 * (32 * (1 + 2 * list.length)) + 2 * (32 + r.message.padded)))))))))))) := by
    omega
  -- tight data is ten words of head and struct, and then the three dynamic parts
  have hsplit : hex = slice hex 0 64 ++ (slice hex 64 64 ++ (slice hex 128 64 ++ (slice hex 192 64 ++ (slice hex 256 64 ++
      (slice hex 320 64 ++ (slice hex 384 64 ++ (slice hex 448 64 ++ (slice hex 512 64 ++ (slice hex 576 64 ++
        slice hex 640 (2 * (32 * (1 + addresses.length)) + (2 * (32 * (1 + 2 * list.length)) +
          2 * (32 + r.message.padded)))))))))))) := by
    conv_lhs => rw [← slice_self hlength]
    simp only [slice_add]
  have hlistAt : 640 + 2 * (32 * (1 + addresses.length)) = 2 * (64 + (256 + 32 * (1 + addresses.length))) := by omega
  have hbytesAt : 640 + 2 * (32 * (1 + addresses.length)) + 2 * (32 * (1 + 2 * list.length)) =
      2 * (64 + (256 + 32 * (1 + addresses.length) + 32 * (1 + 2 * list.length))) := by omega
  have haddressesAt : 2 * (64 + 256) = 640 := rfl
  rw [haddressesAt] at haddresses
  have htail : slice hex 640 (2 * (32 * (1 + addresses.length)) + (2 * (32 * (1 + 2 * list.length)) +
      2 * (32 + r.message.padded))) = encodeAddresses addresses ++ (encodeReceipts list ++ r.message.encode) := by
    rw [slice_add, slice_add, hbytesAt, hlistAt, haddresses, hlist, h.bytes]
  have horigin : slice hex 192 64 = r.originSenderAddress.word := h.origin
  have hchain : slice hex 256 64 = r.destinationBlockchainId.digits := h.chain
  have hdestination : slice hex 320 64 = r.destinationAddress.word := h.destination
  rw [h.redeemer, hhead, hnonceWord, horigin, hchain, hdestination, hgasWord, hrelayers, hreceipts, hmessage,
    htail] at hsplit
  exact ⟨c, rfl, rfl, rfl, rfl, hsplit⟩

end Layouts

/-! ## The decoder -/

section Decoder

variable {keccak256 : List Int → String} {log : EventLog}

theorem matchesHex_iff {t : String} : matchesHex "0x" 64 t = true ↔ ∃ w : AbiWord, t = w.text := by
  unfold matchesHex
  simp only [Bool.and_eq_true, decide_eq_true_eq, List.all_eq_true, List.isPrefixOf_iff_prefix]
  constructor
  · rintro ⟨⟨⟨rest, hrest⟩, hlength⟩, hlower⟩
    refine ⟨⟨_, hlength, hlower⟩, String.toList_injective ?_⟩
    rw [AbiWord.text, toList_prefixed]
    show t.toList = '0' :: 'x' :: t.toList.drop 2
    rw [← hrest]
    rfl
  · rintro ⟨w, rfl⟩
    rw [AbiWord.text, toList_prefixed]
    exact ⟨⟨⟨w.digits, rfl⟩, w.length⟩, w.lower⟩

theorem topic_eq_ok {i : Nat} {t : String} : topic log i = .ok t ↔ log.topics[i]? = some t := by
  unfold topic
  cases log.topics[i]? with
  | none => exact ⟨fun h => (nomatch h), fun h => (nomatch h)⟩
  | some u => simp only [Except.ok.injEq, Option.some.injEq]

/-- The topics are the one of the event and so many words. -/
theorem expectTopics_eq_ok {name : EventName} (htopic : matchesHex "0x" 64 (eventTopic keccak256 name) = true)
    {count : Nat} {u : Unit} :
    expectTopics keccak256 log name (count + 1) = .ok u ↔
      ∃ words : List AbiWord, words.length = count ∧ log.topics = eventTopic keccak256 name :: words.map AbiWord.text := by
  unfold expectTopics
  simp only [bind_eq_ok, abiUnless_eq_ok, exists_const, decide_eq_true_eq, List.all_eq_true]
  constructor
  · rintro ⟨hlength, hfirst, hall⟩
    obtain ⟨t, rest, htopics⟩ := List.exists_cons_of_length_eq_add_one hlength
    rw [htopics] at hlength hfirst hall
    have hwords : rest ∈ Set.range (List.map AbiWord.text) := by
      rw [Set.range_list_map]
      intro t ht
      obtain ⟨w, rfl⟩ := matchesHex_iff.1 (hall t (List.mem_cons_of_mem _ ht))
      exact ⟨w, rfl⟩
    obtain ⟨words, rfl⟩ := hwords
    refine ⟨words, ?_, ?_⟩
    · simpa using hlength
    · rw [htopics, Option.some.inj hfirst]
  · rintro ⟨words, rfl, htopics⟩
    rw [htopics]
    refine ⟨by rw [List.length_cons, List.length_map], rfl, ?_⟩
    intro t ht
    rcases List.mem_cons.1 ht with rfl | ht
    · exact htopic
    · obtain ⟨w, -, rfl⟩ := List.mem_map.1 ht
      exact matchesHex_iff.2 ⟨w, rfl⟩

/-- The three words behind the topic of a delivery. -/
theorem expectTopics_three {name : EventName} (htopic : matchesHex "0x" 64 (eventTopic keccak256 name) = true) {u : Unit} :
    expectTopics keccak256 log name 4 = .ok u ↔
      ∃ a b c : AbiWord, log.topics = [eventTopic keccak256 name, a.text, b.text, c.text] := by
  rw [expectTopics_eq_ok htopic]
  constructor
  · rintro ⟨words, hlength, htopics⟩
    obtain ⟨a, b, c, rfl⟩ := List.length_eq_three.1 hlength
    exact ⟨a, b, c, htopics⟩
  · rintro ⟨a, b, c, htopics⟩
    exact ⟨[a, b, c], rfl, htopics⟩

/-- What is returned for the members that are read. -/
def ReadCall.received (r : ReadCall) (messageId sourceBlockchainId : AbiWord) : ReceivedMessage where
  messageId := messageId.text
  sourceBlockchainId := sourceBlockchainId.text
  originSenderAddress := r.originSenderAddress.text
  destinationBlockchainId := r.destinationBlockchainId.text
  destinationAddress := r.destinationAddress.text
  message := "0x" ++ String.ofList r.message.digits

/-- The decoder accepts every layout of the members that it reads. -/
theorem decodeReceiveCrossChainMessage_eq_ok
    (htopic : matchesHex "0x" 64 (eventTopic keccak256 .receiveCrossChainMessage) = true) {v : ReceivedMessage} :
    decodeReceiveCrossChainMessage keccak256 log = .ok v ↔
      ∃ messageId sourceBlockchainId deliverer : AbiWord,
        log.topics = [eventTopic keccak256 .receiveCrossChainMessage, messageId.text, sourceBlockchainId.text,
          deliverer.text] ∧
        ∃ hex, Spells log.data hex ∧ ∃ r tuple relayers receipts message,
          ReceivedAt hex tuple relayers receipts message r ∧ v = r.received messageId sourceBlockchainId := by
  unfold decodeReceiveCrossChainMessage
  simp only [bind_eq_ok, body_eq_ok, abiUnless_eq_ok, exists_const, wordAt_eq_ok, position_eq_ok, decide_eq_true_eq,
    slice_drop, List.length_drop, expectTopics_three htopic, topic_eq_ok, pure_eq_ok]
  constructor
  · rintro ⟨⟨messageId, sourceBlockchainId, deliverer, htopics⟩, hex, hspells, w, ⟨hw, hwl⟩, _, hredeemer, head,
      ⟨hhead, hheadl⟩, tuple, ⟨htlimit, htuple, haligned⟩, hlong, w₅, ⟨h₅, h₅l⟩, relayers, ⟨hrlimit, hrelayers, hraligned⟩, w₆, ⟨h₆, h₆l⟩,
      receipts, ⟨hclimit, hreceipts, hcaligned⟩, w₇, ⟨h₇, h₇l⟩, message, ⟨-, hmessage, hmaligned⟩, t₁, ht₁, t₂, ht₂, w₁,
      ⟨h₁, h₁l⟩, origin, horigin, w₂, ⟨h₂, h₂l⟩, w₃, ⟨h₃, h₃l⟩, destination, hdestination, digits, hdigits, hv⟩
    subst hw hhead h₅ h₆ h₇ h₁ h₂ h₃
    have hlower : ∀ start, ∀ c ∈ slice hex start 64, isLowerHex c = true := fun start c hc =>
      hspells.lower c (mem_of_mem_slice hc)
    obtain ⟨redeemer, hredeemerWord, -⟩ := (address_eq_ok (hlower _) hwl).1 hredeemer
    obtain ⟨origin, horiginWord, rfl⟩ := (address_eq_ok (hlower _) h₁l).1 horigin
    obtain ⟨destination, hdestinationWord, rfl⟩ := (address_eq_ok (hlower _) h₃l).1 hdestination
    obtain ⟨-, b, rfl, hregion⟩ := (dynamicBytes_eq_ok fun c hc => hspells.lower c (List.mem_of_mem_drop hc)).1 hdigits
    rw [slice_drop] at hregion
    have htuple' := uint_of_toNat (hlower _) htuple
    have hrelayers' := uint_of_toNat (hlower _) hrelayers
    have hreceipts' := uint_of_toNat (hlower _) hreceipts
    rw [htuple'] at htlimit
    rw [hrelayers'] at hrlimit
    rw [hreceipts'] at hclimit
    have haligned' := haligned trivial
    -- the decoder counts words from the tuple, the layout counts hex digits
    have hword : ∀ i, 64 * (tuple / 32 + i) = 2 * tuple + 64 * i := by
      intro i
      omega
    rw [hword] at horiginWord hdestinationWord h₂l
    rw [htopics] at ht₁ ht₂
    refine ⟨messageId, sourceBlockchainId, deliverer, htopics, hex, hspells,
      ⟨redeemer, origin, ⟨_, h₂l, hlower _⟩, destination, b⟩, tuple, relayers, receipts, message, ?_, ?_⟩
    · refine ⟨hredeemerWord, htuple', haligned', ?_, horiginWord, rfl, hdestinationWord, ?_, hraligned trivial, ?_, ?_,
        hcaligned trivial, ?_, ?_, hmaligned trivial, ?_⟩
      · omega
      · rw [Nat.mul_comm]
        exact hrelayers'
      · omega
      · rw [Nat.mul_comm]
        exact hreceipts'
      · omega
      · rw [Nat.mul_comm]
        exact uint_of_toNat (hlower _) hmessage
      · have hdouble : 2 * (tuple + message) = tuple * 2 + 2 * message := by omega
        rw [hdouble]
        exact hregion
    · rw [← hv, ← Option.some.inj ht₁, ← Option.some.inj ht₂, hword]
      rfl
  · rintro ⟨messageId, sourceBlockchainId, deliverer, htopics, hex, hspells, r, tuple, relayers, receipts, message, h, rfl⟩
    -- conversely every word the layout names lies inside the data, so each read succeeds
    have hbytes := AbiBytes.within h.bytes
    have hwithin := h.within
    have hrelayers := h.relayers_within
    have hreceipts := h.receipts_within
    have hword : ∀ i, 64 * (tuple / 32 + i) = 2 * tuple + 64 * i := by
      have haligned := h.aligned
      intro i
      omega
    have hregion : slice (hex.drop (tuple * 2)) (2 * message) (2 * (32 + r.message.padded)) = r.message.encode := by
      have hdouble : tuple * 2 + 2 * message = 2 * (tuple + message) := by omega
      rw [slice_drop, hdouble]
      exact h.bytes
    have hposition : ∀ {w : List Char} {n limit : Nat}, uint w = n → n ≤ limit → n % 32 = 0 →
        uint w ≤ limit ∧ (uint w).toNat = n ∧ (True → n % 32 = 0) := by
      intro w n limit hn hlimit haligned
      rw [hn]
      exact ⟨Int.ofNat_le.2 hlimit, Int.toNat_natCast n, fun _ => haligned⟩
    have haddress : ∀ a : AbiAddress, address a.word = .ok a.text := fun a =>
      (address_eq_ok a.lower_word a.length_word).2 ⟨a, rfl, rfl⟩
    have hoffset : ∀ {i n : Nat}, uint (slice hex (2 * tuple + 64 * i) 64) = n →
        uint (slice hex (tuple * 2 + 64 * i) 64) = n := by
      intro i n hn
      rwa [Nat.mul_comm tuple 2]
    have horigin : slice hex (64 * (tuple / 32 + 1)) 64 = r.originSenderAddress.word := by
      rw [hword]
      exact h.origin
    have hchain : slice hex (64 * (tuple / 32 + 2)) 64 = r.destinationBlockchainId.digits := by
      rw [hword]
      exact h.chain
    have hdestination : slice hex (64 * (tuple / 32 + 3)) 64 = r.destinationAddress.word := by
      rw [hword]
      exact h.destination
    have hdigits := (dynamicBytes_eq_ok fun c hc => hspells.lower c (List.mem_of_mem_drop hc)).2
      ⟨h.message_aligned, r.message, rfl, hregion⟩
    rw [htopics]
    exact ⟨⟨messageId, sourceBlockchainId, deliverer, rfl⟩, hex, hspells, _, ⟨h.redeemer, AbiAddress.length_word _⟩, _,
      haddress _, _, ⟨rfl, length_slice_of_le (by omega)⟩, tuple, hposition h.head (by omega) h.aligned, by omega,
      _, ⟨rfl, length_slice_of_le (by omega)⟩, relayers, hposition (hoffset h.relayersWord) (by omega) h.relayers_aligned,
      _, ⟨rfl, length_slice_of_le (by omega)⟩, receipts, hposition (hoffset h.receiptsWord) (by omega) h.receipts_aligned,
      _, ⟨rfl, length_slice_of_le (by omega)⟩, message, hposition (hoffset h.messageWord) (by omega) h.message_aligned,
      _, rfl, _, rfl, _, ⟨horigin, AbiAddress.length_word _⟩, _, haddress _, _, ⟨hchain, r.destinationBlockchainId.length⟩,
      _, ⟨hdestination, AbiAddress.length_word _⟩, _, haddress _, _, hdigits, rfl⟩

/-! ## Exactness -/

/-- The decoder accepts the log exactly as the canonical encoding of a call, and returns its fields. -/
def ExactReceipt (keccak256 : List Int → String) (log : EventLog) : Prop :=
  ∀ v, decodeReceiveCrossChainMessage keccak256 log = .ok v ↔
    ∃ c : ReceiveCall, log.topics = c.topics keccak256 ∧ log.data = "0x" ++ String.ofList c.encode ∧ v = c.fields

/-- Nothing that the decoder reads is laid out in the log in another way than by the encoding of a call. -/
def ReceiptTight (keccak256 : List Int → String) (log : EventLog) : Prop :=
  ∀ messageId sourceBlockchainId deliverer : AbiWord,
    log.topics = [eventTopic keccak256 .receiveCrossChainMessage, messageId.text, sourceBlockchainId.text,
      deliverer.text] →
    ∀ hex, Spells log.data hex → ∀ r tuple relayers receipts message,
      ReceivedAt hex tuple relayers receipts message r → ReceivedTight hex tuple relayers receipts message r

theorem exactReceipt_iff (htopic : matchesHex "0x" 64 (eventTopic keccak256 .receiveCrossChainMessage) = true) :
    ExactReceipt keccak256 log ↔ ReceiptTight keccak256 log := by
  constructor
  · intro hexact messageId sourceBlockchainId deliverer htopics hex hspells r tuple relayers receipts message h
    have hdecoded := (decodeReceiveCrossChainMessage_eq_ok htopic).2
      ⟨messageId, sourceBlockchainId, deliverer, htopics, hex, hspells, r, tuple, relayers, receipts, message, h, rfl⟩
    obtain ⟨c, -, htext, -⟩ := (hexact _).1 hdecoded
    have hspells' : Spells log.data c.encode := htext ▸ c.spells_encode
    obtain rfl := hspells.unique hspells'
    have h' := c.receivedAt_encode
    obtain rfl : tuple = 64 := Int.natCast_inj.1 (h.head.symm.trans h'.head)
    obtain rfl : relayers = 256 := Int.natCast_inj.1 (h.relayersWord.symm.trans h'.relayersWord)
    obtain rfl : receipts = c.receiptsAt := Int.natCast_inj.1 (h.receiptsWord.symm.trans h'.receiptsWord)
    obtain rfl : message = c.messageAt := Int.natCast_inj.1 (h.messageWord.symm.trans h'.messageWord)
    have hsize := AbiBytes.size_unique h.bytes h'.bytes
    have htight := c.receivedTight_encode
    refine ⟨rfl, rfl, htight.addresses, htight.list, ?_⟩
    rw [htight.ends, AbiBytes.padded, AbiBytes.padded, hsize]
  · intro htight v
    rw [decodeReceiveCrossChainMessage_eq_ok htopic]
    constructor
    · rintro ⟨messageId, sourceBlockchainId, deliverer, htopics, hex, hspells, r, tuple, relayers, receipts, message, h, rfl⟩
      have hlayout := htight messageId sourceBlockchainId deliverer htopics hex hspells r tuple relayers receipts message h
      obtain ⟨c, rfl, rfl, rfl, rfl, rfl⟩ := h.eq_encode hlayout hspells.lower messageId sourceBlockchainId deliverer
      exact ⟨c, htopics, hspells.text, rfl⟩
    · rintro ⟨c, htopics, htext, rfl⟩
      have hspells : Spells log.data c.encode := htext ▸ c.spells_encode
      exact ⟨c.messageId, c.sourceBlockchainId, c.deliverer, htopics, c.encode, hspells, c.read, 64, 256, c.receiptsAt,
        c.messageAt, c.receivedAt_encode, rfl⟩

end Decoder

/-- Both decoders are exact where the layout is tight, and only there: an offset that leads elsewhere, or a byte
behind the message, is not refused. -/
theorem decoding_exact_iff (keccak256 : List Int → String)
    (htopic : matchesHex "0x" 64 (eventTopic keccak256 .receiveCrossChainMessage) = true) :
    (∀ message, ExactPayload message ↔ PayloadTight message) ∧
      ∀ log, ExactReceipt keccak256 log ↔ ReceiptTight keccak256 log :=
  ⟨exactPayload_iff, fun _ => exactReceipt_iff htopic⟩

/-! ## A trailing byte -/

/-- One token to `0x0abc`. -/
def sampleHop : TransferrerMessage :=
  .singleHop ⟨List.replicate 37 '0' ++ "abc".toList, by decide, List.all_eq_true.1 (by decide)⟩ ⟨1000000, by norm_num⟩

/-- The topic of a `ReceiveCrossChainMessage`. -/
def sampleTopic : String := "0x292ee90bbaf70b5d4936025e09d56ba08f3e421156b6a568cf3c2840d9343e34"

def sampleAddress (last : Char) (h : isLowerHex last = true) : AbiAddress where
  digits := List.replicate 39 '0' ++ [last]
  length := rfl
  lower := fun _ hc => (List.mem_append.1 hc).elim (fun hc => List.eq_of_mem_replicate hc ▸ rfl)
    fun hc => List.mem_singleton.1 hc ▸ h

def sampleWord (digit : Char) (h : isLowerHex digit = true) : AbiWord where
  digits := List.replicate 64 digit
  length := rfl
  lower := fun _ hc => List.eq_of_mem_replicate hc ▸ h

/-- The delivery of that message, with one relayer and no receipt. -/
def sampleCall : ReceiveCall where
  messageId := sampleWord '1' rfl
  sourceBlockchainId := sampleWord '2' rfl
  deliverer := sampleWord '0' rfl
  rewardRedeemer := sampleAddress '3' rfl
  messageNonce := ⟨7, by norm_num⟩
  originSenderAddress := sampleAddress '4' rfl
  destinationBlockchainId := sampleWord '5' rfl
  destinationAddress := sampleAddress '6' rfl
  requiredGasLimit := ⟨200000, by norm_num⟩
  allowedRelayerAddresses := [sampleAddress '7' rfl]
  receipts := []
  message := {
    digits := sampleHop.encode
    even := sampleHop.spells_encode.even
    bound := by decide +kernel
    lower := sampleHop.spells_encode.lower }
  fits := by decide +kernel

/-- The canonical encodings themselves. -/
theorem decoding_exact_iff_sample :
    let keccak256 : List Int → String := fun _ => sampleTopic
    let message := "0x" ++ String.ofList sampleHop.encode
    let log : EventLog :=
      { address := "0x253b2784c75e510dd0ff1da844684a1ac0aa5fcf"
        topics := sampleCall.topics keccak256
        data := "0x" ++ String.ofList sampleCall.encode }
    (ExactPayload message ↔ PayloadTight message) ∧ (ExactReceipt keccak256 log ↔ ReceiptTight keccak256 log) := by
  intro keccak256 message log
  obtain ⟨hpayload, hreceipt⟩ := decoding_exact_iff keccak256 (by decide +kernel)
  exact ⟨hpayload message, hreceipt log⟩

/-- The canonical message and one byte more is read as the message. -/
theorem decoding_exact_fails :
    let message := "0x" ++ String.ofList (sampleHop.encode ++ ['f', 'f'])
    decodeTransferrerMessage message = .ok sampleHop.fields ∧ ¬ ExactPayload message := by
  intro message
  have hdecoded : decodeTransferrerMessage message = .ok sampleHop.fields :=
    decodeTransferrerMessage_append sampleHop ⟨['f', 'f'], rfl, by norm_num, List.all_eq_true.1 (by decide)⟩
  refine ⟨hdecoded, fun hexact => ?_⟩
  obtain ⟨m, htext, -⟩ := (hexact _).1 hdecoded
  have hspells : Spells message m.encode := htext ▸ m.spells_encode
  have hlength := congrArg List.length (congrArg String.toList hspells.text)
  rw [toList_prefixed, toList_prefixed, List.length_cons, List.length_cons, List.length_cons, List.length_cons,
    List.length_append, m.length_encode, sampleHop.length_encode] at hlength
  have hpadded : 32 ∣ m.payload.padded ∧ 32 ∣ sampleHop.payload.padded := ⟨Dvd.intro_left _ rfl, Dvd.intro_left _ rfl⟩
  simp only [List.length_cons, List.length_nil] at hlength
  omega

end IcttSentinel.Adapters
