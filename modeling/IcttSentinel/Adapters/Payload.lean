/-
The payload of a delivery: when `decodeTransferrerMessage` accepts exactly the canonical encodings. The
decoder follows two offsets wherever they lead, so it reads a message in any layout that holds one.
-/
import IcttSentinel.Adapters.Abi

namespace IcttSentinel.Adapters

open IcttSentinel.Collector IcttSentinel.Lib IcttSentinel.RpcQuorum IcttSentinel.Storage

/-! ## Messages -/

/-- `TransferrerMessage`: a single hop with its recipient and amount, or a message of another type, whose payload
is not interpreted. -/
inductive TransferrerMessage where
  | singleHop (recipient : AbiAddress) (amount : AbiUint)
  | uninterpreted (messageType : MessageType) (other : messageType ≠ .singleHopSend) (payload : AbiBytes)

namespace TransferrerMessage

def messageType : TransferrerMessage → MessageType
  | .singleHop _ _ => .singleHopSend
  | .uninterpreted messageType _ _ => messageType

/-- The payload; that of a single hop is `SingleHopSendMessage`, `(address recipient, uint256 amount)`. -/
def payload : TransferrerMessage → AbiBytes
  | .singleHop recipient amount => {
      digits := recipient.word ++ uintWord amount
      even := by rw [List.length_append, recipient.length_word, length_uintWord]
      bound := by
        rw [List.length_append, recipient.length_word, length_uintWord]
        norm_num
      lower := fun c hc => (List.mem_append.1 hc).elim (recipient.lower_word c) (lower_uintWord _ c) }
  | .uninterpreted _ _ payload => payload

/-- What a decoder returns for the message. -/
def fields : TransferrerMessage → TransferrerPayload
  | .singleHop recipient amount =>
    { messageType := .singleHopSend, singleHopSend := some { recipient := recipient.text, amount := (amount.val : Int) } }
  | .uninterpreted messageType _ _ => { messageType, singleHopSend := none }

/-- The number of the type, in declaration order. -/
def typeIndex (m : TransferrerMessage) : Nat := transferrerMessageTypes.idxOf m.messageType

theorem getElem?_typeIndex (m : TransferrerMessage) : transferrerMessageTypes[m.typeIndex]? = some m.messageType := by
  unfold typeIndex
  cases m.messageType <;> rfl

theorem eq_typeIndex {m : TransferrerMessage} {k : Nat} (h : transferrerMessageTypes[k]? = some m.messageType) :
    k = m.typeIndex := by
  obtain ⟨hk, heq⟩ := List.getElem?_eq_some_iff.1 h
  have hnodup : transferrerMessageTypes.Nodup := by decide
  rw [typeIndex, ← heq, hnodup.idxOf_getElem k hk]

theorem typeIndex_lt (m : TransferrerMessage) : m.typeIndex < 5 := by
  unfold typeIndex
  cases m.messageType <;> decide

/-- `abi.encode` of the message: the offset of the struct, the type, the offset of the payload, the payload. -/
def encode (m : TransferrerMessage) : List Char :=
  uintWord 32 ++ (uintWord m.typeIndex ++ (uintWord 64 ++ m.payload.encode))

theorem length_encode (m : TransferrerMessage) : m.encode.length = 2 * (128 + m.payload.padded) := by
  simp only [encode, List.length_append, length_uintWord, AbiBytes.length_encode]
  omega

theorem spells_encode (m : TransferrerMessage) : Spells ("0x" ++ String.ofList m.encode) m.encode where
  text := rfl
  even := by rw [m.length_encode, Nat.mul_mod_right]
  lower := by
    intro c hc
    simp only [encode, List.mem_append] at hc
    rcases hc with hc | hc | hc | hc
    · exact lower_uintWord _ c hc
    · exact lower_uintWord _ c hc
    · exact lower_uintWord _ c hc
    · exact m.payload.lower_encode c hc

end TransferrerMessage

/-! ## Layouts -/

/-- The data lays the message out with its struct at one offset, and the payload at another within that. -/
structure MessageAt (hex : List Char) (tuple payload : Nat) (m : TransferrerMessage) : Prop where
  long : 256 ≤ hex.length
  head : uint (slice hex 0 64) = tuple
  aligned : tuple % 32 = 0
  within : 2 * tuple + 128 ≤ hex.length
  type : uint (slice hex (2 * tuple) 64) = m.typeIndex
  offset : uint (slice hex (2 * tuple + 64) 64) = payload
  payload_aligned : payload % 32 = 0
  bytes : slice hex (2 * (tuple + payload)) (2 * (32 + m.payload.padded)) = m.payload.encode

/-- The offsets are those of the canonical encoding, and nothing follows the padding of the payload. -/
structure MessageTight (hex : List Char) (tuple payload : Nat) (m : TransferrerMessage) : Prop where
  tuple : tuple = 32
  payload : payload = 64
  ends : hex.length = 2 * (128 + m.payload.padded)

namespace TransferrerMessage

/-- The canonical encoding is the layout with these offsets that ends with the payload. -/
theorem messageAt_encode (m : TransferrerMessage) : MessageAt m.encode 32 64 m where
  long := by
    rw [m.length_encode]
    omega
  head := by
    rw [encode, slice_head (length_uintWord 32)]
    exact uint_uintWord (by norm_num)
  aligned := rfl
  within := by
    rw [m.length_encode]
    omega
  type := by
    rw [encode, slice_skip (length_uintWord 32) 0, slice_head (length_uintWord _)]
    exact uint_uintWord (lt_trans m.typeIndex_lt (by norm_num))
  offset := by
    rw [encode, slice_skip (length_uintWord 32) 64, slice_skip (length_uintWord m.typeIndex) 0,
      slice_head (length_uintWord 64)]
    exact uint_uintWord (by norm_num)
  payload_aligned := rfl
  bytes := by
    rw [encode, slice_skip (length_uintWord 32) 128, slice_skip (length_uintWord m.typeIndex) 64,
      slice_skip (length_uintWord 64) 0, slice_self m.payload.length_encode]

end TransferrerMessage

theorem MessageAt.eq_encode {hex : List Char} {tuple payload : Nat} {m : TransferrerMessage}
    (h : MessageAt hex tuple payload m) (htight : MessageTight hex tuple payload m)
    (hlower : ∀ c ∈ hex, isLowerHex c = true) : hex = m.encode := by
  obtain ⟨rfl, rfl, hends⟩ := htight
  have hword : ∀ start n : Nat, start + 64 ≤ hex.length → uint (slice hex start 64) = n →
      slice hex start 64 = uintWord n := by
    intro start n hstart hn
    exact word_eq (fun c hc => hlower c (mem_of_mem_slice hc)) (length_slice_of_le hstart) hn
  have hhead := hword 0 32 (by omega) h.head
  have htype := hword 64 m.typeIndex (by omega) h.type
  have hoffset := hword 128 64 (by omega) h.offset
  have hbytes : slice hex 192 (2 * (32 + m.payload.padded)) = m.payload.encode := h.bytes
  have hlength : hex.length = 64 + (64 + (64 + 2 * (32 + m.payload.padded))) := by omega
  rw [TransferrerMessage.encode, ← hhead, ← htype, ← hoffset, ← hbytes]
  conv_lhs => rw [← slice_self hlength, slice_add, slice_add, slice_add]

/-! ## The decoder -/

/-- The payload of a type reads as the message of that type and payload does. -/
theorem payload_eq_ok {messageType : MessageType} {b : AbiBytes} {v : TransferrerPayload} :
    (if messageType = .singleHopSend then do
      exactWords b.digits 2
      let recipient ← address (← wordAt b.digits 0)
      let amount := uint (← wordAt b.digits 1)
      return { messageType, singleHopSend := some { recipient, amount } }
    else return { messageType, singleHopSend := none } : Except Failure TransferrerPayload) = .ok v ↔
      ∃ m : TransferrerMessage, m.messageType = messageType ∧ m.payload = b ∧ v = m.fields := by
  split
  · rename_i htype
    subst htype
    simp only [bind_eq_ok, pure_eq_ok, wordAt_eq_ok, exactWords, abiUnless_eq_ok, exists_const, decide_eq_true_eq]
    have hlower : ∀ start, ∀ c ∈ slice b.digits start 64, isLowerHex c = true := fun start c hc =>
      b.lower c (mem_of_mem_slice hc)
    constructor
    · rintro ⟨hlength, w, ⟨hw, hwl⟩, recipient, hrecipient, w', ⟨hw', hwl'⟩, hv⟩
      subst hw hw'
      -- two words exactly: the recipient and the amount
      obtain ⟨a, ha, rfl⟩ := (address_eq_ok (hlower 0) hwl).1 hrecipient
      obtain ⟨n, hn, hbound, hword⟩ := eq_uintWord (hlower 64) hwl'
      refine ⟨.singleHop a ⟨n, hbound⟩, rfl, AbiBytes.ext_digits ?_, ?_⟩
      · show a.word ++ uintWord n = b.digits
        rw [← ha, ← hword, ← slice_add b.digits 0 64 64]
        exact slice_self hlength
      · rw [← hv, hn]
        rfl
    · rintro ⟨m, hm, rfl, rfl⟩
      cases m with
      | uninterpreted _ hother _ => exact absurd hm hother
      | singleHop a n =>
        have hlength : (a.word ++ uintWord n).length = 2 * 64 := by
          rw [List.length_append, a.length_word, length_uintWord]
        have hfirst : slice (a.word ++ uintWord n) (64 * 0) 64 = a.word := slice_head a.length_word
        have hsecond : slice (a.word ++ uintWord n) (64 * 1) 64 = uintWord n :=
          (slice_skip a.length_word 0 64).trans (slice_self (length_uintWord n))
        refine ⟨hlength, a.word, ⟨hfirst, a.length_word⟩, a.text, ?_, uintWord n, ⟨hsecond, length_uintWord n⟩, ?_⟩
        · exact (address_eq_ok a.lower_word a.length_word).2 ⟨a, rfl, rfl⟩
        · rw [uint_uintWord n.2]
          rfl
  · rename_i htype
    rw [pure_eq_ok]
    constructor
    · rintro rfl
      exact ⟨.uninterpreted messageType htype b, rfl, rfl, rfl⟩
    · rintro ⟨m, hm, hb, rfl⟩
      cases m with
      | singleHop _ _ => exact absurd hm.symm htype
      | uninterpreted _ _ _ =>
        rw [← hm]
        rfl

/-- The decoder accepts every layout of a message, and returns its fields. -/
theorem decodeTransferrerMessage_eq_ok {message : String} {v : TransferrerPayload} :
    decodeTransferrerMessage message = .ok v ↔
      ∃ hex, Spells message hex ∧ ∃ m tuple payload, MessageAt hex tuple payload m ∧ v = m.fields := by
  unfold decodeTransferrerMessage
  simp only [bind_eq_ok, body_eq_ok, abiUnless_eq_ok, exists_const, wordAt_eq_ok, position_eq_ok, decide_eq_true_eq,
    Collector.orFail_eq_ok, slice_drop, List.length_drop]
  constructor
  · rintro ⟨hex, hspells, hlong, w, ⟨hw, hwl⟩, tuple, ⟨-, htuple, haligned⟩, t, ⟨ht, htl⟩, messageType, htype, o,
      ⟨ho, hol⟩, payload, ⟨-, hpayload, hpaligned⟩, digits, hdigits, hv⟩
    subst hw ht ho
    have hlower : ∀ start, ∀ c ∈ slice hex start 64, isLowerHex c = true := fun start c hc =>
      hspells.lower c (mem_of_mem_slice hc)
    -- the payload is read at its own offset within the tuple
    obtain ⟨-, b, rfl, hregion⟩ := (dynamicBytes_eq_ok fun c hc => hspells.lower c (List.mem_of_mem_drop hc)).1 hdigits
    obtain ⟨m, rfl, rfl, rfl⟩ := payload_eq_ok.1 hv
    rw [slice_drop] at hregion
    have hwithin := slice_within hol (by decide)
    have hdouble : 2 * (tuple + payload) = tuple * 2 + 2 * payload := by omega
    have hindex := TransferrerMessage.eq_typeIndex htype
    refine ⟨hex, hspells, m, tuple, payload, ?_, rfl⟩
    refine ⟨hlong, ?_, haligned trivial, ?_, ?_, ?_, hpaligned trivial, ?_⟩
    · exact uint_of_toNat (hlower _) htuple
    · omega
    · rw [Nat.mul_comm]
      exact uint_of_toNat (hlower _) hindex
    · rw [Nat.mul_comm]
      exact uint_of_toNat (hlower _) hpayload
    · rw [hdouble]
      exact hregion
  · rintro ⟨hex, hspells, m, tuple, payload, h, rfl⟩
    have hbytes := AbiBytes.within h.bytes
    have hwithin := h.within
    have hdouble : 2 * (tuple + payload) = tuple * 2 + 2 * payload := by omega
    have hregion : slice (hex.drop (tuple * 2)) (2 * payload) (2 * (32 + m.payload.padded)) = m.payload.encode := by
      rw [slice_drop, ← hdouble]
      exact h.bytes
    refine ⟨hex, hspells, h.long, _, ⟨rfl, length_slice_of_le ?_⟩, tuple, ⟨?_, ?_, fun _ => h.aligned⟩, _,
      ⟨rfl, length_slice_of_le ?_⟩, m.messageType, ?_, _, ⟨rfl, length_slice_of_le ?_⟩, payload,
      ⟨?_, ?_, fun _ => h.payload_aligned⟩, m.payload.digits, ?_, payload_eq_ok.2 ⟨m, rfl, rfl, rfl⟩⟩
    · omega
    · rw [h.head]
      omega
    · rw [h.head, Int.toNat_natCast]
    · omega
    · rw [Nat.mul_comm tuple 2, show uint (slice hex (2 * tuple + 64 * 0) 64) = m.typeIndex from h.type,
        Int.toNat_natCast]
      exact m.getElem?_typeIndex
    · omega
    · rw [Nat.mul_comm tuple 2, show uint (slice hex (2 * tuple + 64 * 1) 64) = payload from h.offset]
      omega
    · rw [Nat.mul_comm tuple 2, show uint (slice hex (2 * tuple + 64 * 1) 64) = payload from h.offset, Int.toNat_natCast]
    · exact (dynamicBytes_eq_ok fun c hc => hspells.lower c (List.mem_of_mem_drop hc)).2
        ⟨h.payload_aligned, m.payload, rfl, hregion⟩

/-! ## Exactness -/

/-- A layout stays one whatever is written behind it. -/
theorem MessageAt.append {hex : List Char} {tuple payload : Nat} {m : TransferrerMessage}
    (h : MessageAt hex tuple payload m) (more : List Char) : MessageAt (hex ++ more) tuple payload m := by
  have hlong := h.long
  have hwithin := h.within
  have hlength : hex.length ≤ (hex ++ more).length := by
    rw [List.length_append]
    omega
  refine ⟨by omega, ?_, h.aligned, by omega, ?_, ?_, h.payload_aligned, ?_⟩
  · rw [slice_append (by omega)]
    exact h.head
  · rw [slice_append (by omega)]
    exact h.type
  · rw [slice_append (by omega)]
    exact h.offset
  · rw [slice_append (AbiBytes.within h.bytes)]
    exact h.bytes

/-- So the bytes behind a message are not looked at. -/
theorem decodeTransferrerMessage_append (m : TransferrerMessage) (more : AbiBytes) :
    decodeTransferrerMessage ("0x" ++ String.ofList (m.encode ++ more.digits)) = .ok m.fields := by
  refine decodeTransferrerMessage_eq_ok.2
    ⟨m.encode ++ more.digits, ⟨rfl, ?_, ?_⟩, m, 32, 64, m.messageAt_encode.append _, rfl⟩
  · rw [List.length_append, m.length_encode, more.length_digits, ← Nat.mul_add, Nat.mul_mod_right]
  · intro c hc
    exact (List.mem_append.1 hc).elim (m.spells_encode.lower c) (more.lower c)

/-- The decoder accepts the text exactly as the canonical encoding of a message, and returns its fields. -/
def ExactPayload (message : String) : Prop :=
  ∀ v, decodeTransferrerMessage message = .ok v ↔
    ∃ m : TransferrerMessage, message = "0x" ++ String.ofList m.encode ∧ v = m.fields

/-- No message is laid out in the text in another way than by its encoding. -/
def PayloadTight (message : String) : Prop :=
  ∀ hex, Spells message hex → ∀ m tuple payload, MessageAt hex tuple payload m → MessageTight hex tuple payload m

theorem exactPayload_iff (message : String) : ExactPayload message ↔ PayloadTight message := by
  constructor
  · intro hexact hex hspells m tuple payload h
    have hdecoded := decodeTransferrerMessage_eq_ok.2 ⟨hex, hspells, m, tuple, payload, h, rfl⟩
    obtain ⟨m', htext, -⟩ := (hexact m.fields).1 hdecoded
    have hspells' : Spells message m'.encode := htext ▸ m'.spells_encode
    obtain rfl := hspells.unique hspells'
    have h' := m'.messageAt_encode
    obtain rfl : tuple = 32 := Int.natCast_inj.1 (h.head.symm.trans h'.head)
    obtain rfl : payload = 64 := Int.natCast_inj.1 (h.offset.symm.trans h'.offset)
    have hsize := AbiBytes.size_unique h.bytes h'.bytes
    refine ⟨rfl, rfl, ?_⟩
    rw [m'.length_encode, AbiBytes.padded, AbiBytes.padded, hsize]
  · intro htight v
    rw [decodeTransferrerMessage_eq_ok]
    constructor
    · rintro ⟨hex, hspells, m, tuple, payload, h, rfl⟩
      refine ⟨m, ?_, rfl⟩
      rw [← h.eq_encode (htight hex hspells m tuple payload h) hspells.lower]
      exact hspells.text
    · rintro ⟨m, rfl, rfl⟩
      exact ⟨m.encode, m.spells_encode, m, 32, 64, m.messageAt_encode, rfl⟩

end IcttSentinel.Adapters
