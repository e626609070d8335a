/-
What the other decoders of events.ts accept, and what they return: a static log is refused unless its topics
and data are as many words as its event has, each within its type, and no log is read as two events.
-/
import IcttSentinel.Adapters.Received

namespace IcttSentinel.Adapters

open IcttSentinel.Collector IcttSentinel.Lib IcttSentinel.RpcQuorum IcttSentinel.Storage

/-! ## Words -/

namespace AbiWord

theorem ext_digits {v w : AbiWord} (h : v.digits = w.digits) : v = w := by
  cases v
  cases w
  cases h
  rfl

/-- The number that a word reads as. -/
def value (w : AbiWord) : Int := uint w.digits

theorem value_bounds (w : AbiWord) : 0 ≤ w.value ∧ w.value < 2 ^ 256 := by
  obtain ⟨n, hn, hbound, -⟩ := eq_uintWord w.lower w.length
  unfold value
  rw [hn]
  exact ⟨Int.natCast_nonneg n, by exact_mod_cast hbound⟩

/-- The word of an address. -/
def ofAddress (a : AbiAddress) : AbiWord where
  digits := a.word
  length := a.length_word
  lower := a.lower_word

/-- The word of a truth value. -/
def ofBool (b : Bool) : AbiWord where
  digits := uintWord b.toNat
  length := length_uintWord _
  lower := lower_uintWord _

/-- An address is read from the words of addresses. -/
theorem address_eq_ok {w : AbiWord} {text : String} :
    address w.digits = .ok text ↔ ∃ a : AbiAddress, w = ofAddress a ∧ text = a.text := by
  rw [Adapters.address_eq_ok w.lower w.length]
  constructor
  · rintro ⟨a, hword, rfl⟩
    exact ⟨a, ext_digits hword, rfl⟩
  · rintro ⟨a, rfl, rfl⟩
    exact ⟨a, rfl, rfl⟩

/-- A truth value is read from the words of truth values. -/
theorem bool_eq_ok {w : AbiWord} {b : Bool} : bool w.digits = .ok b ↔ w = ofBool b := by
  have hfalse : uintWord 0 = List.replicate 64 '0' := by decide
  have htrue : uintWord 1 = List.replicate 63 '0' ++ ['1'] := by decide
  unfold bool
  rw [← hfalse, ← htrue]
  constructor
  · intro h
    split at h
    · rename_i hword
      cases h
      exact ext_digits hword
    · split at h
      · rename_i hword
        cases h
        exact ext_digits hword
      · cases h
  · rintro rfl
    cases b with
    | false => rfl
    | true => rfl

end AbiWord

section Words

variable {n : Nat}

/-- The digits of some words. -/
def digitsOf (words : Fin n → AbiWord) : List Char := (List.ofFn words).flatMap AbiWord.digits

/-- Data that is some words. -/
def dataOf (words : Fin n → AbiWord) : String := "0x" ++ String.ofList (digitsOf words)

theorem length_flatMap_digits (words : List AbiWord) : (words.flatMap AbiWord.digits).length = 64 * words.length := by
  induction words with
  | nil => rfl
  | cons w words ih =>
    rw [List.flatMap_cons, List.length_append, ih, w.length, List.length_cons]
    omega

theorem spells_dataOf (words : Fin n → AbiWord) : Spells (dataOf words) (digitsOf words) where
  text := rfl
  even := by
    unfold digitsOf
    rw [length_flatMap_digits]
    omega
  lower := by
    intro c hc
    obtain ⟨w, -, hc⟩ := List.mem_flatMap.1 hc
    exact w.lower c hc

/-- Each word is read at its place. -/
theorem wordAt_digitsOf (words : Fin n → AbiWord) (i : Fin n) : wordAt (digitsOf words) i = .ok (words i).digits := by
  have hslice : ∀ (ws : List AbiWord) (j : Nat) (w : AbiWord), ws[j]? = some w →
      slice (ws.flatMap AbiWord.digits) (64 * j) 64 = w.digits := by
    intro ws
    induction ws with
    | nil =>
      intro j w h
      cases h
    | cons v ws ih =>
      intro j w h
      cases j with
      | zero =>
        cases h
        exact slice_head v.length
      | succ j =>
        rw [List.flatMap_cons, Nat.mul_succ, Nat.add_comm, slice_skip v.length]
        exact ih j w h
  refine wordAt_eq_ok.2 ⟨hslice _ _ _ ?_, (words i).length⟩
  rw [List.getElem?_ofFn, dif_pos i.isLt]

/-- Lowercase digits of as many words are those of some words. -/
theorem exists_digitsOf {hex : List Char} (hlower : ∀ c ∈ hex, isLowerHex c = true) (hlength : hex.length = n * 64) :
    ∃ words : Fin n → AbiWord, hex = digitsOf words := by
  induction n generalizing hex with
  | zero => exact ⟨Fin.elim0, List.eq_nil_of_length_eq_zero (by omega)⟩
  | succ n ih =>
    have hfirst : (hex.take 64).length = 64 := by
      rw [List.length_take]
      omega
    have hrest : (hex.drop 64).length = n * 64 := by
      rw [List.length_drop]
      omega
    obtain ⟨words, hwords⟩ := ih (fun c hc => hlower c (List.mem_of_mem_drop hc)) hrest
    refine ⟨Fin.cons ⟨hex.take 64, hfirst, fun c hc => hlower c (List.mem_of_mem_take hc)⟩ words, ?_⟩
    unfold digitsOf at hwords ⊢
    rw [List.ofFn_succ, List.flatMap_cons, Fin.cons_zero]
    simp only [Fin.cons_succ]
    rw [← hwords]
    exact (List.take_append_drop 64 hex).symm

/-- Data is accepted as so many words exactly when it is some. -/
theorem static_body_eq_ok {α : Type} {data : String} {read : List Char → Except Failure α} {v : α} :
    (do
      let hex ← body data
      exactWords hex n
      read hex) = .ok v ↔ ∃ words : Fin n → AbiWord, data = dataOf words ∧ read (digitsOf words) = .ok v := by
  unfold exactWords
  simp only [bind_eq_ok, body_eq_ok, abiUnless_eq_ok, exists_const, decide_eq_true_eq]
  constructor
  · rintro ⟨hex, hspells, hlength, hread⟩
    obtain ⟨words, rfl⟩ := exists_digitsOf hspells.lower hlength
    exact ⟨words, hspells.text, hread⟩
  · rintro ⟨words, rfl, hread⟩
    refine ⟨digitsOf words, spells_dataOf words, ?_, hread⟩
    unfold digitsOf
    rw [length_flatMap_digits, List.length_ofFn, Nat.mul_comm]

end Words

/-! ## Static events -/

section Events

variable {keccak256 : List Int → String} {log : EventLog} {m n : Nat}

/-- The topics of the log are that of the event and these words. -/
def Topics (keccak256 : List Int → String) (log : EventLog) (name : EventName) (topics : Fin m → AbiWord) : Prop :=
  log.topics = eventTopic keccak256 name :: (List.ofFn topics).map AbiWord.text

theorem expectTopics_eq_topics {name : EventName} (htopic : matchesHex "0x" 64 (eventTopic keccak256 name) = true)
    {u : Unit} :
    expectTopics keccak256 log name (m + 1) = .ok u ↔ ∃ topics : Fin m → AbiWord, Topics keccak256 log name topics := by
  rw [expectTopics_eq_ok htopic]
  constructor
  · rintro ⟨topics, rfl, htopics⟩
    refine ⟨topics.get, ?_⟩
    unfold Topics
    rw [List.ofFn_get]
    exact htopics
  · rintro ⟨topics, htopics⟩
    exact ⟨List.ofFn topics, List.length_ofFn, htopics⟩

theorem Topics.topic {name : EventName} {topics : Fin m → AbiWord} (h : Topics keccak256 log name topics) (i : Fin m) :
    topic log (i + 1) = .ok (topics i).text := by
  unfold Topics at h
  rw [topic_eq_ok, h, List.getElem?_cons_succ, List.getElem?_map, List.getElem?_ofFn, dif_pos i.isLt]
  rfl

theorem Topics.topicAddress {name : EventName} {topics : Fin m → AbiWord} (h : Topics keccak256 log name topics)
    (i : Fin m) : topicAddress log (i + 1) = address (topics i).digits := by
  unfold Adapters.topicAddress
  rw [h.topic i]
  show address ((topics i).text.toList.drop 2) = _
  rw [AbiWord.text, toList_prefixed]
  rfl

/-- The log is an event of these topics and these words. -/
structure Logged (keccak256 : List Int → String) (log : EventLog) (name : EventName) (topics : Fin m → AbiWord)
    (words : Fin n → AbiWord) : Prop where
  topics : Topics keccak256 log name topics
  data : log.data = dataOf words

/-- How every static decoder begins. -/
theorem static_eq_ok {α : Type} {name : EventName} (htopic : matchesHex "0x" 64 (eventTopic keccak256 name) = true)
    {read : List Char → Except Failure α} {v : α} :
    (do
      expectTopics keccak256 log name (m + 1)
      let hex ← body log.data
      exactWords hex n
      read hex) = .ok v ↔
      ∃ (topics : Fin m → AbiWord) (words : Fin n → AbiWord), Logged keccak256 log name topics words ∧
        read (digitsOf words) = .ok v := by
  rw [bind_eq_ok]
  simp only [expectTopics_eq_topics htopic, static_body_eq_ok, exists_const]
  constructor
  · rintro ⟨⟨topics, htopics⟩, words, hdata, hread⟩
    exact ⟨topics, words, ⟨htopics, hdata⟩, hread⟩
  · rintro ⟨topics, words, hlogged, hread⟩
    exact ⟨⟨topics, hlogged.topics⟩, words, hlogged.data, hread⟩

/-- A `TokensSent` log: of its words, the addresses that are read have their zeros in front; fees and the
gas limit are not read. -/
theorem decodeTokensSent_eq_ok (htopic : matchesHex "0x" 64 (eventTopic keccak256 .tokensSent) = true)
    {v : TokensSentEvent} :
    decodeTokensSent keccak256 log = .ok v ↔
      ∃ (topics : Fin 2 → AbiWord) (words : Fin 9 → AbiWord), Logged keccak256 log .tokensSent topics words ∧
        ∃ sender transferrer recipient fallback : AbiAddress,
          topics 1 = .ofAddress sender ∧ words 1 = .ofAddress transferrer ∧ words 2 = .ofAddress recipient ∧
            words 7 = .ofAddress fallback ∧
              v = { messageId := (topics 0).text
                    sender := sender.text
                    destinationBlockchainId := (words 0).text
                    destinationTokenTransferrerAddress := transferrer.text
                    recipient := recipient.text
                    multiHopFallback := fallback.text
                    amount := (words 8).value } := by
  unfold decodeTokensSent
  refine (static_eq_ok htopic).trans ?_
  refine exists_congr fun topics => exists_congr fun words => and_congr_right fun h => ?_
  have hid : topic log 1 = .ok (topics 0).text := h.topics.topic 0
  have hsender : topicAddress log 2 = address (topics 1).digits := h.topics.topicAddress 1
  have hword := wordAt_digitsOf words
  have h₀ : wordAt (digitsOf words) 0 = .ok (words 0).digits := hword 0
  have h₁ : wordAt (digitsOf words) 1 = .ok (words 1).digits := hword 1
  have h₂ : wordAt (digitsOf words) 2 = .ok (words 2).digits := hword 2
  have h₇ : wordAt (digitsOf words) 7 = .ok (words 7).digits := hword 7
  have h₈ : wordAt (digitsOf words) 8 = .ok (words 8).digits := hword 8
  rw [hid, hsender, h₀, h₁, h₂, h₇, h₈]
  simp only [bind_eq_ok, Except.ok.injEq, exists_eq_left', AbiWord.address_eq_ok, pure_eq_ok]
  constructor
  · rintro ⟨_, ⟨sender, hsender, rfl⟩, _, ⟨transferrer, htransferrer, rfl⟩, _, ⟨recipient, hrecipient, rfl⟩, _,
      ⟨fallback, hfallback, rfl⟩, rfl⟩
    exact ⟨sender, transferrer, recipient, fallback, hsender, htransferrer, hrecipient, hfallback, rfl⟩
  · rintro ⟨sender, transferrer, recipient, fallback, hsender, htransferrer, hrecipient, hfallback, rfl⟩
    exact ⟨_, ⟨sender, hsender, rfl⟩, _, ⟨transferrer, htransferrer, rfl⟩, _, ⟨recipient, hrecipient, rfl⟩, _,
      ⟨fallback, hfallback, rfl⟩, rfl⟩

/-- A `TokensRouted` log: only its destination has an address that is read. -/
theorem decodeTokensRouted_eq_ok (htopic : matchesHex "0x" 64 (eventTopic keccak256 .tokensRouted) = true)
    {v : TokensRoutedEvent} :
    decodeTokensRouted keccak256 log = .ok v ↔
      ∃ (topics : Fin 1 → AbiWord) (words : Fin 9 → AbiWord), Logged keccak256 log .tokensRouted topics words ∧
        ∃ transferrer : AbiAddress, words 1 = .ofAddress transferrer ∧
          v = { messageId := (topics 0).text
                destinationBlockchainId := (words 0).text
                destinationTokenTransferrerAddress := transferrer.text
                amount := (words 8).value } := by
  unfold decodeTokensRouted
  refine (static_eq_ok htopic).trans ?_
  refine exists_congr fun topics => exists_congr fun words => and_congr_right fun h => ?_
  have hid : topic log 1 = .ok (topics 0).text := h.topics.topic 0
  have h₀ : wordAt (digitsOf words) 0 = .ok (words 0).digits := wordAt_digitsOf words 0
  have h₁ : wordAt (digitsOf words) 1 = .ok (words 1).digits := wordAt_digitsOf words 1
  have h₈ : wordAt (digitsOf words) 8 = .ok (words 8).digits := wordAt_digitsOf words 8
  rw [hid, h₀, h₁, h₈]
  simp only [bind_eq_ok, Except.ok.injEq, exists_eq_left', AbiWord.address_eq_ok, pure_eq_ok]
  constructor
  · rintro ⟨_, ⟨transferrer, htransferrer, rfl⟩, rfl⟩
    exact ⟨transferrer, htransferrer, rfl⟩
  · rintro ⟨transferrer, htransferrer, rfl⟩
    exact ⟨_, ⟨transferrer, htransferrer, rfl⟩, rfl⟩

/-- A `RemoteRegistered` log: its decimals fit a byte. -/
theorem decodeRemoteRegistered_eq_ok (htopic : matchesHex "0x" 64 (eventTopic keccak256 .remoteRegistered) = true)
    {v : RemoteRegisteredEvent} :
    decodeRemoteRegistered keccak256 log = .ok v ↔
      ∃ (topics : Fin 2 → AbiWord) (words : Fin 2 → AbiWord), Logged keccak256 log .remoteRegistered topics words ∧
        (words 1).value ≤ 255 ∧ ∃ remote : AbiAddress, topics 1 = .ofAddress remote ∧
          v = { remoteBlockchainId := (topics 0).text
                remoteTokenTransferrerAddress := remote.text
                initialCollateralNeeded := (words 0).value
                tokenDecimals := (words 1).value } := by
  unfold decodeRemoteRegistered
  refine (static_eq_ok htopic).trans ?_
  refine exists_congr fun topics => exists_congr fun words => and_congr_right fun h => ?_
  have hid : topic log 1 = .ok (topics 0).text := h.topics.topic 0
  have hremote : topicAddress log 2 = address (topics 1).digits := h.topics.topicAddress 1
  have h₀ : wordAt (digitsOf words) 0 = .ok (words 0).digits := wordAt_digitsOf words 0
  have h₁ : wordAt (digitsOf words) 1 = .ok (words 1).digits := wordAt_digitsOf words 1
  rw [hid, hremote, h₀, h₁]
  simp only [bind_eq_ok, Except.ok.injEq, exists_eq_left', AbiWord.address_eq_ok, abiUnless_eq_ok, exists_const,
    decide_eq_true_eq, pure_eq_ok]
  refine and_congr_right fun _ => ?_
  constructor
  · rintro ⟨_, ⟨remote, hremote, rfl⟩, rfl⟩
    exact ⟨remote, hremote, rfl⟩
  · rintro ⟨remote, hremote, rfl⟩
    exact ⟨_, ⟨remote, hremote, rfl⟩, rfl⟩

theorem decodeCollateralAdded_eq_ok (htopic : matchesHex "0x" 64 (eventTopic keccak256 .collateralAdded) = true)
    {v : CollateralAddedEvent} :
    decodeCollateralAdded keccak256 log = .ok v ↔
      ∃ (topics : Fin 2 → AbiWord) (words : Fin 2 → AbiWord), Logged keccak256 log .collateralAdded topics words ∧
        ∃ remote : AbiAddress, topics 1 = .ofAddress remote ∧
          v = { remoteBlockchainId := (topics 0).text
                remoteTokenTransferrerAddress := remote.text
                amount := (words 0).value
                remaining := (words 1).value } := by
  unfold decodeCollateralAdded
  refine (static_eq_ok htopic).trans ?_
  refine exists_congr fun topics => exists_congr fun words => and_congr_right fun h => ?_
  have hid : topic log 1 = .ok (topics 0).text := h.topics.topic 0
  have hremote : topicAddress log 2 = address (topics 1).digits := h.topics.topicAddress 1
  have h₀ : wordAt (digitsOf words) 0 = .ok (words 0).digits := wordAt_digitsOf words 0
  have h₁ : wordAt (digitsOf words) 1 = .ok (words 1).digits := wordAt_digitsOf words 1
  rw [hid, hremote, h₀, h₁]
  simp only [bind_eq_ok, Except.ok.injEq, exists_eq_left', AbiWord.address_eq_ok, pure_eq_ok]
  constructor
  · rintro ⟨_, ⟨remote, hremote, rfl⟩, rfl⟩
    exact ⟨remote, hremote, rfl⟩
  · rintro ⟨remote, hremote, rfl⟩
    exact ⟨_, ⟨remote, hremote, rfl⟩, rfl⟩

/-! ## Outcomes of messages -/

/-- A `MessageExecuted` log has no data. -/
theorem decodeMessageExecuted_eq_ok (htopic : matchesHex "0x" 64 (eventTopic keccak256 .messageExecuted) = true)
    {v : MessageOutcomeEvent} :
    decodeMessageExecuted keccak256 log = .ok v ↔
      ∃ topics : Fin 2 → AbiWord, Topics keccak256 log .messageExecuted topics ∧ log.data = "0x" ∧
        v = { messageId := (topics 0).text, sourceBlockchainId := (topics 1).text } := by
  unfold decodeMessageExecuted
  have hdata : ∀ words : Fin 0 → AbiWord, dataOf words = "0x" := fun _ => rfl
  refine (static_eq_ok htopic).trans ?_
  refine exists_congr fun topics => ?_
  constructor
  · rintro ⟨words, h, hread⟩
    have hid : topic log 1 = .ok (topics 0).text := h.topics.topic 0
    have hsource : topic log 2 = .ok (topics 1).text := h.topics.topic 1
    rw [hid, hsource] at hread
    exact ⟨h.topics, h.data.trans (hdata words), (Except.ok.inj hread).symm⟩
  · rintro ⟨htopics, hempty, rfl⟩
    have hid : topic log 1 = .ok (topics 0).text := htopics.topic 0
    have hsource : topic log 2 = .ok (topics 1).text := htopics.topic 1
    refine ⟨Fin.elim0, ⟨htopics, hempty.trans (hdata _).symm⟩, ?_⟩
    rw [hid, hsource]
    rfl

/-- Of a `MessageExecutionFailed` log only the topics are read. -/
theorem decodeMessageExecutionFailed_eq_ok
    (htopic : matchesHex "0x" 64 (eventTopic keccak256 .messageExecutionFailed) = true) {v : MessageOutcomeEvent} :
    decodeMessageExecutionFailed keccak256 log = .ok v ↔
      ∃ topics : Fin 2 → AbiWord, Topics keccak256 log .messageExecutionFailed topics ∧ (∃ hex, Spells log.data hex) ∧
        v = { messageId := (topics 0).text, sourceBlockchainId := (topics 1).text } := by
  unfold decodeMessageExecutionFailed
  rw [bind_eq_ok]
  simp only [expectTopics_eq_topics htopic, bind_eq_ok, body_eq_ok]
  constructor
  · rintro ⟨_, ⟨topics, htopics⟩, hex, hspells, t₁, ht₁, t₂, ht₂, hv⟩
    have hid : topic log 1 = .ok (topics 0).text := htopics.topic 0
    have hsource : topic log 2 = .ok (topics 1).text := htopics.topic 1
    cases hid.symm.trans ht₁
    cases hsource.symm.trans ht₂
    exact ⟨topics, htopics, ⟨hex, hspells⟩, (Except.ok.inj hv).symm⟩
  · rintro ⟨topics, htopics, ⟨hex, hspells⟩, rfl⟩
    exact ⟨(), ⟨topics, htopics⟩, hex, hspells, _, htopics.topic 0, _, htopics.topic 1, rfl⟩

/-! ## Calls of contracts -/

/-- Where a `TokensAndCall` log has what is read of it: the tuple is where the first word says. -/
structure TokensAndCallAt (hex : List Char) (tuple : Nat) (chain amount : AbiWord) (transferrer : AbiAddress) : Prop where
  head : uint (slice hex 0 64) = 32 * tuple
  amount : slice hex 64 64 = amount.digits
  chain : slice hex (64 * tuple) 64 = chain.digits
  transferrer : slice hex (64 * (tuple + 1)) 64 = transferrer.word

/-- Only the topics, the amount and the destination of such a log are read. -/
theorem decodeTokensAndCall_ok {name : EventName} (htopic : matchesHex "0x" 64 (eventTopic keccak256 name) = true)
    {v : TokensRoutedEvent} (h : decodeTokensAndCall keccak256 log name = .ok v) :
    ∃ (messageId : AbiWord) (more : List AbiWord),
      log.topics = eventTopic keccak256 name :: messageId.text :: more.map AbiWord.text ∧
        ∃ hex, Spells log.data hex ∧ ∃ tuple chain amount transferrer,
          TokensAndCallAt hex tuple chain amount transferrer ∧
            v = { messageId := messageId.text
                  destinationBlockchainId := chain.text
                  destinationTokenTransferrerAddress := transferrer.text
                  amount := amount.value } := by
  -- both events have the message id, and possibly one more topic
  have hcount : (if name = .tokensAndCallSent then 3 else 2) = (if name = .tokensAndCallSent then 1 else 0) + 1 + 1 := by
    split <;> rfl
  unfold decodeTokensAndCall at h
  rw [hcount] at h
  simp only [bind_eq_ok, expectTopics_eq_ok htopic, body_eq_ok, abiUnless_eq_ok, exists_const, wordAt_eq_ok,
    position_eq_ok, decide_eq_true_eq, topic_eq_ok, pure_eq_ok] at h
  obtain ⟨⟨topics, hlength, htopics⟩, hex, hspells, -, head, ⟨hhead, hheadl⟩, offset, ⟨-, hoffset, haligned⟩, t, ht, wc,
    ⟨hchain, hchainl⟩, wt, ⟨htransferrer, htransferrerl⟩, text, htext, wa, ⟨hamount, hamountl⟩, rfl⟩ := h
  obtain ⟨messageId, more, rfl⟩ := List.exists_cons_of_length_eq_add_one hlength
  have hlower : ∀ start, ∀ c ∈ slice hex start 64, isLowerHex c = true := fun start c hc =>
    hspells.lower c (mem_of_mem_slice hc)
  subst hhead hchain htransferrer hamount
  obtain ⟨transferrer, hword, rfl⟩ := (address_eq_ok (hlower _) htransferrerl).1 htext
  rw [htopics] at ht
  cases ht
  refine ⟨messageId, more, htopics, hex, hspells, offset / 32, ⟨_, hchainl, hlower _⟩, ⟨_, hamountl, hlower _⟩,
    transferrer, ⟨?_, rfl, rfl, hword⟩, rfl⟩
  have hvalue : uint (slice hex (64 * 0) 64) = offset := uint_of_toNat (hlower _) hoffset
  have hwhole := haligned trivial
  rw [Nat.mul_zero] at hvalue
  rw [hvalue]
  omega

/-! ## One event a log -/

variable (keccak256) in
/-- The decoder of the event accepts the log. -/
def accepts (log : EventLog) : EventName → Bool
  | .tokensSent => (decodeTokensSent keccak256 log).toBool
  | .tokensAndCallSent => (decodeTokensAndCall keccak256 log .tokensAndCallSent).toBool
  | .tokensRouted => (decodeTokensRouted keccak256 log).toBool
  | .tokensAndCallRouted => (decodeTokensAndCall keccak256 log .tokensAndCallRouted).toBool
  | .collateralAdded => (decodeCollateralAdded keccak256 log).toBool
  | .remoteRegistered => (decodeRemoteRegistered keccak256 log).toBool
  | .receiveCrossChainMessage => (decodeReceiveCrossChainMessage keccak256 log).toBool
  | .messageExecuted => (decodeMessageExecuted keccak256 log).toBool
  | .messageExecutionFailed => (decodeMessageExecutionFailed keccak256 log).toBool

/-- Every decoder begins with the topic of its event. -/
theorem accepts_topic {name : EventName} (h : accepts keccak256 log name = true) :
    log.topics[0]? = some (eventTopic keccak256 name) := by
  have hbegins : ∀ {α : Type} {count : Nat} {name : EventName} {read : Unit → Except Failure α},
      (expectTopics keccak256 log name count >>= read).toBool = true →
        log.topics[0]? = some (eventTopic keccak256 name) := by
    intro α count name read hread
    cases hexpected : expectTopics keccak256 log name count with
    | error failure =>
      rw [hexpected] at hread
      cases hread
    | ok u =>
      unfold expectTopics at hexpected
      simp only [bind_eq_ok, abiUnless_eq_ok, exists_const, decide_eq_true_eq] at hexpected
      exact hexpected.2.1
  cases name with
  | tokensSent => exact hbegins h
  | tokensAndCallSent => exact hbegins h
  | tokensRouted => exact hbegins h
  | tokensAndCallRouted => exact hbegins h
  | collateralAdded => exact hbegins h
  | remoteRegistered => exact hbegins h
  | receiveCrossChainMessage => exact hbegins h
  | messageExecuted => exact hbegins h
  | messageExecutionFailed => exact hbegins h

theorem signature_injective : Function.Injective EventName.signature := by
  intro a b h
  cases a <;> cases b <;> first | rfl | exact absurd h (by decide +kernel)

/-- No log is read as two events, where Keccak tells the signatures apart. -/
theorem accepts_unique (hkeccak : ∀ a b : EventName, eventTopic keccak256 a = eventTopic keccak256 b → a.signature = b.signature)
    {name name' : EventName} (h : accepts keccak256 log name = true) (h' : accepts keccak256 log name' = true) :
    name = name' :=
  signature_injective (hkeccak _ _ (Option.some.inj ((accepts_topic h).symm.trans (accepts_topic h'))))

end Events

/-! ## Answers of calls -/

section Results

variable {result : String}

theorem decodeWordResult_eq_ok {digits : List Char} :
    decodeWordResult result = .ok digits ↔ ∃ words : Fin 1 → AbiWord, result = dataOf words ∧ digits = (words 0).digits := by
  refine static_body_eq_ok.trans (exists_congr fun words => and_congr_right fun _ => ?_)
  have h₀ : wordAt (digitsOf words) 0 = .ok (words 0).digits := wordAt_digitsOf words 0
  rw [h₀, Except.ok.injEq]
  exact eq_comm

theorem decodeUintResult_eq_ok {n : Int} :
    decodeUintResult result = .ok n ↔ ∃ words : Fin 1 → AbiWord, result = dataOf words ∧ n = (words 0).value := by
  unfold decodeUintResult
  simp only [bind_eq_ok, decodeWordResult_eq_ok, pure_eq_ok]
  constructor
  · rintro ⟨_, ⟨words, rfl, rfl⟩, rfl⟩
    exact ⟨words, rfl, rfl⟩
  · rintro ⟨words, rfl, rfl⟩
    exact ⟨_, ⟨words, rfl, rfl⟩, rfl⟩

theorem decodeAddressResult_eq_ok {text : String} :
    decodeAddressResult result = .ok text ↔
      ∃ (words : Fin 1 → AbiWord) (a : AbiAddress), result = dataOf words ∧ words 0 = .ofAddress a ∧ text = a.text := by
  unfold decodeAddressResult
  simp only [bind_eq_ok, decodeWordResult_eq_ok]
  constructor
  · rintro ⟨_, ⟨words, rfl, rfl⟩, h⟩
    obtain ⟨a, hword, rfl⟩ := AbiWord.address_eq_ok.1 h
    exact ⟨words, a, rfl, hword, rfl⟩
  · rintro ⟨words, a, rfl, hword, rfl⟩
    exact ⟨_, ⟨words, rfl, rfl⟩, AbiWord.address_eq_ok.2 ⟨a, hword, rfl⟩⟩

theorem decodeBytes32Result_eq_ok {text : String} :
    decodeBytes32Result result = .ok text ↔ ∃ words : Fin 1 → AbiWord, result = dataOf words ∧ text = (words 0).text := by
  unfold decodeBytes32Result
  simp only [bind_eq_ok, decodeWordResult_eq_ok, pure_eq_ok]
  constructor
  · rintro ⟨_, ⟨words, rfl, rfl⟩, rfl⟩
    exact ⟨words, rfl, rfl⟩
  · rintro ⟨words, rfl, rfl⟩
    exact ⟨_, ⟨words, rfl, rfl⟩, rfl⟩

/-- Settings are four words, two of which are truth values. -/
theorem decodeRemoteSettingsResult_eq_ok {v : RemoteSettingsResult} :
    decodeRemoteSettingsResult result = .ok v ↔
      ∃ words : Fin 4 → AbiWord, result = dataOf words ∧ words 0 = .ofBool v.registered ∧
        words 3 = .ofBool v.multiplyOnRemote ∧ v.collateralNeeded = (words 1).value ∧
          v.tokenMultiplier = (words 2).value := by
  unfold decodeRemoteSettingsResult
  refine static_body_eq_ok.trans (exists_congr fun words => and_congr_right fun _ => ?_)
  have h₀ : wordAt (digitsOf words) 0 = .ok (words 0).digits := wordAt_digitsOf words 0
  have h₁ : wordAt (digitsOf words) 1 = .ok (words 1).digits := wordAt_digitsOf words 1
  have h₂ : wordAt (digitsOf words) 2 = .ok (words 2).digits := wordAt_digitsOf words 2
  have h₃ : wordAt (digitsOf words) 3 = .ok (words 3).digits := wordAt_digitsOf words 3
  rw [h₀, h₁, h₂, h₃]
  simp only [bind_eq_ok, Except.ok.injEq, exists_eq_left', AbiWord.bool_eq_ok, pure_eq_ok]
  constructor
  · rintro ⟨registered, hregistered, multiplyOnRemote, hmultiply, rfl⟩
    exact ⟨hregistered, hmultiply, rfl, rfl⟩
  · rintro ⟨hregistered, hmultiply, hneeded, hmultiplier⟩
    refine ⟨_, hregistered, _, hmultiply, ?_⟩
    cases v
    cases hneeded
    cases hmultiplier
    rfl

end Results

end IcttSentinel.Adapters
