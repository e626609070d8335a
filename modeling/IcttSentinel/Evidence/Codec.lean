/-
Encoded inputs are read back. A field decoder is read against the canonical form of what its encoder writes, a record
decoder from the field decoders by the keys of the record.
-/
import IcttSentinel.Evidence.ReplayInput
import IcttSentinel.Lib.Traversal

namespace IcttSentinel.Evidence

open IcttSentinel.Lib IcttSentinel.InvariantCore

/-! ## Inputs that can be encoded -/

def IsUint256 (n : Int) : Prop := 0 ≤ n ∧ n < 2 ^ 256

def IsCount (n : Int) : Prop := 0 ≤ n ∧ n ≤ maxSafeInteger

section Encodable

variable (nfc : Nfc)

def Nfc.Normal (s : String) : Prop := nfc.normalize s = s

structure PinEncodable (p : PinnedBlock) : Prop where
  blockchainId : nfc.Normal p.blockchainId
  blockNumber : IsUint256 p.blockNumber
  blockHash : nfc.Normal p.blockHash

structure ProvenanceEncodable (p : ProvenanceInput) : Prop where
  manifestHash : ∀ s ∈ p.manifestHash, nfc.Normal s
  policyHash : ∀ s ∈ p.policyHash, nfc.Normal s
  sourceLockCommitSha : ∀ s ∈ p.sourceLockCommitSha, nfc.Normal s
  adapterId : ∀ s ∈ p.adapterId, nfc.Normal s
  adapterVersion : ∀ n ∈ p.adapterVersion, IsCount n
  ruleVersion : nfc.Normal p.ruleVersion

structure ScaleEncodable (s : TokenScaleInput) : Prop where
  tokenMultiplier : IsUint256 s.tokenMultiplier
  homeDecimals : IsCount s.homeDecimals
  remoteDecimals : IsCount s.remoteDecimals

structure RemoteEncodable (r : RemoteObservation) : Prop where
  remoteBlockchainId : nfc.Normal r.remoteBlockchainId
  remoteAddress : nfc.Normal r.remoteAddress
  transferredBalance : ∀ n ∈ r.transferredBalance, IsUint256 n
  remoteTotalSupply : ∀ n ∈ r.remoteTotalSupply, IsUint256 n
  scale : ScaleEncodable r.scale
  homePin : ∀ p ∈ r.homePin, PinEncodable nfc p
  remotePin : ∀ p ∈ r.remotePin, PinEncodable nfc p
  initialReserveImbalance : IsUint256 r.initialReserveImbalance

structure PendingEncodable (p : PendingEnvelope) : Prop where
  messageKey : nfc.Normal p.messageKey
  amount : IsUint256 p.amount
  ageSeconds : IsCount p.ageSeconds
  remoteBlockchainId : nfc.Normal p.remoteBlockchainId
  remoteAddress : nfc.Normal p.remoteAddress

structure EffectEncodable (e : CreditedEffect) : Prop where
  messageKey : nfc.Normal e.messageKey
  amount : IsUint256 e.amount
  remoteBlockchainId : nfc.Normal e.remoteBlockchainId
  remoteAddress : nfc.Normal e.remoteAddress
  causalSourceFact : ∀ s ∈ e.causalSourceFact, nfc.Normal s

/-- A proof input of uint256 amounts, safe non-negative counts and normalised strings. -/
structure ProofEncodable (input : ProofInput) : Prop where
  deploymentId : nfc.Normal input.deploymentId
  family : nfc.Normal input.family
  provenance : ProvenanceEncodable nfc input.provenance
  untrackedRemotes : ∀ s ∈ input.untrackedRemotes, nfc.Normal s
  independentWitnessGroups : IsCount input.freshness.independentWitnessGroups
  requiredWitnessGroups : IsCount input.freshness.requiredWitnessGroups
  remotes : ∀ r ∈ input.remotes, RemoteEncodable nfc r
  pending : ∀ p ∈ input.pending, PendingEncodable nfc p
  effects : ∀ e ∈ input.effects, EffectEncodable nfc e
  escrowBalance : ∀ n ∈ input.homeEscrow.escrowBalance, IsUint256 n
  homePin : ∀ p ∈ input.homeEscrow.homePin, PinEncodable nfc p
  acceptedCollateralHomeUnits : IsUint256 input.homeEscrow.acceptedCollateralHomeUnits
  pendingAgeLimitSeconds : IsCount input.pendingAgeLimitSeconds

/-- A native input of uint256 amounts, safe non-negative counts and normalised strings. -/
structure NativeEncodable (native : NativeInput) : Prop where
  totalMinted : ∀ n ∈ native.components.totalMinted, IsUint256 n
  initialReserveImbalance : ∀ n ∈ native.components.initialReserveImbalance, IsUint256 n
  burnedTxFeesAddressBalance : ∀ n ∈ native.components.burnedTxFeesAddressBalance, IsUint256 n
  burnedForTransferAddressBalance : ∀ n ∈ native.components.burnedForTransferAddressBalance, IsUint256 n
  unexpectedRoleHolders : ∀ s ∈ native.census.unexpectedRoleHolders, nfc.Normal s
  epochsCovered : IsCount native.census.epochsCovered
  epochsExpected : IsCount native.census.epochsExpected
  openReportEnvelopes : IsCount native.feeReporting.openReportEnvelopes
  eligibleHomeCoverage : ∀ n ∈ native.eligibleHomeCoverage, IsUint256 n
  trustworthySupplyLowerBound : ∀ n ∈ native.trustworthySupplyLowerBound, IsUint256 n
  collateralNeeded : ∀ n ∈ native.collateralNeeded, IsUint256 n
  acceptedCollateral : ∀ n ∈ native.acceptedCollateral, IsUint256 n

end Encodable

/-! ## Fields -/

variable {nfc : Nfc} {α : Type}

@[simp] theorem ok_bind {β : Type} (a : α) (f : α → Except String β) : (Except.ok a >>= f) = f a := rfl

@[simp] theorem error_bind {β : Type} (e : String) (f : α → Except String β) : (Except.error e >>= f) = .error e := rfl

/-- The decoder gives `a` for the canonical form of `v`. -/
def Reads (nfc : Nfc) (parse : JsValue → Except String α) (v : JsValue) (a : α) : Prop :=
  ∃ c, canon nfc v = some c ∧ parse c = .ok a

/-- The value has a canonical form. -/
def HasForm (nfc : Nfc) (v : JsValue) : Prop := ∃ c, canon nfc v = some c

theorem Reads.form {parse : JsValue → Except String α} {v : JsValue} {a : α} (h : Reads nfc parse v a) : HasForm nfc v := by
  obtain ⟨c, hc, -⟩ := h
  exact ⟨c, hc⟩

theorem reads_text {s : String} (h : nfc.Normal s) : Reads nfc text (.str s) s := by
  refine ⟨.str s, ?_, rfl⟩
  rw [canon, h]

theorem reads_bool (nfc : Nfc) (b : Bool) : Reads nfc bool (.bool b) b := ⟨.bool b, rfl, rfl⟩

theorem isDecimal_toString {n : Int} (hn : 0 ≤ n) : isDecimal (toString n) = true := by
  have hdigits : ∀ c ∈ Nat.toDigits 10 n.natAbs, c.isDigit = true :=
    fun c hc => Nat.isDigit_of_mem_toDigits (by decide) (by decide) hc
  have hlist : (toString n).toList = Nat.toDigits 10 n.natAbs := by
    rcases Json.toList_toString n with ⟨h, -⟩ | ⟨-, h⟩
    · exact h
    · omega
  obtain ⟨c, cs, hcons⟩ := List.exists_cons_of_ne_nil (Nat.toDigits_ne_nil (n := n.natAbs) (b := 10))
  unfold isDecimal
  rw [hlist, hcons]
  rw [hcons] at hdigits
  show (c = '0' && cs.isEmpty || (c ≠ '0' && c.isDigit && cs.all Char.isDigit)) = true
  by_cases hzero : c = '0'
  · -- only zero starts with a zero
    subst hzero
    cases cs with
    | nil => rfl
    | cons d cs => exact absurd hcons (Json.toDigits_ne_zero_cons _ _ _)
  · have hall : cs.all Char.isDigit = true := List.all_eq_true.2 fun d hd => hdigits d (List.mem_cons_of_mem c hd)
    rw [hall, hdigits c List.mem_cons_self]
    simp [hzero]

theorem decimalValue_toString {n : Int} (hn : 0 ≤ n) : decimalValue (toString n) = n := by
  obtain ⟨m, rfl⟩ := Int.eq_ofNat_of_zero_le hn
  show ((Nat.ofDigitChars 10 (m.repr).toList 0 : Nat) : Int) = m
  rw [Nat.toList_repr, Nat.ofDigitChars_ten_toDigits]

theorem length_toString {n : Int} (h : IsUint256 n) : (toString n).length ≤ 78 := by
  obtain ⟨m, rfl⟩ := Int.eq_ofNat_of_zero_le h.1
  have hbound : m < 10 ^ 78 := by
    have hm : (m : Int) < 2 ^ 256 := h.2
    have hpow : (2 : Int) ^ 256 < 10 ^ 78 := by norm_num
    exact_mod_cast hm.trans hpow
  show (m.repr).length ≤ 78
  rw [← String.length_toList, Nat.toList_repr]
  exact (Nat.length_toDigits_le_iff (by decide) (by decide)).2 hbound

theorem decimalUint_toString {n : Int} (h : IsUint256 n) (message : String) :
    decimalUint message (toString n) = .ok n := by
  have hvalue := decimalValue_toString h.1
  unfold decimalUint
  rw [hvalue, if_neg]
  have hlength := length_toString h
  have hbound := h.2
  simp only [isDecimal_toString h.1, Bool.not_true, Bool.false_or, Bool.or_eq_true, decide_eq_true_eq]
  omega

theorem reads_uint (nfc : Nfc) {n : Int} (h : IsUint256 n) : Reads nfc uint (.bigint n) n :=
  ⟨.str (toString n), rfl, decimalUint_toString h _⟩

theorem isUint256_of_isCount {n : Int} (h : IsCount n) : IsUint256 n := by
  obtain ⟨hlow, hhigh⟩ := h
  refine ⟨hlow, lt_of_le_of_lt hhigh ?_⟩
  unfold maxSafeInteger
  norm_num

theorem IsCount.safe {n : Int} (h : IsCount n) : isSafeInteger n = true := by
  obtain ⟨hlow, hhigh⟩ := h
  unfold maxSafeInteger at hhigh
  unfold isSafeInteger
  rw [decide_eq_true_eq]
  omega

theorem canon_count {n : Int} (h : IsCount n) : canon nfc (.integer n) = some (.str (toString n)) := by
  rw [canon, if_pos h.safe]

theorem reads_count (nfc : Nfc) {n : Int} (h : IsCount n) : Reads nfc count (.integer n) n := by
  refine ⟨_, canon_count h, ?_⟩
  have huint : uint (.str (toString n)) = .ok n := decimalUint_toString (isUint256_of_isCount h) _
  rw [count, huint, ok_bind, if_neg (not_lt.2 h.2)]

/-- A decoder that refuses null reads a nullable field. -/
theorem reads_nullable {parse : JsValue → Except String α} {encode : α → JsValue} (hnull : ∀ a, parse .null ≠ .ok a)
    {o : Option α} (h : ∀ a ∈ o, Reads nfc parse (encode a) a) : Reads nfc (nullable parse) (.nullable encode o) o := by
  cases o with
  | none => exact ⟨.null, rfl, rfl⟩
  | some a =>
    obtain ⟨c, hc, hparse⟩ := h a rfl
    refine ⟨c, hc, ?_⟩
    have hvalue : nullable parse c = (parse c).map some := by
      cases c with
      | null => exact absurd hparse (hnull a)
      | _ => rfl
    rw [hvalue, hparse]
    rfl

theorem reads_array {parse : JsValue → Except String α} {encode : α → JsValue} {l : List α}
    (h : ∀ a ∈ l, Reads nfc parse (encode a) a) : Reads nfc (array parse) (.array encode l) l := by
  have hforms : ∃ cs : List JsValue, canonElements nfc (l.map fun a => some (encode a)) = some (cs.map some) ∧
      cs.mapM parse = .ok l := by
    induction l with
    | nil => exact ⟨[], rfl, rfl⟩
    | cons a l ih =>
      obtain ⟨cs, hcs, hparses⟩ := ih fun b hb => h b (List.mem_cons_of_mem a hb)
      obtain ⟨c, hc, hparse⟩ := h a List.mem_cons_self
      refine ⟨c :: cs, ?_, ?_⟩
      · rw [List.map_cons, canonElements, hc, hcs]
        rfl
      · rw [List.mapM_cons, hparse, ok_bind, hparses]
        rfl
  obtain ⟨cs, hcs, hparses⟩ := hforms
  refine ⟨.arr (cs.map some), ?_, ?_⟩
  · rw [JsValue.array, canon, hcs]
    rfl
  · have hreduce : (cs.map some).reduceOption = cs := by
      rw [List.reduceOption, List.filterMap_map]
      exact List.filterMap_some
    rw [array, hreduce, hparses]

theorem reads_choice {choices : List α} {name : α → String} {a : α} (hascii : ∀ c ∈ (name a).toList, c.toNat < 128)
    (hfind : (choices.find? fun b => name b = name a) = some a) : Reads nfc (choice choices name) (.str (name a)) a := by
  refine ⟨.str (name a), ?_, ?_⟩
  · rw [canon, nfc.ascii _ hascii]
  · unfold choice
    rw [show text (.str (name a)) = .ok (name a) from rfl]
    show Except.bind (Except.ok (name a)) _ = _
    simp only [Except.bind, hfind]

/-! ## Records -/

/-- Keys of ASCII characters, no two the same. -/
def PlainKeys (keys : List String) : Prop := keys.Nodup ∧ ∀ k ∈ keys, ∀ c ∈ k.toList, c.toNat < 128

instance (keys : List String) : Decidable (PlainKeys keys) :=
  have : Decidable (∀ k ∈ keys, ∀ c ∈ k.toList, c.toNat < 128) := List.decidableBAll _ keys
  instDecidableAnd

theorem property_of_mem {fields : List (String × JsValue)} (hnodup : (fields.map (·.1)).Nodup) {k : String} {c : JsValue}
    (h : (k, c) ∈ fields) : property fields k = c := by
  unfold property
  cases hfind : fields.find? fun e => e.1 = k with
  | none => exact absurd (decide_eq_true rfl) (List.find?_eq_none.1 hfind (k, c) h)
  | some e =>
    have hkey : e.1 = k := by simpa using List.find?_some hfind
    have heq : e = (k, c) := List.inj_on_of_nodup_map hnodup (List.mem_of_find?_eq_some hfind) h hkey
    rw [heq]

/-- What the form of a record is made of: its keys, and under each the form of its value. -/
structure RecordForm (nfc : Nfc) (entries fields : List (String × JsValue)) : Prop where
  canon_eq : canon nfc (.obj entries) = some (.obj fields)
  keys : (fields.map (·.1)).Perm (entries.map (·.1))
  property_eq : ∀ {k : String} {v c : JsValue}, (k, v) ∈ entries → canon nfc v = some c → property fields k = c

/-- Every field is read from the form of the record. -/
theorem RecordForm.read {entries fields : List (String × JsValue)} (h : RecordForm nfc entries fields)
    {read : JsValue → Except String α} {v : JsValue} {a : α} (k : String) (hread : Reads nfc read v a)
    (hmem : (k, v) ∈ entries) : read (property fields k) = .ok a := by
  obtain ⟨c, hc, ha⟩ := hread
  rw [h.property_eq hmem hc, ha]

theorem exists_recordForm {entries : List (String × JsValue)} (keys : List String) (hkeys : entries.map (·.1) = keys)
    (hplain : PlainKeys keys) (hforms : entries.Forall fun e => HasForm nfc e.2) :
    ∃ fields, RecordForm nfc entries fields := by
  rw [List.forall_iff_forall_mem] at hforms
  subst hkeys
  have hnormal : ∀ e ∈ entries, nfc.normalize e.1 = e.1 :=
    fun e he => nfc.ascii _ (hplain.2 e.1 (List.mem_map_of_mem he))
  have hdefined : ∀ e ∈ entries, e.2.isUndefined = false := by
    intro e he
    obtain ⟨c, hc⟩ := hforms e he
    obtain ⟨k, v⟩ := e
    cases v <;> first | rfl | cases hc
  have hform : ∀ e ∈ entries, entryForm nfc e = some ((canon nfc e.2).map (e.1, ·)) := by
    intro e he
    rw [entryForm, hdefined e he, hnormal e he]
    rfl
  obtain ⟨cs, hcs⟩ : ∃ cs, canonEntries nfc entries = some cs := by
    rw [canonEntries_eq]
    refine exists_mapM_id fun o ho => ?_
    obtain ⟨e, he, heform⟩ := List.mem_filterMap.1 ho
    obtain ⟨c, hc⟩ := hforms e he
    rw [hform e he, hc] at heform
    exact ⟨_, (Option.some_inj.1 heform).symm⟩
  -- the keys are plain, so none is dropped and none is renamed
  have hkeys : cs.map (·.1) = entries.map (·.1) := by
    have hentries : entries.filterMap (entryForm nfc) = entries.map fun e => (canon nfc e.2).map (e.1, ·) := by
      rw [← List.filterMap_eq_map]
      exact List.filterMap_congr hform
    have hnames := congrArg (List.map (Option.map Prod.fst)) (hentries.symm.trans (canonEntries_eq_some.1 hcs))
    have hleft : (entries.map fun e => (canon nfc e.2).map (e.1, ·)).map (Option.map Prod.fst) =
        (entries.map (·.1)).map some := by
      rw [List.map_map, List.map_map]
      refine List.map_congr_left fun e he => ?_
      obtain ⟨c, hc⟩ := hforms e he
      rw [Function.comp_apply, hc]
      rfl
    have hright : (cs.map some).map (Option.map Prod.fst) = (cs.map (·.1)).map some := by
      rw [List.map_map, List.map_map]
      rfl
    rw [hleft, hright] at hnames
    exact (List.map_injective_iff.2 (Option.some_injective _) hnames).symm
  have hnodup : (cs.map (·.1)).Nodup := hkeys ▸ hplain.1
  have hsorted : ((sortOn entryKey cs).map (·.1)).Perm (cs.map (·.1)) := (sortOn_perm entryKey cs).map (·.1)
  refine ⟨sortOn entryKey cs, canon_obj_eq_some.2 ⟨cs, hcs, hnodup, rfl⟩, hkeys ▸ hsorted, ?_⟩
  intro k v c hmem hc
  obtain ⟨d, hd, hd'⟩ := form_of_entry hcs hmem (hdefined _ hmem)
  rw [hc, Option.some_inj] at hd
  subst hd
  rw [hnormal _ hmem] at hd'
  exact property_of_mem (hsorted.nodup_iff.2 hnodup) (mem_sortOn.2 hd')

/-- A record is read where its fields are. -/
theorem reads_record {parse : JsValue → Except String α} {a : α} {entries : List (String × JsValue)} (keys : List String)
    (hkeys : entries.map (·.1) = keys) (hplain : PlainKeys keys) (hforms : entries.Forall fun e => HasForm nfc e.2)
    (hparse : ∀ fields, RecordForm nfc entries fields → parse (.obj fields) = .ok a) : Reads nfc parse (.obj entries) a := by
  obtain ⟨fields, hfields⟩ := exists_recordForm keys hkeys hplain hforms
  exact ⟨.obj fields, hfields.canon_eq, hparse fields hfields⟩

/-! ## The records of a proof input -/

theorem reads_pin {p : PinnedBlock} (h : PinEncodable nfc p) : Reads nfc pin (pinValue p) p := by
  have hchain := reads_text h.blockchainId
  have hnumber := reads_uint nfc h.blockNumber
  have hhash := reads_text h.blockHash
  refine reads_record ["blockchainId", "blockNumber", "blockHash"] rfl (by decide)
    ⟨hchain.form, hnumber.form, hhash.form⟩ fun fields hfields => ?_
  rw [pin, object, entriesOf, ok_bind]
  rw [hfields.read "blockchainId" hchain (by simp), hfields.read "blockNumber" hnumber (by simp),
    hfields.read "blockHash" hhash (by simp)]
  rfl

theorem reads_nullable_text {o : Option String} (h : ∀ s ∈ o, nfc.Normal s) :
    Reads nfc (nullable text) (.nullable .str o) o :=
  reads_nullable (fun _ h => by cases h) fun s hs => reads_text (h s hs)

theorem reads_nullable_uint (nfc : Nfc) {o : Option Int} (h : ∀ n ∈ o, IsUint256 n) :
    Reads nfc (nullable uint) (.nullable .bigint o) o :=
  reads_nullable (fun _ h => by cases h) fun n hn => reads_uint nfc (h n hn)

theorem reads_nullable_count (nfc : Nfc) {o : Option Int} (h : ∀ n ∈ o, IsCount n) :
    Reads nfc (nullable count) (.nullable .integer o) o :=
  reads_nullable (fun _ h => by cases h) fun n hn => reads_count nfc (h n hn)

theorem reads_nullable_pin {o : Option PinnedBlock} (h : ∀ p ∈ o, PinEncodable nfc p) :
    Reads nfc (nullable pin) (.nullable pinValue o) o :=
  reads_nullable (fun _ h => by cases h) fun p hp => reads_pin (h p hp)

/-- A record is read where its entries are taken first. -/
def ReadsFields (nfc : Nfc) (read : List (String × JsValue) → Except String α) (v : JsValue) (a : α) : Prop :=
  Reads nfc (fun v => object v >>= read) v a

theorem reads_provenance {p : ProvenanceInput} (h : ProvenanceEncodable nfc p) :
    ReadsFields nfc readProvenance (provenanceValue p) p := by
  have hmanifest := reads_nullable_text h.manifestHash
  have hpolicy := reads_nullable_text h.policyHash
  have hsource := reads_nullable_text h.sourceLockCommitSha
  have hadapter := reads_nullable_text h.adapterId
  have hversion := reads_nullable_count nfc h.adapterVersion
  have hrule := reads_text h.ruleVersion
  refine reads_record ["manifestHash", "policyHash", "sourceLockCommitSha", "adapterId", "adapterVersion", "ruleVersion"]
    rfl (by decide) ⟨hmanifest.form, hpolicy.form, hsource.form, hadapter.form, hversion.form, hrule.form⟩
    fun fields hfields => ?_
  rw [object, entriesOf, ok_bind, readProvenance]
  rw [hfields.read "manifestHash" hmanifest (by simp), hfields.read "policyHash" hpolicy (by simp),
    hfields.read "sourceLockCommitSha" hsource (by simp), hfields.read "adapterId" hadapter (by simp),
    hfields.read "adapterVersion" hversion (by simp), hfields.read "ruleVersion" hrule (by simp)]
  rfl

theorem reads_scale (nfc : Nfc) {s : TokenScaleInput} (h : ScaleEncodable s) : ReadsFields nfc readScale (scaleValue s) s := by
  have hmultiplier := reads_uint nfc h.tokenMultiplier
  have hmultiply := reads_bool nfc s.multiplyOnRemote
  have hhome := reads_count nfc h.homeDecimals
  have hremote := reads_count nfc h.remoteDecimals
  have hestablished := reads_bool nfc s.established
  refine reads_record ["tokenMultiplier", "multiplyOnRemote", "homeDecimals", "remoteDecimals", "established"]
    rfl (by decide) ⟨hmultiplier.form, hmultiply.form, hhome.form, hremote.form, hestablished.form⟩
    fun fields hfields => ?_
  rw [object, entriesOf, ok_bind, readScale]
  rw [hfields.read "tokenMultiplier" hmultiplier (by simp), hfields.read "multiplyOnRemote" hmultiply (by simp),
    hfields.read "homeDecimals" hhome (by simp), hfields.read "remoteDecimals" hremote (by simp),
    hfields.read "established" hestablished (by simp)]
  rfl

theorem reads_freshness (nfc : Nfc) {f : FreshnessInput} (hindependent : IsCount f.independentWitnessGroups)
    (hrequired : IsCount f.requiredWitnessGroups) : ReadsFields nfc readFreshness (freshnessValue f) f := by
  have hfresh := reads_bool nfc f.fresh
  have hgroups := reads_count nfc hindependent
  have hneeded := reads_count nfc hrequired
  refine reads_record ["fresh", "independentWitnessGroups", "requiredWitnessGroups"] rfl (by decide)
    ⟨hfresh.form, hgroups.form, hneeded.form⟩ fun fields hfields => ?_
  rw [object, entriesOf, ok_bind, readFreshness]
  rw [hfields.read "fresh" hfresh (by simp), hfields.read "independentWitnessGroups" hgroups (by simp),
    hfields.read "requiredWitnessGroups" hneeded (by simp)]
  rfl

theorem reads_homeEscrow {e : HomeEscrowInput} (hbalance : ∀ n ∈ e.escrowBalance, IsUint256 n)
    (hpin : ∀ p ∈ e.homePin, PinEncodable nfc p) (hcollateral : IsUint256 e.acceptedCollateralHomeUnits) :
    ReadsFields nfc readHomeEscrow (homeEscrowValue e) e := by
  have hescrow := reads_nullable_uint nfc hbalance
  have hhome := reads_nullable_pin hpin
  have haccepted := reads_uint nfc hcollateral
  refine reads_record ["escrowBalance", "homePin", "acceptedCollateralHomeUnits"] rfl (by decide)
    ⟨hescrow.form, hhome.form, haccepted.form⟩ fun fields hfields => ?_
  rw [object, entriesOf, ok_bind, readHomeEscrow]
  rw [hfields.read "escrowBalance" hescrow (by simp), hfields.read "homePin" hhome (by simp),
    hfields.read "acceptedCollateralHomeUnits" haccepted (by simp)]
  rfl

theorem reads_pending {p : PendingEnvelope} (h : PendingEncodable nfc p) : Reads nfc readPending (pendingValue p) p := by
  have hkey := reads_text h.messageKey
  have hdirection : Reads nfc (choice [.homeToRemote, .remoteToHome] Direction.text) (.str p.direction.text)
      p.direction := by
    cases p.direction <;> exact reads_choice (by decide) (by decide)
  have hamount := reads_uint nfc h.amount
  have hage := reads_count nfc h.ageSeconds
  have hchain := reads_text h.remoteBlockchainId
  have haddress := reads_text h.remoteAddress
  refine reads_record ["messageKey", "direction", "amount", "ageSeconds", "remoteBlockchainId", "remoteAddress"]
    rfl (by decide) ⟨hkey.form, hdirection.form, hamount.form, hage.form, hchain.form, haddress.form⟩
    fun fields hfields => ?_
  rw [readPending, object, entriesOf, ok_bind]
  rw [hfields.read "messageKey" hkey (by simp), hfields.read "direction" hdirection (by simp),
    hfields.read "amount" hamount (by simp), hfields.read "ageSeconds" hage (by simp),
    hfields.read "remoteBlockchainId" hchain (by simp), hfields.read "remoteAddress" haddress (by simp)]
  rfl

theorem reads_effect {e : CreditedEffect} (h : EffectEncodable nfc e) : Reads nfc readEffect (effectValue e) e := by
  have hkey := reads_text h.messageKey
  have hamount := reads_uint nfc h.amount
  have hchain := reads_text h.remoteBlockchainId
  have haddress := reads_text h.remoteAddress
  have hunique := reads_bool nfc e.hasUniqueAuthorisedSource
  have hroute := reads_bool nfc e.routeMatchesSource
  have hduplicate := reads_bool nfc e.duplicateEffect
  have hcausal := reads_nullable_text h.causalSourceFact
  refine reads_record ["messageKey", "amount", "remoteBlockchainId", "remoteAddress", "hasUniqueAuthorisedSource",
      "routeMatchesSource", "duplicateEffect", "causalSourceFact"] rfl (by decide)
    ⟨hkey.form, hamount.form, hchain.form, haddress.form, hunique.form, hroute.form, hduplicate.form, hcausal.form⟩
    fun fields hfields => ?_
  rw [readEffect, object, entriesOf, ok_bind]
  rw [hfields.read "messageKey" hkey (by simp), hfields.read "amount" hamount (by simp),
    hfields.read "remoteBlockchainId" hchain (by simp), hfields.read "remoteAddress" haddress (by simp),
    hfields.read "hasUniqueAuthorisedSource" hunique (by simp), hfields.read "routeMatchesSource" hroute (by simp),
    hfields.read "duplicateEffect" hduplicate (by simp), hfields.read "causalSourceFact" hcausal (by simp)]
  rfl

/-- Where the entries of a field are taken before other fields are read. -/
theorem ReadsFields.entries {read : List (String × JsValue) → Except String α} {fields : List (String × JsValue)}
    {k : String} {a : α} (h : (object (property fields k) >>= read) = .ok a) :
    ∃ inner, object (property fields k) = .ok inner ∧ read inner = .ok a := bind_eq_ok.1 h

theorem reads_remote {r : RemoteObservation} (h : RemoteEncodable nfc r) : Reads nfc readRemote (remoteValue r) r := by
  have hchain := reads_text h.remoteBlockchainId
  have haddress := reads_text h.remoteAddress
  have hbalance := reads_nullable_uint nfc h.transferredBalance
  have hsupply := reads_nullable_uint nfc h.remoteTotalSupply
  have hscale := reads_scale nfc h.scale
  have hhome := reads_nullable_pin h.homePin
  have hremote := reads_nullable_pin h.remotePin
  have hfingerprint := reads_bool nfc r.fingerprintRecognised
  have htoken := reads_bool nfc r.tokenBehaviourCanonical
  have hroute := reads_bool nfc r.routeSingleHop
  have himbalance := reads_uint nfc h.initialReserveImbalance
  refine reads_record ["remoteBlockchainId", "remoteAddress", "transferredBalance", "remoteTotalSupply", "scale", "homePin",
      "remotePin", "fingerprintRecognised", "tokenBehaviourCanonical", "routeSingleHop", "initialReserveImbalance"]
    rfl (by decide) ⟨hchain.form, haddress.form, hbalance.form, hsupply.form, hscale.form, hhome.form, hremote.form,
      hfingerprint.form, htoken.form, hroute.form, himbalance.form⟩ fun fields hfields => ?_
  obtain ⟨s, hs, hreads⟩ := ReadsFields.entries (hfields.read "scale" hscale (by simp))
  rw [readRemote, object, entriesOf, ok_bind, hs, ok_bind]
  rw [hfields.read "remoteBlockchainId" hchain (by simp), hfields.read "remoteAddress" haddress (by simp),
    hfields.read "transferredBalance" hbalance (by simp), hfields.read "remoteTotalSupply" hsupply (by simp), hreads,
    hfields.read "homePin" hhome (by simp), hfields.read "remotePin" hremote (by simp),
    hfields.read "fingerprintRecognised" hfingerprint (by simp), hfields.read "tokenBehaviourCanonical" htoken (by simp),
    hfields.read "routeSingleHop" hroute (by simp), hfields.read "initialReserveImbalance" himbalance (by simp)]
  rfl

/-- A proof input is read from the form of its value. -/
theorem reads_proofInput {input : ProofInput} (h : ProofEncodable nfc input) :
    Reads nfc readProofInput (proofInputValue input) input := by
  have hdeployment := reads_text h.deploymentId
  have hfamily := reads_text h.family
  have hprovenance := reads_provenance h.provenance
  have hcensus : Reads nfc (choice [.completeFromDeploymentBlock, .partialCensus, .unknown] CensusState.text)
      (.str input.census.text) input.census := by
    cases input.census <;> exact reads_choice (by decide) (by decide)
  have hcut : Reads nfc (choice [.closed, .open, .gap] CutState.text) (.str input.cut.text) input.cut := by
    cases input.cut <;> exact reads_choice (by decide) (by decide)
  have huntracked : Reads nfc (array text) (.array .str input.untrackedRemotes) input.untrackedRemotes :=
    reads_array fun s hs => reads_text (h.untrackedRemotes s hs)
  have hfreshness := reads_freshness nfc h.independentWitnessGroups h.requiredWitnessGroups
  have hremotes : Reads nfc (array readRemote) (.array remoteValue input.remotes) input.remotes :=
    reads_array fun r hr => reads_remote (h.remotes r hr)
  have hpending : Reads nfc (array readPending) (.array pendingValue input.pending) input.pending :=
    reads_array fun p hp => reads_pending (h.pending p hp)
  have heffects : Reads nfc (array readEffect) (.array effectValue input.effects) input.effects :=
    reads_array fun e he => reads_effect (h.effects e he)
  have hescrow := reads_homeEscrow h.escrowBalance h.homePin h.acceptedCollateralHomeUnits
  have hlimit := reads_count nfc h.pendingAgeLimitSeconds
  refine reads_record ["deploymentId", "family", "provenance", "census", "cut", "untrackedRemotes", "freshness", "remotes",
      "pending", "effects", "homeEscrow", "pendingAgeLimitSeconds"] rfl (by decide)
    ⟨hdeployment.form, hfamily.form, hprovenance.form, hcensus.form, hcut.form, huntracked.form, hfreshness.form,
      hremotes.form, hpending.form, heffects.form, hescrow.form, hlimit.form⟩ fun fields hfields => ?_
  obtain ⟨p, hp, hreadsp⟩ := ReadsFields.entries (hfields.read "provenance" hprovenance (by simp))
  obtain ⟨f, hf, hreadsf⟩ := ReadsFields.entries (hfields.read "freshness" hfreshness (by simp))
  obtain ⟨e, he, hreadse⟩ := ReadsFields.entries (hfields.read "homeEscrow" hescrow (by simp))
  rw [readProofInput, object, entriesOf, ok_bind, hp, ok_bind, hf, ok_bind, he, ok_bind]
  rw [hfields.read "deploymentId" hdeployment (by simp), hfields.read "family" hfamily (by simp), hreadsp,
    hfields.read "census" hcensus (by simp), hfields.read "cut" hcut (by simp),
    hfields.read "untrackedRemotes" huntracked (by simp), hreadsf, hfields.read "remotes" hremotes (by simp),
    hfields.read "pending" hpending (by simp), hfields.read "effects" heffects (by simp), hreadse,
    hfields.read "pendingAgeLimitSeconds" hlimit (by simp)]
  rfl

end IcttSentinel.Evidence
