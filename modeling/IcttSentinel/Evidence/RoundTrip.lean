/-
The replay input as a document. What is encoded is read back, exactly when every unexpected role holder is written as
the decoder wants it; what is accepted is encoded to the same text; and nothing is accepted as both kinds of input.
-/
import IcttSentinel.Evidence.Codec

namespace IcttSentinel.Evidence

open IcttSentinel.Lib IcttSentinel.InvariantCore

variable {nfc : Nfc} {α : Type}

/-! ## The records of a native input -/

theorem reads_amount (nfc : Nfc) {o : Option Int} (h : ∀ n ∈ o, IsUint256 n) :
    Reads nfc amount (.nullable .bigint o) o := by
  cases o with
  | none => exact ⟨.null, rfl, rfl⟩
  | some n =>
    refine ⟨.str (toString n), rfl, ?_⟩
    rw [amount, decimalUint_toString (h n rfl)]
    rfl

theorem reads_nativeCount (nfc : Nfc) {n : Int} (h : IsCount n) : Reads nfc nativeCount (.integer n) n := by
  refine ⟨_, canon_count h, ?_⟩
  rw [nativeCount, amount, decimalUint_toString (isUint256_of_isCount h)]
  show (if n > maxSafeInteger then Except.error _ else Except.ok n) = _
  rw [if_neg (not_lt.2 h.2)]

theorem reads_components (nfc : Nfc) {c : NativeSupplyComponents} (hminted : ∀ n ∈ c.totalMinted, IsUint256 n)
    (himbalance : ∀ n ∈ c.initialReserveImbalance, IsUint256 n)
    (hfees : ∀ n ∈ c.burnedTxFeesAddressBalance, IsUint256 n)
    (htransfer : ∀ n ∈ c.burnedForTransferAddressBalance, IsUint256 n) :
    Reads nfc (fun v => record v >>= readComponents) (componentsValue c) c := by
  have hminted := reads_amount nfc hminted
  have himbalance := reads_amount nfc himbalance
  have hfees := reads_amount nfc hfees
  have htransfer := reads_amount nfc htransfer
  have hfresh := reads_bool nfc c.componentsFresh
  have hfingerprint := reads_bool nfc c.fingerprintRecognised
  refine reads_record ["totalMinted", "initialReserveImbalance", "burnedTxFeesAddressBalance",
      "burnedForTransferAddressBalance", "componentsFresh", "fingerprintRecognised"] rfl (by decide)
    ⟨hminted.form, himbalance.form, hfees.form, htransfer.form, hfresh.form, hfingerprint.form⟩ fun fields hfields => ?_
  show readComponents fields = _
  unfold readComponents boolean
  rw [hfields.read "totalMinted" hminted (by simp), hfields.read "initialReserveImbalance" himbalance (by simp),
    hfields.read "burnedTxFeesAddressBalance" hfees (by simp),
    hfields.read "burnedForTransferAddressBalance" htransfer (by simp),
    hfields.read "componentsFresh" hfresh (by simp), hfields.read "fingerprintRecognised" hfingerprint (by simp)]
  rfl

theorem reads_feeReporting (nfc : Nfc) {f : BurnedFeeReporting} (hopen : IsCount f.openReportEnvelopes) :
    Reads nfc (fun v => record v >>= readFeeReporting) (feeReportingValue f) f := by
  have hreward := reads_bool nfc f.reportedRewardAlreadyInTotalMinted
  have hduplicate := reads_bool nfc f.duplicateReportObserved
  have hopen := reads_nativeCount nfc hopen
  refine reads_record ["reportedRewardAlreadyInTotalMinted", "duplicateReportObserved", "openReportEnvelopes"] rfl
    (by decide) ⟨hreward.form, hduplicate.form, hopen.form⟩ fun fields hfields => ?_
  show readFeeReporting fields = _
  unfold readFeeReporting boolean
  rw [hfields.read "reportedRewardAlreadyInTotalMinted" hreward (by simp),
    hfields.read "duplicateReportObserved" hduplicate (by simp), hfields.read "openReportEnvelopes" hopen (by simp)]
  rfl

/-- The role holders of a census as they are written, and the census with them. -/
def readCensusOf (v : JsValue) : Except String (List String × MinterCensus) := do
  let m ← record v
  let holders ← array text (property m "unexpectedRoleHolders")
  (readCensus m holders).map fun census => (holders, census)

theorem map_pair_eq_ok {β : Type} {x : Except String β} {a a' : α} {b : β}
    (h : (x.map fun b => (a, b)) = .ok (a', b)) : a = a' ∧ x = .ok b := by
  cases x with
  | error e => cases h
  | ok c =>
    cases h
    exact ⟨rfl, rfl⟩

theorem reads_census {m : MinterCensus} (hholders : ∀ s ∈ m.unexpectedRoleHolders, nfc.Normal s)
    (hcovered : IsCount m.epochsCovered) (hexpected : IsCount m.epochsExpected) :
    Reads nfc readCensusOf (censusValue m) (m.unexpectedRoleHolders, m) := by
  have hroster := reads_bool nfc m.manifestRosterProvided
  have hgenesis := reads_bool nfc m.genesisChainConfigRead
  have hrules := reads_bool nfc m.activationRulesKnown
  have hhistory := reads_bool nfc m.roleHistoryCompleteFromActivation
  have hroles := reads_bool nfc m.allCandidateRolesRead
  have hnames : Reads nfc (array text) (.array .str m.unexpectedRoleHolders) m.unexpectedRoleHolders :=
    reads_array fun s hs => reads_text (hholders s hs)
  have hmint := reads_bool nfc m.unauthorisedMintObserved
  have hcovered := reads_nativeCount nfc hcovered
  have hexpected := reads_nativeCount nfc hexpected
  refine reads_record ["manifestRosterProvided", "genesisChainConfigRead", "activationRulesKnown",
      "roleHistoryCompleteFromActivation", "allCandidateRolesRead", "unexpectedRoleHolders", "unauthorisedMintObserved",
      "epochsCovered", "epochsExpected"] rfl (by decide)
    ⟨hroster.form, hgenesis.form, hrules.form, hhistory.form, hroles.form, hnames.form, hmint.form, hcovered.form,
      hexpected.form⟩ fun fields hfields => ?_
  rw [readCensusOf, record, entriesOf, ok_bind, hfields.read "unexpectedRoleHolders" hnames (by simp), ok_bind]
  unfold readCensus boolean
  rw [hfields.read "manifestRosterProvided" hroster (by simp), hfields.read "genesisChainConfigRead" hgenesis (by simp),
    hfields.read "activationRulesKnown" hrules (by simp),
    hfields.read "roleHistoryCompleteFromActivation" hhistory (by simp),
    hfields.read "allCandidateRolesRead" hroles (by simp), hfields.read "unauthorisedMintObserved" hmint (by simp),
    hfields.read "epochsCovered" hcovered (by simp), hfields.read "epochsExpected" hexpected (by simp)]
  rfl

/-- What is read from the form of a native input: the input, where its role holders are well written. -/
theorem reads_nativeInput {native : NativeInput} (h : NativeEncodable nfc native) :
    ∃ c, canon nfc (nativeInputValue native) = some c ∧
      readNativeInput c = if native.census.unexpectedRoleHolders.all isRoleHolder then .ok native
        else .error "invalid role holder" := by
  have hcomponents := reads_components nfc h.totalMinted h.initialReserveImbalance h.burnedTxFeesAddressBalance
    h.burnedForTransferAddressBalance
  have hcensus := reads_census h.unexpectedRoleHolders h.epochsCovered h.epochsExpected
  have hfees := reads_feeReporting nfc h.openReportEnvelopes
  have hcoverage := reads_amount nfc h.eligibleHomeCoverage
  have hsupply := reads_amount nfc h.trustworthySupplyLowerBound
  have hneeded := reads_amount nfc h.collateralNeeded
  have haccepted := reads_amount nfc h.acceptedCollateral
  have hreads : Reads nfc (fun v => .ok (readNativeInput v)) (nativeInputValue native)
      (if native.census.unexpectedRoleHolders.all isRoleHolder then .ok native else .error "invalid role holder") := by
    refine reads_record ["components", "census", "feeReporting", "eligibleHomeCoverage", "trustworthySupplyLowerBound",
        "collateralNeeded", "acceptedCollateral"] rfl (by decide)
      ⟨hcomponents.form, hcensus.form, hfees.form, hcoverage.form, hsupply.form, hneeded.form, haccepted.form⟩
      fun fields hfields => congrArg Except.ok ?_
    obtain ⟨c, hc, hreadsc⟩ := bind_eq_ok.1 (hfields.read "components" hcomponents (by simp))
    obtain ⟨m, hm, hreadsm⟩ := bind_eq_ok.1 (hfields.read "census" hcensus (by simp))
    obtain ⟨holders, hholders, hreadsm⟩ := bind_eq_ok.1 hreadsm
    obtain ⟨hsame, hreadsm⟩ := map_pair_eq_ok hreadsm
    obtain ⟨f, hf, hreadsf⟩ := bind_eq_ok.1 (hfields.read "feeReporting" hfees (by simp))
    -- the role holders are checked before the amounts are read
    subst hsame
    rw [readNativeInput, record, entriesOf, ok_bind, hc, ok_bind, hm, ok_bind, hf, ok_bind, roleHolders, hholders]
    show ((if native.census.unexpectedRoleHolders.all isRoleHolder then Except.ok native.census.unexpectedRoleHolders
      else Except.error "invalid role holder") >>= _) = _
    split
    · rw [ok_bind, hreadsc, hreadsm, hreadsf, hfields.read "eligibleHomeCoverage" hcoverage (by simp),
        hfields.read "trustworthySupplyLowerBound" hsupply (by simp),
        hfields.read "collateralNeeded" hneeded (by simp), hfields.read "acceptedCollateral" haccepted (by simp)]
      rfl
    · rfl
  obtain ⟨c, hc, hreads⟩ := hreads
  exact ⟨c, hc, Except.ok.inj hreads⟩

/-! ## Values of inputs have no holes -/

theorem dense_nullable {encode : α → JsValue} (h : ∀ a, Dense (encode a)) (o : Option α) : Dense (.nullable encode o) := by
  cases o with
  | none => exact .atom rfl
  | some a => exact h a

theorem dense_array {encode : α → JsValue} (h : ∀ a, Dense (encode a)) (l : List α) : Dense (.array encode l) := by
  refine .arr (fun hmem => ?_) fun v hv => ?_
  · obtain ⟨a, -, ha⟩ := List.mem_map.1 hmem
    cases ha
  · obtain ⟨a, -, ha⟩ := List.mem_map.1 hv
    exact Option.some_inj.1 ha ▸ h a

theorem dense_obj {entries : List (String × JsValue)} (h : entries.Forall fun e => Dense e.2) : Dense (.obj entries) :=
  .obj (List.forall_iff_forall_mem.1 h)

theorem dense_str (s : String) : Dense (.str s) := .atom rfl

theorem dense_bigint (n : Int) : Dense (.bigint n) := .atom rfl

theorem dense_integer (n : Int) : Dense (.integer n) := .atom rfl

theorem dense_bool (b : Bool) : Dense (.bool b) := .atom rfl

theorem dense_pinValue (p : PinnedBlock) : Dense (pinValue p) :=
  dense_obj ⟨dense_str _, dense_bigint _, dense_str _⟩

theorem dense_provenanceValue (p : ProvenanceInput) : Dense (provenanceValue p) :=
  dense_obj ⟨dense_nullable dense_str _, dense_nullable dense_str _, dense_nullable dense_str _,
    dense_nullable dense_str _, dense_nullable dense_integer _, dense_str _⟩

theorem dense_scaleValue (s : TokenScaleInput) : Dense (scaleValue s) :=
  dense_obj ⟨dense_bigint _, dense_bool _, dense_integer _, dense_integer _, dense_bool _⟩

theorem dense_remoteValue (r : RemoteObservation) : Dense (remoteValue r) :=
  dense_obj ⟨dense_str _, dense_str _, dense_nullable dense_bigint _, dense_nullable dense_bigint _, dense_scaleValue _,
    dense_nullable dense_pinValue _, dense_nullable dense_pinValue _, dense_bool _, dense_bool _, dense_bool _,
    dense_bigint _⟩

theorem dense_pendingValue (p : PendingEnvelope) : Dense (pendingValue p) :=
  dense_obj ⟨dense_str _, dense_str _, dense_bigint _, dense_integer _, dense_str _, dense_str _⟩

theorem dense_effectValue (e : CreditedEffect) : Dense (effectValue e) :=
  dense_obj ⟨dense_str _, dense_bigint _, dense_str _, dense_str _, dense_bool _, dense_bool _, dense_bool _,
    dense_nullable dense_str _⟩

theorem dense_proofInputValue (input : ProofInput) : Dense (proofInputValue input) :=
  dense_obj ⟨dense_str _, dense_str _, dense_provenanceValue _, dense_str _, dense_str _, dense_array dense_str _,
    dense_obj ⟨dense_bool _, dense_integer _, dense_integer _⟩, dense_array dense_remoteValue _,
    dense_array dense_pendingValue _, dense_array dense_effectValue _,
    dense_obj ⟨dense_nullable dense_bigint _, dense_nullable dense_pinValue _, dense_bigint _⟩, dense_integer _⟩

theorem dense_nativeInputValue (native : NativeInput) : Dense (nativeInputValue native) :=
  dense_obj ⟨dense_obj ⟨dense_nullable dense_bigint _, dense_nullable dense_bigint _, dense_nullable dense_bigint _,
      dense_nullable dense_bigint _, dense_bool _, dense_bool _⟩,
    dense_obj ⟨dense_bool _, dense_bool _, dense_bool _, dense_bool _, dense_bool _, dense_array dense_str _,
      dense_bool _, dense_integer _, dense_integer _⟩,
    dense_obj ⟨dense_bool _, dense_bool _, dense_integer _⟩, dense_nullable dense_bigint _,
    dense_nullable dense_bigint _, dense_nullable dense_bigint _, dense_nullable dense_bigint _⟩

theorem dense_nativeReplayValue (context : ProofInput) (native : NativeInput) : Dense (nativeReplayValue context native) :=
  dense_obj ⟨dense_str _, dense_proofInputValue _, dense_nativeInputValue _⟩

/-! ## Texts -/

theorem stringified_eq_ok {v : JsValue} {text : String} :
    stringified nfc v = .ok text ↔ canonicalStringify nfc v = .ok text := by
  unfold stringified
  cases canonicalStringify nfc v with
  | error e => exact ⟨fun h => (nomatch h), fun h => (nomatch h)⟩
  | ok t => exact ⟨fun h => by cases h; rfl, fun h => by cases h; rfl⟩

/-- An accepted value without holes is encoded as its form. -/
theorem reparsed_eq {v c : JsValue} (hdense : Dense v) (hc : canon nfc v = some c) : reparsed nfc v = .ok c := by
  have htext : canonicalStringify nfc v = .ok c.text := canonicalStringify_ok_iff.2 ⟨c, hc, rfl⟩
  obtain ⟨d, hd, hparse, -⟩ := jsonParse_of_dense hdense htext
  rw [hc, Option.some_inj] at hd
  subst hd
  rw [reparsed, stringified_eq_ok.2 htext]
  simp only [hparse]

/-- What passes the check is what was read, and its text is the text of the document. -/
theorem checked_eq_ok {message : String} {encode : α → JsValue} {value : JsValue} {input a : α} :
    checked nfc message encode value input = .ok a ↔ input = a ∧
      ∃ text, canonicalStringify nfc (encode input) = .ok text ∧ canonicalStringify nfc value = .ok text := by
  unfold checked
  rw [bind_eq_ok]
  simp only [bind_eq_ok, stringified_eq_ok]
  constructor
  · rintro ⟨own, hown, given, hgiven, h⟩
    split at h
    · cases h
    · rename_i hsame
      cases h
      exact ⟨rfl, own, hown, (not_not.1 hsame) ▸ hgiven⟩
  · rintro ⟨rfl, text, hown, hgiven⟩
    exact ⟨text, hown, text, hgiven, if_neg (not_not.2 rfl)⟩

/-- The form of a value is checked against the value. -/
theorem checked_form {message : String} {encode : α → JsValue} {c : JsValue} {a : α}
    (hc : canon nfc (encode a) = some c) : checked nfc message encode c a = .ok a :=
  checked_eq_ok.2 ⟨rfl, c.text, canonicalStringify_ok_iff.2 ⟨c, hc, rfl⟩,
    canonicalStringify_ok_iff.2 ⟨c, canon_of_canon hc, rfl⟩⟩

/-! ## Encoded inputs are read back -/

theorem decodeProofInput_form {input : ProofInput} (h : ProofEncodable nfc input) {c : JsValue}
    (hc : canon nfc (proofInputValue input) = some c) : decodeProofInput nfc c = .ok input := by
  obtain ⟨d, hd, hread⟩ := reads_proofInput h
  rw [hc, Option.some_inj] at hd
  subst hd
  rw [decodeProofInput, hread, ok_bind]
  exact checked_form hc

theorem decodeNativeInput_form {native : NativeInput} (h : NativeEncodable nfc native) {c : JsValue}
    (hc : canon nfc (nativeInputValue native) = some c) :
    decodeNativeInput nfc c = if native.census.unexpectedRoleHolders.all isRoleHolder then .ok native
      else .error "invalid role holder" := by
  obtain ⟨d, hd, hread⟩ := reads_nativeInput h
  rw [hc, Option.some_inj] at hd
  subst hd
  rw [decodeNativeInput, hread]
  split
  · rw [ok_bind]
    exact checked_form hc
  · rfl

theorem property_of_notMem {fields : List (String × JsValue)} {k : String} (h : k ∉ fields.map (·.1)) :
    property fields k = .undefined := by
  have hfind : fields.find? (fun e => e.1 = k) = none := by
    refine List.find?_eq_none.2 fun e he hkey => h ?_
    rw [← of_decide_eq_true hkey]
    exact List.mem_map_of_mem he
  rw [property, hfind]

theorem sortedKeys_eq_of_perm {fields : List (String × JsValue)} {keys : List String}
    (h : (fields.map (·.1)).Perm keys) : sortedKeys fields = ",".intercalate (sortStrings keys) :=
  congrArg (String.intercalate ",") (sortStrings_eq_of_perm h)

/-- The keys of a form are those of the record. -/
theorem mem_keys_of_canon {entries fields : List (String × JsValue)} (keys : List String)
    (hkeys : entries.map (·.1) = keys) (hplain : PlainKeys keys) (hc : canon nfc (.obj entries) = some (.obj fields))
    {k : String} (h : k ∈ fields.map (·.1)) : k ∈ keys := by
  subst hkeys
  obtain ⟨cs, hcs, -, hfields⟩ := canon_obj_eq_some.1 hc
  cases hfields
  obtain ⟨e, he, rfl⟩ := List.mem_map.1 h
  obtain ⟨e', he', hform⟩ := (mem_entries_form hcs e).1 (mem_sortOn.1 he)
  have hmem : e'.1 ∈ entries.map (·.1) := List.mem_map_of_mem he'
  rw [← (entryForm_eq_some.1 hform).2.2, nfc.ascii _ (hplain.2 _ hmem)]
  exact hmem

theorem decodeReplayInput_proof {input : ProofInput} (h : ProofEncodable nfc input) {c : JsValue}
    (hc : canon nfc (proofInputValue input) = some c) : decodeReplayInput nfc c = .ok (input, none) := by
  obtain ⟨cs, -, -, rfl⟩ := canon_obj_eq_some.1 hc
  have hengine : "engine" ∉ (sortOn entryKey cs).map (·.1) := by
    intro hmem
    have hkey := mem_keys_of_canon ["deploymentId", "family", "provenance", "census", "cut", "untrackedRemotes",
      "freshness", "remotes", "pending", "effects", "homeEscrow", "pendingAgeLimitSeconds"] rfl (by decide) hc hmem
    exact absurd hkey (by decide)
  rw [decodeReplayInput, record, entriesOf, ok_bind, property_of_notMem hengine]
  show (decodeProofInput nfc (.obj (sortOn entryKey cs)) >>= fun context => .ok (context, none)) = _
  rw [decodeProofInput_form h hc]
  rfl

/-- A native replay is read from its form, where the role holders are well written. -/
theorem decodeReplayInput_native {context : ProofInput} {native : NativeInput} (hcontext : ProofEncodable nfc context)
    (hnative : NativeEncodable nfc native) : ∃ c, canon nfc (nativeReplayValue context native) = some c ∧
      decodeReplayInput nfc c = if native.census.unexpectedRoleHolders.all isRoleHolder then .ok (context, some native)
        else .error "invalid role holder" := by
  obtain ⟨p, hp, -⟩ := reads_proofInput hcontext
  obtain ⟨n, hn, -⟩ := reads_nativeInput hnative
  have hengine : canon nfc (.str nativeEngine) = some (.str nativeEngine) := by
    rw [canon, nfc.ascii nativeEngine (by decide)]
  have hreads : Reads nfc (fun v => .ok (decodeReplayInput nfc v)) (nativeReplayValue context native)
      (if native.census.unexpectedRoleHolders.all isRoleHolder then .ok (context, some native)
        else .error "invalid role holder") := by
    refine reads_record ["engine", "context", "native"] rfl (by decide) ⟨⟨_, hengine⟩, ⟨p, hp⟩, ⟨n, hn⟩⟩
      fun fields hfields => congrArg Except.ok ?_
    have hsorted : sortedKeys fields = "context,engine,native" := by
      rw [sortedKeys_eq_of_perm hfields.keys]
      show ",".intercalate (sortStrings ["engine", "context", "native"]) = _
      decide +kernel
    rw [decodeReplayInput, record, entriesOf, ok_bind, hfields.property_eq (by simp) hengine]
    show (if nativeEngine ≠ nativeEngine || sortedKeys fields ≠ "context,engine,native" then
        Except.error "unsupported replay engine"
      else decodeProofInput nfc (property fields "context") >>= fun context =>
        decodeNativeInput nfc (property fields "native") >>= fun native => .ok (context, some native)) = _
    rw [hsorted, if_neg (by simp), hfields.property_eq (by simp) hp, hfields.property_eq (by simp) hn,
      decodeProofInput_form hcontext hp, ok_bind, decodeNativeInput_form hnative hn]
    split <;> rfl
  obtain ⟨c, hc, hreads⟩ := hreads
  exact ⟨c, hc, Except.ok.inj hreads⟩

/-- Every unexpected role holder of a native input is written as the decoder wants it. -/
def RoleHoldersValid (native : Option NativeInput) : Prop :=
  ∀ n ∈ native, ∀ s ∈ n.census.unexpectedRoleHolders, isRoleHolder s = true

/-- An input is encoded, and it is read back exactly when its role holders are well written. -/
theorem decode_encode {context : ProofInput} {native : Option NativeInput} (hcontext : ProofEncodable nfc context)
    (hnative : ∀ n ∈ native, NativeEncodable nfc n) : ∃ v, encodeReplayInput nfc context native = .ok v ∧
      (decodeReplayInput nfc v = .ok (context, native) ↔ RoleHoldersValid native) := by
  cases native with
  | none =>
    obtain ⟨c, hc, -⟩ := reads_proofInput hcontext
    refine ⟨c, reparsed_eq (dense_proofInputValue context) hc, iff_of_true (decodeReplayInput_proof hcontext hc) ?_⟩
    intro n hn
    cases hn
  | some n =>
    obtain ⟨c, hc, hdecode⟩ := decodeReplayInput_native hcontext (hnative n rfl)
    refine ⟨c, reparsed_eq (dense_nativeReplayValue context n) hc, ?_⟩
    have hholders : RoleHoldersValid (some n) ↔ n.census.unexpectedRoleHolders.all isRoleHolder = true := by
      rw [List.all_eq_true]
      exact ⟨fun h => h n rfl, fun h m hm => by cases hm; exact h⟩
    rw [hdecode, hholders]
    split
    · rename_i hall
      exact iff_of_true rfl hall
    · rename_i hall
      exact iff_of_false (fun h => by cases h) hall

/-! ## Accepted documents -/

/-- A document is accepted as a proof input, or as a native replay under just its three keys. -/
theorem decodeReplayInput_eq_ok {v : JsValue} {context : ProofInput} {native : Option NativeInput}
    (h : decodeReplayInput nfc v = .ok (context, native)) :
    (native = none ∧ decodeProofInput nfc v = .ok context) ∨
      ∃ entries n, v = .obj entries ∧ native = some n ∧ property entries "engine" = .str nativeEngine ∧
        sortedKeys entries = "context,engine,native" ∧ decodeProofInput nfc (property entries "context") = .ok context ∧
        decodeNativeInput nfc (property entries "native") = .ok n := by
  obtain ⟨entries, hentries, h⟩ := bind_eq_ok.1 h
  cases hengine : property entries "engine" with
  | undefined =>
    rw [hengine] at h
    obtain ⟨p, hp, h⟩ := bind_eq_ok.1 h
    cases h
    exact Or.inl ⟨rfl, hp⟩
  | str engine =>
    rw [hengine] at h
    change (if engine ≠ nativeEngine || sortedKeys entries ≠ "context,engine,native" then
        Except.error "unsupported replay engine"
      else decodeProofInput nfc (property entries "context") >>= fun context =>
        decodeNativeInput nfc (property entries "native") >>= fun native => .ok (context, some native)) = _ at h
    split at h
    · cases h
    · rename_i hkeys
      simp only [Bool.or_eq_true, decide_eq_true_eq, not_or, not_not] at hkeys
      obtain ⟨p, hp, h⟩ := bind_eq_ok.1 h
      obtain ⟨n, hn, h⟩ := bind_eq_ok.1 h
      cases h
      -- a class instance has no entries, and so no engine
      have hv : v = .obj entries := by
        cases v with
        | obj es => cases hentries; rfl
        | classInstance =>
          cases hentries
          cases hengine
        | _ => cases hentries
      exact Or.inr ⟨entries, n, hv, rfl, hkeys.1 ▸ hengine, hkeys.2, hp, hn⟩
  | _ =>
    rw [hengine] at h
    cases h

theorem mem_keys_of_property {entries : List (String × JsValue)} {k : String} (h : property entries k ≠ .undefined) :
    k ∈ entries.map (·.1) := by
  by_contra hmem
  exact h (property_of_notMem hmem)

/-- What is decoded is an object with some fields. -/
theorem decodeProofInput_defined {v : JsValue} {input : ProofInput} (h : decodeProofInput nfc v = .ok input) :
    ∃ entries s, object v = .ok entries ∧ property entries "deploymentId" = .str s := by
  obtain ⟨read, hread, -⟩ := bind_eq_ok.1 h
  obtain ⟨entries, hentries, hread⟩ := bind_eq_ok.1 hread
  obtain ⟨p, -, hread⟩ := bind_eq_ok.1 hread
  obtain ⟨f, -, hread⟩ := bind_eq_ok.1 hread
  obtain ⟨e, -, hread⟩ := bind_eq_ok.1 hread
  obtain ⟨s, hs, -⟩ := bind_eq_ok.1 hread
  refine ⟨entries, s, hentries, ?_⟩
  cases hproperty : property entries "deploymentId" <;> rw [hproperty] at hs <;> cases hs
  rfl

theorem decodeProofInput_texts {v : JsValue} {input : ProofInput} (h : decodeProofInput nfc v = .ok input) :
    ∃ text, canonicalStringify nfc (proofInputValue input) = .ok text ∧ canonicalStringify nfc v = .ok text := by
  obtain ⟨read, -, hchecked⟩ := bind_eq_ok.1 h
  obtain ⟨rfl, text, hown, hgiven⟩ := checked_eq_ok.1 hchecked
  exact ⟨text, hown, hgiven⟩

theorem decodeNativeInput_texts {v : JsValue} {native : NativeInput} (h : decodeNativeInput nfc v = .ok native) :
    ∃ text, canonicalStringify nfc (nativeInputValue native) = .ok text ∧ canonicalStringify nfc v = .ok text := by
  obtain ⟨read, -, hchecked⟩ := bind_eq_ok.1 h
  obtain ⟨rfl, text, hown, hgiven⟩ := checked_eq_ok.1 hchecked
  exact ⟨text, hown, hgiven⟩

theorem property_ne_undefined {v : JsValue} {text : String} (h : canonicalStringify nfc v = .ok text) :
    v ≠ .undefined := by
  rintro rfl
  cases h

theorem dense_property {entries : List (String × JsValue)} (h : Dense (.obj entries)) (k : String) :
    Dense (property entries k) := by
  unfold property
  cases hfind : entries.find? fun e => e.1 = k with
  | none => exact .atom rfl
  | some e =>
    cases h with
    | atom h => cases h
    | obj h => exact h e (List.mem_of_find?_eq_some hfind)

/-- Entries under keys of their own are what is found under their keys. -/
theorem map_property {entries : List (String × JsValue)} (h : (entries.map (·.1)).Nodup) :
    (entries.map (·.1)).map (fun k => (k, property entries k)) = entries := by
  rw [List.map_map]
  refine (List.map_congr_left fun e he => ?_).trans (List.map_id entries)
  rw [Function.comp_apply, property_of_mem h he]
  rfl

/-- Without holes, one text means one form. -/
theorem canon_eq_of_text {v w : JsValue} {text : String} (hv : canonicalStringify nfc v = .ok text)
    (hw : canonicalStringify nfc w = .ok text) (hdensev : Dense v) (hdensew : Dense w) (k : String) :
    entryForm nfc (k, v) = entryForm nfc (k, w) := by
  obtain ⟨hcanon, hundefined⟩ := ((text_eq_iff_of_dense hv hw hdensev hdensew).1 rfl).canon_eq
  unfold entryForm
  rw [hcanon, hundefined]

/-- An accepted native replay has the form of what it is decoded to. -/
theorem canon_of_native {entries : List (String × JsValue)} {context : ProofInput} {native : NativeInput}
    (hdense : Dense (.obj entries)) (hengine : property entries "engine" = .str nativeEngine)
    (hkeys : sortedKeys entries = "context,engine,native")
    (hcontext : decodeProofInput nfc (property entries "context") = .ok context)
    (hnative : decodeNativeInput nfc (property entries "native") = .ok native) :
    canon nfc (.obj entries) = canon nfc (nativeReplayValue context native) := by
  obtain ⟨p, hp, hp'⟩ := decodeProofInput_texts hcontext
  obtain ⟨n, hn, hn'⟩ := decodeNativeInput_texts hnative
  have hsub : ["engine", "context", "native"] ⊆ sortStrings (entries.map (·.1)) := by
    intro k hk
    rw [mem_sortStrings]
    refine mem_keys_of_property ?_
    simp only [List.mem_cons, List.not_mem_nil, or_false] at hk
    rcases hk with rfl | rfl | rfl
    · rw [hengine]
      exact nofun
    · exact property_ne_undefined hp'
    · exact property_ne_undefined hn'
  -- the joined text has no room for a further key
  have hperm : (entries.map (·.1)).Perm ["engine", "context", "native"] := by
    refine ((sortOn_perm _ _).symm).trans (perm_of_length_intercalate ',' (by decide) (by decide) hsub ?_)
    show (sortedKeys entries).length ≤ _
    rw [hkeys]
    decide +kernel
  have hentries := (hperm.map fun k => (k, property entries k))
  rw [map_property (hperm.nodup_iff.2 (by decide))] at hentries
  rw [canon_obj_of_perm hentries]
  refine canon_obj_of_forms ?_
  show [("engine", property entries "engine"), ("context", property entries "context"),
      ("native", property entries "native")].filterMap (entryForm nfc) =
    [("engine", JsValue.str nativeEngine), ("context", proofInputValue context),
      ("native", nativeInputValue native)].filterMap (entryForm nfc)
  rw [hengine, List.filterMap_cons, List.filterMap_cons, List.filterMap_cons, List.filterMap_cons, List.filterMap_cons,
    List.filterMap_cons, canon_eq_of_text hp' hp (dense_property hdense _) (dense_proofInputValue context),
    canon_eq_of_text hn' hn (dense_property hdense _) (dense_nativeInputValue native)]

/-- An accepted document has the text of what is encoded for what was read. -/
theorem encode_decode {v : JsValue} {context : ProofInput} {native : Option NativeInput} (hdense : Dense v)
    (h : decodeReplayInput nfc v = .ok (context, native)) :
    ∃ u text, encodeReplayInput nfc context native = .ok u ∧ canonicalStringify nfc u = .ok text ∧
      canonicalStringify nfc v = .ok text := by
  rcases decodeReplayInput_eq_ok h with ⟨rfl, hproof⟩ | ⟨entries, n, rfl, rfl, hengine, hkeys, hcontext, hnative⟩
  · obtain ⟨text, hown, hgiven⟩ := decodeProofInput_texts hproof
    obtain ⟨c, hc, rfl⟩ := canonicalStringify_ok_iff.1 hown
    exact ⟨c, c.text, reparsed_eq (dense_proofInputValue context) hc,
      canonicalStringify_ok_iff.2 ⟨c, canon_of_canon hc, rfl⟩, hgiven⟩
  · have hcanon := canon_of_native hdense hengine hkeys hcontext hnative
    obtain ⟨c, hc⟩ : HasForm nfc (nativeReplayValue context n) := by
      obtain ⟨text, hp, -⟩ := decodeProofInput_texts hcontext
      obtain ⟨text', hn, -⟩ := decodeNativeInput_texts hnative
      obtain ⟨c, hc, -⟩ := canonicalStringify_ok_iff.1 hp
      obtain ⟨c', hc', -⟩ := canonicalStringify_ok_iff.1 hn
      obtain ⟨fields, hfields⟩ := @exists_recordForm nfc [("engine", .str nativeEngine),
        ("context", proofInputValue context), ("native", nativeInputValue n)] ["engine", "context", "native"] rfl
        (by decide) ⟨⟨_, rfl⟩, ⟨c, hc⟩, ⟨c', hc'⟩⟩
      exact ⟨_, hfields.canon_eq⟩
    exact ⟨c, c.text, reparsed_eq (dense_nativeReplayValue context n) hc,
      canonicalStringify_ok_iff.2 ⟨c, canon_of_canon hc, rfl⟩, canonicalStringify_ok_iff.2 ⟨c, hcanon.trans hc, rfl⟩⟩

/-- No document is accepted both as a proof input and as a native replay. -/
theorem not_both {v : JsValue} {input context : ProofInput} {native : NativeInput}
    (hproof : decodeProofInput nfc v = .ok input) : decodeReplayInput nfc v ≠ .ok (context, some native) := by
  intro hreplay
  rcases decodeReplayInput_eq_ok hreplay with ⟨h, -⟩ | ⟨entries, n, rfl, -, -, hkeys, -, -⟩
  · cases h
  · obtain ⟨entries', s, hentries, hdeployment⟩ := decodeProofInput_defined hproof
    cases hentries
    have hmem : "deploymentId" ∈ entries.map (·.1) := by
      refine mem_keys_of_property ?_
      rw [hdeployment]
      exact nofun
    -- the joined keys would contain every character of the key
    have hchar : 'd' ∈ (sortedKeys entries).toList :=
      mem_toList_intercalate (mem_sortStrings.2 hmem) (by decide)
    rw [hkeys] at hchar
    exact absurd hchar (by decide)

/-- Encoded inputs are read back exactly where the role holders are well written, accepted documents have the text of
what is encoded for them, and none is accepted as both kinds. -/
theorem replayInput_codec (nfc : Nfc) :
    (∀ (context : ProofInput) (native : Option NativeInput), ProofEncodable nfc context →
      (∀ n ∈ native, NativeEncodable nfc n) → ∃ v, encodeReplayInput nfc context native = .ok v ∧
        (decodeReplayInput nfc v = .ok (context, native) ↔ RoleHoldersValid native)) ∧
      (∀ v, Dense v → ∀ (context : ProofInput) (native : Option NativeInput),
        decodeReplayInput nfc v = .ok (context, native) →
          ∃ u text, encodeReplayInput nfc context native = .ok u ∧ canonicalStringify nfc u = .ok text ∧
            canonicalStringify nfc v = .ok text) ∧
      (∀ (v : JsValue) (input context : ProofInput) (native : NativeInput), decodeProofInput nfc v = .ok input →
        decodeReplayInput nfc v ≠ .ok (context, some native)) := by
  refine ⟨?_, ?_, ?_⟩
  · intro context native hcontext hnative
    exact decode_encode hcontext hnative
  · intro v hdense context native h
    exact encode_decode hdense h
  · intro v input context native h
    exact not_both h

/-! ## Samples -/

def sampleContext : ProofInput where
  deploymentId := "deployment"
  family := "canonical-erc20-single-hop"
  provenance := ⟨some "manifest", none, none, none, some 1, "rule@1"⟩
  census := .completeFromDeploymentBlock
  untrackedRemotes := []
  cut := .closed
  freshness := ⟨true, 2, 2⟩
  remotes := []
  pending := []
  effects := []
  homeEscrow := ⟨some 5, none, 0⟩
  pendingAgeLimitSeconds := 60

def sampleReplay (holders : List String) : NativeInput where
  components := ⟨some 3, some 0, none, none, true, true⟩
  census := ⟨true, true, true, true, true, holders, false, 1, 1⟩
  feeReporting := ⟨false, false, 0⟩
  eligibleHomeCoverage := some 4
  trustworthySupplyLowerBound := none
  collateralNeeded := none
  acceptedCollateral := none

theorem isCount_one : IsCount 1 := ⟨by decide, by decide⟩

theorem isCount_zero : IsCount 0 := ⟨by decide, by decide⟩

theorem sampleContext_encodable : ProofEncodable sampleNfc sampleContext where
  deploymentId := rfl
  family := rfl
  provenance := ⟨fun _ _ => rfl, fun _ _ => rfl, fun _ _ => rfl, fun _ _ => rfl, fun n hn => by
    cases hn
    exact isCount_one, rfl⟩
  untrackedRemotes := fun _ _ => rfl
  independentWitnessGroups := ⟨by decide, by decide⟩
  requiredWitnessGroups := ⟨by decide, by decide⟩
  remotes := fun r hr => by cases hr
  pending := fun p hp => by cases hp
  effects := fun e he => by cases he
  escrowBalance := fun n hn => by
    cases hn
    exact ⟨by decide, by decide⟩
  homePin := fun p hp => by cases hp
  acceptedCollateralHomeUnits := ⟨by decide, by decide⟩
  pendingAgeLimitSeconds := ⟨by decide, by decide⟩

theorem sampleReplay_encodable (holders : List String) : NativeEncodable sampleNfc (sampleReplay holders) where
  totalMinted := fun n hn => by
    cases hn
    exact ⟨by decide, by decide⟩
  initialReserveImbalance := fun n hn => by
    cases hn
    exact ⟨by decide, by decide⟩
  burnedTxFeesAddressBalance := fun n hn => by cases hn
  burnedForTransferAddressBalance := fun n hn => by cases hn
  unexpectedRoleHolders := fun _ _ => rfl
  epochsCovered := isCount_one
  epochsExpected := isCount_one
  openReportEnvelopes := isCount_zero
  eligibleHomeCoverage := fun n hn => by
    cases hn
    exact ⟨by decide, by decide⟩
  trustworthySupplyLowerBound := fun n hn => by cases hn
  collateralNeeded := fun n hn => by cases hn
  acceptedCollateral := fun n hn => by cases hn

/-- A role holder in lower case is read back. -/
theorem replayInput_codec_lower : ∃ v,
    encodeReplayInput sampleNfc sampleContext (some (sampleReplay ["0x00000000000000000000000000000000000000ab"])) =
        .ok v ∧
      decodeReplayInput sampleNfc v =
        .ok (sampleContext, some (sampleReplay ["0x00000000000000000000000000000000000000ab"])) := by
  obtain ⟨v, hencode, hdecode⟩ := (replayInput_codec sampleNfc).1 sampleContext
    (some (sampleReplay ["0x00000000000000000000000000000000000000ab"])) sampleContext_encodable
    fun n hn => Option.some_inj.1 hn ▸ sampleReplay_encodable _
  refine ⟨v, hencode, hdecode.2 ?_⟩
  intro n hn s hs
  cases hn
  rw [List.mem_singleton.1 hs]
  decide

/-- The same address with upper case digits is encoded and not read back. -/
theorem mixedCase_holder_refused : ProofEncodable sampleNfc sampleContext ∧
    NativeEncodable sampleNfc (sampleReplay ["0x00000000000000000000000000000000000000AB"]) ∧
    ∃ v, encodeReplayInput sampleNfc sampleContext
        (some (sampleReplay ["0x00000000000000000000000000000000000000AB"])) = .ok v ∧
      decodeReplayInput sampleNfc v ≠
        .ok (sampleContext, some (sampleReplay ["0x00000000000000000000000000000000000000AB"])) := by
  refine ⟨sampleContext_encodable, sampleReplay_encodable _, ?_⟩
  obtain ⟨v, hencode, hdecode⟩ := decode_encode sampleContext_encodable
    fun n (hn : n ∈ some (sampleReplay ["0x00000000000000000000000000000000000000AB"])) =>
      Option.some_inj.1 hn ▸ sampleReplay_encodable _
  refine ⟨v, hencode, fun h => ?_⟩
  have hvalid := hdecode.1 h _ rfl "0x00000000000000000000000000000000000000AB" List.mem_cons_self
  exact absurd hvalid (by decide)

end IcttSentinel.Evidence
