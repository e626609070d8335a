/-
What the collector measures. Every amount of an assembled input was read from a word of a contract's answer, so the rules
never refuse one for its range; and a scale is established only where the home holds the multiplier that the decimals of
the manifest give.
-/
import IcttSentinel.Adapters.Decoders
import IcttSentinel.Collector.Assembly

namespace IcttSentinel.Collector

open IcttSentinel.Adapters IcttSentinel.Config IcttSentinel.Evidence IcttSentinel.InvariantCore IcttSentinel.Lib

theorem uint256_value (w : AbiWord) : Uint256 w.value := by
  obtain ⟨hlow, hhigh⟩ := w.value_bounds
  exact ⟨hlow, Int.le_sub_one_of_lt hhigh⟩

theorem decodeUintResult_uint256 {result : String} {n : Int} (h : decodeUintResult result = .ok n) : Uint256 n := by
  obtain ⟨words, -, rfl⟩ := decodeUintResult_eq_ok.1 h
  exact uint256_value _

theorem decodeRemoteSettingsResult_uint256 {result : String} {v : RemoteSettingsResult}
    (h : decodeRemoteSettingsResult result = .ok v) : Uint256 v.tokenMultiplier := by
  obtain ⟨words, -, -, -, -, hmultiplier⟩ := decodeRemoteSettingsResult_eq_ok.1 h
  rw [hmultiplier]
  exact uint256_value _

/-- The amounts of an observed remote are of 256 bits, and its scale is established only as derived from the decimals. -/
structure Measured (homeDecimals : Nat) (r : RemoteObservation) : Prop where
  balance : ∃ n, r.transferredBalance = some n ∧ Uint256 n
  supply : ∃ n, r.remoteTotalSupply = some n ∧ Uint256 n
  multiplier : Uint256 r.scale.tokenMultiplier
  imbalance : Uint256 r.initialReserveImbalance
  derived : r.scale.established = true →
    deriveTokenMultiplierValues homeDecimals r.scale.remoteDecimals =
      .ok ⟨r.scale.tokenMultiplier, r.scale.multiplyOnRemote⟩

section Measured

variable {host : CollectorHost} {args : AssembleArgs} {a : Assembled}

theorem assembleRoute_measured {facts : HomeFacts} {entry : (ApprovedRemote × AgreedSide) × Nat} {p : RouteParts}
    (h : assembleRoute host args facts entry = .ok p) : Measured args.manifest.homeDecimals p.observation := by
  unfold assembleRoute at h
  dsimp only at h
  simp only [bind_eq_ok, Prod.exists] at h
  obtain ⟨_, -, _, -, home, remote, -, _, -, settings, hsettings, _, -, _, -, _, -, _, -, balance, hbalance, _, -,
    supply, hsupply, _, -, imbalance, himbalance, h⟩ := h
  cases h
  refine ⟨⟨balance, rfl, decodeUintResult_uint256 hbalance⟩, ⟨supply, rfl, decodeUintResult_uint256 hsupply⟩,
    decodeRemoteSettingsResult_uint256 hsettings, decodeUintResult_uint256 himbalance, fun hestablished => ?_⟩
  dsimp only at hestablished ⊢
  simp only [Bool.and_eq_true] at hestablished
  obtain ⟨⟨-, halike⟩, -⟩ := hestablished
  cases hderived : deriveTokenMultiplierValues args.manifest.homeDecimals entry.1.1.expectedDecimals with
  | error failure =>
    rw [hderived] at halike
    cases halike
  | ok v =>
    rw [hderived] at halike
    dsimp only at halike
    rw [Bool.and_eq_true, decide_eq_true_eq, decide_eq_true_eq] at halike
    rw [← halike.1, ← halike.2]

theorem assembleInput_measured (h : assembleInput host args = .ok a) :
    ∀ r ∈ a.input.remotes, Measured args.manifest.homeDecimals r := by
  obtain ⟨facts, -, h⟩ := bind_eq_ok.1 h
  obtain ⟨routes, hroutes, h⟩ := bind_eq_ok.1 h
  cases h
  intro r hr
  obtain ⟨p, hp, rfl⟩ := List.mem_map.1 hr
  obtain ⟨entry, -, hassembled⟩ := mem_mapM_ok hroutes hp
  exact assembleRoute_measured hassembled

/-- The rules never refuse an assembled input for its range. -/
theorem assembleInput_inRange (h : assembleInput host args = .ok a) : AmountsInRange a.input := by
  intro r hr
  have hmeasured := assembleInput_measured h r hr
  obtain ⟨balance, hbalance, hbalanceRange⟩ := hmeasured.balance
  obtain ⟨supply, hsupply, hsupplyRange⟩ := hmeasured.supply
  rw [hbalance, hsupply]
  exact ⟨hbalanceRange, hsupplyRange, hmeasured.multiplier⟩

/-- Over an established scale, home units that go to the remote and back lose less than one remote unit. -/
theorem assembleInput_roundTrip (h : assembleInput host args = .ok a) {r : RemoteObservation} (hr : r ∈ a.input.remotes)
    (hestablished : r.scale.established = true) {sent received : Int} (hbound : sent ≤ Adapters.maxUint256)
    (hsent : applyTokenScale r.scale.tokenMultiplier r.scale.multiplyOnRemote sent = .ok received) :
    ∃ back, removeTokenScale r.scale.tokenMultiplier r.scale.multiplyOnRemote received = .ok back ∧ back ≤ sent ∧
      sent - back < r.scale.tokenMultiplier := by
  have hderived := (assembleInput_measured h r hr).derived hestablished
  obtain ⟨back, hback, hle, hloss, -⟩ := applyTokenScale_removeTokenScale hderived hbound hsent
  exact ⟨back, hback, hle, hloss⟩

end Measured

end IcttSentinel.Collector
