/-
The canonical ABI encoding of the values that events.ts decodes, in hexadecimal: a word for a number, an
address or a hash, and `bytes` as its length word and its digits, padded to a whole word.
-/
import IcttSentinel.Adapters.Events
import IcttSentinel.Collector.Answers
import IcttSentinel.Lib.Slices

namespace IcttSentinel.Adapters

open IcttSentinel.Lib IcttSentinel.RpcQuorum IcttSentinel.Storage

/-! ## Numbers in hexadecimal -/

/-- The last `k` hexadecimal digits of a number. -/
def hexDigits : Nat → Nat → List Char
  | 0, _ => []
  | k + 1, n => hexDigits k (n / 16) ++ [Nat.digitChar (n % 16)]

@[simp] theorem length_hexDigits (k n : Nat) : (hexDigits k n).length = k := by
  induction k generalizing n with
  | zero => rfl
  | succ k ih => rw [hexDigits, List.length_append, ih, List.length_singleton]

theorem digitChar_hex : ∀ n : Fin 16, isLowerHex (Nat.digitChar n) = true ∧ hexDigitValue (Nat.digitChar n) = n := by
  decide

/-- A digit is that of its value. -/
theorem eq_digitChar {c : Char} (h : isLowerHex c = true) : ∃ n : Fin 16, c = Nat.digitChar n := by
  have hcode : c = Char.ofNat c.toNat := (Char.ofNat_toNat c).symm
  have hrange : (48 ≤ c.toNat ∧ c.toNat ≤ 57) ∨ (97 ≤ c.toNat ∧ c.toNat ≤ 102) := by
    unfold isLowerHex at h
    rcases Bool.or_eq_true _ _ ▸ h with h | h
    · exact Or.inl (Char.isDigit_iff_toNat.1 h)
    · rw [Bool.and_eq_true, decide_eq_true_iff, decide_eq_true_iff] at h
      exact Or.inr h
  generalize c.toNat = code at hcode hrange
  rcases hrange with ⟨hlow, hhigh⟩ | ⟨hlow, hhigh⟩
  · refine ⟨⟨code - 48, by omega⟩, hcode.trans ?_⟩
    interval_cases code <;> rfl
  · refine ⟨⟨code - 87, by omega⟩, hcode.trans ?_⟩
    interval_cases code <;> rfl

theorem lower_hexDigits (k n : Nat) : ∀ c ∈ hexDigits k n, isLowerHex c = true := by
  induction k generalizing n with
  | zero => exact fun _ h => absurd h List.not_mem_nil
  | succ k ih =>
    intro c hc
    rcases List.mem_append.1 hc with hc | hc
    · exact ih _ c hc
    · rw [List.mem_singleton.1 hc]
      exact (digitChar_hex ⟨n % 16, Nat.mod_lt n (by decide)⟩).1

@[simp] theorem uint_nil : uint [] = 0 := rfl

theorem uint_append_singleton (w : List Char) (c : Char) : uint (w ++ [c]) = 16 * uint w + hexDigitValue c := by
  unfold uint
  rw [List.foldl_append]
  rfl

theorem uint_hexDigits {k n : Nat} (h : n < 16 ^ k) : uint (hexDigits k n) = n := by
  induction k generalizing n with
  | zero =>
    have hzero : n = 0 := by omega
    rw [hzero]
    rfl
  | succ k ih =>
    have hhigh : n / 16 < 16 ^ k := by
      rw [pow_succ] at h
      omega
    have hlow : hexDigitValue (Nat.digitChar (n % 16)) = (n % 16 : Nat) :=
      (digitChar_hex ⟨n % 16, Nat.mod_lt n (by decide)⟩).2
    rw [hexDigits, uint_append_singleton, ih hhigh, hlow]
    omega

/-- The digits of a number in hexadecimal are found again in it. -/
theorem exists_uint {w : List Char} (h : ∀ c ∈ w, isLowerHex c = true) :
    ∃ n : Nat, uint w = n ∧ n < 16 ^ w.length ∧ hexDigits w.length n = w := by
  induction w using List.reverseRecOn with
  | nil => exact ⟨0, rfl, by decide, rfl⟩
  | append_singleton w c ih =>
    obtain ⟨n, hn, hbound, hdigits⟩ := ih fun d hd => h d (List.mem_append_left _ hd)
    obtain ⟨d, rfl⟩ := eq_digitChar (h c (List.mem_append_right _ (List.mem_singleton_self c)))
    have hd := d.isLt
    refine ⟨16 * n + d, ?_, ?_, ?_⟩
    · rw [uint_append_singleton, hn, (digitChar_hex d).2]
      omega
    · rw [List.length_append, List.length_singleton, pow_succ]
      omega
    · have hhigh : (16 * n + d) / 16 = n := by omega
      have hlow : (16 * n + d) % 16 = d := by omega
      rw [List.length_append, List.length_singleton, hexDigits, hhigh, hlow, hdigits]

theorem uint_of_toNat {w : List Char} {n : Nat} (hlower : ∀ c ∈ w, isLowerHex c = true) (h : (uint w).toNat = n) :
    uint w = n := by
  obtain ⟨k, hk, -, -⟩ := exists_uint hlower
  rw [hk, Int.toNat_natCast] at h
  rw [hk, h]

/-- The word of a number. -/
def uintWord (n : Nat) : List Char := hexDigits 64 n

@[simp] theorem length_uintWord (n : Nat) : (uintWord n).length = 64 := length_hexDigits 64 n

theorem lower_uintWord (n : Nat) : ∀ c ∈ uintWord n, isLowerHex c = true := lower_hexDigits 64 n

theorem uint_uintWord {n : Nat} (h : n < 2 ^ 256) : uint (uintWord n) = n :=
  uint_hexDigits (lt_of_lt_of_eq h (by norm_num))

/-- A word is that of the number it reads as. -/
theorem eq_uintWord {w : List Char} (hlower : ∀ c ∈ w, isLowerHex c = true) (hlength : w.length = 64) :
    ∃ n : Nat, uint w = n ∧ n < 2 ^ 256 ∧ w = uintWord n := by
  obtain ⟨n, hn, hbound, hdigits⟩ := exists_uint hlower
  rw [hlength] at hbound hdigits
  exact ⟨n, hn, lt_of_lt_of_eq hbound (by norm_num), hdigits.symm⟩

/-- A word that reads as a number is the word of the number. -/
theorem word_eq {w : List Char} {n : Nat} (hlower : ∀ c ∈ w, isLowerHex c = true) (hlength : w.length = 64)
    (h : uint w = n) : w = uintWord n := by
  obtain ⟨k, hk, -, hword⟩ := eq_uintWord hlower hlength
  rw [hword, Int.natCast_inj.1 (hk.symm.trans h)]

/-! ## Values -/

/-- A number of 256 bits. -/
abbrev AbiUint := { n : Nat // n < 2 ^ 256 }

/-- A word of 32 bytes. -/
structure AbiWord where
  digits : List Char
  length : digits.length = 64
  lower : ∀ c ∈ digits, isLowerHex c = true

def AbiWord.text (w : AbiWord) : String := "0x" ++ String.ofList w.digits

/-- An address of 20 bytes. -/
structure AbiAddress where
  digits : List Char
  length : digits.length = 40
  lower : ∀ c ∈ digits, isLowerHex c = true

def AbiAddress.text (a : AbiAddress) : String := "0x" ++ String.ofList a.digits

/-- An address in a word, with zeros in front. -/
def AbiAddress.word (a : AbiAddress) : List Char := List.replicate 24 '0' ++ a.digits

@[simp] theorem AbiAddress.length_word (a : AbiAddress) : a.word.length = 64 := by
  rw [AbiAddress.word, List.length_append, List.length_replicate, a.length]

/-- A string of bytes that a length word can count. -/
structure AbiBytes where
  digits : List Char
  even : digits.length % 2 = 0
  bound : digits.length / 2 < 2 ^ 256
  lower : ∀ c ∈ digits, isLowerHex c = true

namespace AbiBytes

theorem ext_digits {b c : AbiBytes} (h : b.digits = c.digits) : b = c := by
  cases b
  cases c
  cases h
  rfl

/-- How many bytes there are. -/
def size (b : AbiBytes) : Nat := b.digits.length / 2

/-- How many there are with the padding to a whole word. -/
def padded (b : AbiBytes) : Nat := (b.size + 31) / 32 * 32

theorem length_digits (b : AbiBytes) : b.digits.length = 2 * b.size := by
  have heven := b.even
  unfold size
  omega

theorem size_le_padded (b : AbiBytes) : b.size ≤ b.padded := by
  unfold padded
  omega

/-- The length word, the bytes, and zeros up to a whole word. -/
def encode (b : AbiBytes) : List Char :=
  uintWord b.size ++ (b.digits ++ List.replicate (2 * (b.padded - b.size)) '0')

@[simp] theorem length_encode (b : AbiBytes) : b.encode.length = 2 * (32 + b.padded) := by
  have hpadded := b.size_le_padded
  rw [encode, List.length_append, List.length_append, length_uintWord, b.length_digits, List.length_replicate]
  omega

theorem lower_encode (b : AbiBytes) : ∀ c ∈ b.encode, isLowerHex c = true := by
  intro c hc
  rcases List.mem_append.1 hc with hc | hc
  · exact lower_uintWord _ c hc
  · rcases List.mem_append.1 hc with hc | hc
    · exact b.lower c hc
    · rw [List.eq_of_mem_replicate hc]
      rfl

end AbiBytes

theorem AbiAddress.lower_word (a : AbiAddress) : ∀ c ∈ a.word, isLowerHex c = true := by
  intro c hc
  rcases List.mem_append.1 hc with hc | hc
  · rw [List.eq_of_mem_replicate hc]
    rfl
  · exact a.lower c hc

/-! ## Readers -/

@[simp] theorem abiUnless_eq_ok {holds : Bool} {message : String} {u : Unit} :
    abiUnless holds message = .ok u ↔ holds = true := by
  unfold abiUnless
  cases holds with
  | false => exact ⟨fun h => (nomatch h), fun h => (nomatch h)⟩
  | true => exact ⟨fun _ => rfl, fun _ => rfl⟩

theorem pure_eq_ok {ε α : Type} {a b : α} : (pure a : Except ε α) = .ok b ↔ a = b :=
  ⟨fun h => Except.ok.inj h, fun h => congrArg Except.ok h⟩

theorem toList_prefixed (hex : List Char) : ("0x" ++ String.ofList hex).toList = '0' :: 'x' :: hex := by
  have hstart : "0x".toList = ['0', 'x'] := rfl
  rw [String.toList_append, hstart, String.toList_ofList]
  rfl

/-- The data is a string of bytes, with these digits in lowercase hexadecimal. -/
structure Spells (data : String) (hex : List Char) : Prop where
  text : data = "0x" ++ String.ofList hex
  even : hex.length % 2 = 0
  lower : ∀ c ∈ hex, isLowerHex c = true

theorem Spells.unique {data : String} {hex hex' : List Char} (h : Spells data hex) (h' : Spells data hex') :
    hex = hex' := by
  have htext := congrArg String.toList (h.text.symm.trans h'.text)
  rw [toList_prefixed, toList_prefixed] at htext
  exact (List.cons.inj (List.cons.inj htext).2).2

theorem body_eq_ok {data : String} {hex : List Char} : body data = .ok hex ↔ Spells data hex := by
  unfold body
  simp only [bind_eq_ok, abiUnless_eq_ok, exists_const, pure_eq_ok]
  unfold isHexData
  simp only [Bool.and_eq_true, decide_eq_true_eq, List.all_eq_true, List.isPrefixOf_iff_prefix]
  constructor
  · rintro ⟨⟨⟨⟨rest, hrest⟩, heven⟩, hlower⟩, rfl⟩
    refine ⟨?_, heven, hlower⟩
    apply String.toList_injective
    rw [toList_prefixed, ← hrest]
    rfl
  · rintro ⟨rfl, heven, hlower⟩
    rw [toList_prefixed]
    exact ⟨⟨⟨⟨hex, rfl⟩, heven⟩, hlower⟩, rfl⟩

theorem wordAt_eq_ok {hex w : List Char} {index : Nat} :
    wordAt hex index = .ok w ↔ slice hex (64 * index) 64 = w ∧ w.length = 64 := by
  unfold wordAt
  simp only [bind_eq_ok, abiUnless_eq_ok, exists_const, pure_eq_ok]
  rw [decide_eq_true_iff, Nat.mul_comm index 64]
  constructor
  · rintro ⟨hlength, rfl⟩
    exact ⟨rfl, hlength⟩
  · rintro ⟨rfl, hlength⟩
    exact ⟨hlength, rfl⟩

theorem position_eq_ok {w : List Char} {limit n : Nat} {aligned : Bool} :
    position w limit aligned = .ok n ↔ uint w ≤ limit ∧ (uint w).toNat = n ∧ (aligned = true → n % 32 = 0) := by
  unfold position
  simp only [bind_eq_ok, abiUnless_eq_ok, exists_const, pure_eq_ok]
  rw [decide_eq_true_iff]
  constructor
  · rintro ⟨hlimit, haligned, rfl⟩
    refine ⟨hlimit, rfl, ?_⟩
    rintro rfl
    exact of_decide_eq_true haligned
  · rintro ⟨hlimit, rfl, haligned⟩
    refine ⟨hlimit, ?_, rfl⟩
    cases aligned with
    | false => rfl
    | true => exact decide_eq_true (haligned rfl)

/-- An address word is one with its zeros in front. -/
theorem address_eq_ok {w : List Char} {text : String} (hlower : ∀ c ∈ w, isLowerHex c = true) (hlength : w.length = 64) :
    address w = .ok text ↔ ∃ a : AbiAddress, w = a.word ∧ text = a.text := by
  unfold address
  simp only [bind_eq_ok, abiUnless_eq_ok, exists_const, pure_eq_ok]
  rw [decide_eq_true_iff]
  constructor
  · rintro ⟨hzeros, rfl⟩
    refine ⟨⟨w.drop 24, ?_, fun c hc => hlower c (List.mem_of_mem_drop hc)⟩, ?_, rfl⟩
    · rw [List.length_drop, hlength]
    · rw [AbiAddress.word, ← hzeros, List.take_append_drop]
  · rintro ⟨a, rfl, rfl⟩
    have hzeros : (List.replicate 24 '0').length = 24 := List.length_replicate
    rw [AbiAddress.word, List.take_left' hzeros, List.drop_left' hzeros]
    exact ⟨rfl, rfl⟩

/-- A stretch that is an encoding lies within the data. -/
theorem AbiBytes.within {hex : List Char} {start : Nat} {b : AbiBytes}
    (h : slice hex start (2 * (32 + b.padded)) = b.encode) : start + 2 * (32 + b.padded) ≤ hex.length :=
  slice_within (h ▸ b.length_encode) (by omega)

/-- An encoding is read in three stretches: the length word, the digits, the padding. -/
theorem AbiBytes.slice_encode_iff {hex : List Char} {start : Nat} {b : AbiBytes} :
    slice hex start (2 * (32 + b.padded)) = b.encode ↔
      slice hex start 64 = uintWord b.size ∧ slice hex (start + 64) (2 * b.size) = b.digits ∧
        slice hex (start + 64 + 2 * b.size) (2 * (b.padded - b.size)) = List.replicate (2 * (b.padded - b.size)) '0' := by
  have hpadded := b.size_le_padded
  have hsplit : 2 * (32 + b.padded) = 64 + (2 * b.size + 2 * (b.padded - b.size)) := by omega
  have hslices : slice hex start (2 * (32 + b.padded)) = slice hex start 64 ++
      (slice hex (start + 64) (2 * b.size) ++ slice hex (start + 64 + 2 * b.size) (2 * (b.padded - b.size))) := by
    rw [hsplit, slice_add, slice_add]
  constructor
  · intro h
    have hwithin := AbiBytes.within h
    rw [hslices, encode] at h
    have hword : (slice hex start 64).length = (uintWord b.size).length := by
      rw [length_uintWord, length_slice_of_le (by omega)]
    obtain ⟨hlength, hrest⟩ := List.append_inj h hword
    have hdigits : (slice hex (start + 64) (2 * b.size)).length = b.digits.length := by
      rw [b.length_digits, length_slice_of_le (by omega)]
    exact ⟨hlength, List.append_inj hrest hdigits⟩
  · rintro ⟨hlength, hdigits, hzeros⟩
    rw [hslices, hlength, hdigits, hzeros, encode]

/-- Two encodings in one place are of one size. -/
theorem AbiBytes.size_unique {hex : List Char} {start : Nat} {b c : AbiBytes}
    (hb : slice hex start (2 * (32 + b.padded)) = b.encode) (hc : slice hex start (2 * (32 + c.padded)) = c.encode) :
    b.size = c.size := by
  have hword := (AbiBytes.slice_encode_iff.1 hb).1.symm.trans (AbiBytes.slice_encode_iff.1 hc).1
  have hb' : uint (uintWord b.size) = b.size := uint_uintWord b.bound
  have hc' : uint (uintWord c.size) = c.size := uint_uintWord c.bound
  rw [hword, hc'] at hb'
  exact Int.natCast_inj.1 hb'.symm

/-- The length word at `start` leads to a value whose canonical encoding stands there. -/
theorem dynamicBytes_eq_ok {hex digits : List Char} {start : Nat} (hlower : ∀ c ∈ hex, isLowerHex c = true) :
    dynamicBytes hex start = .ok digits ↔
      start % 32 = 0 ∧ ∃ b : AbiBytes, b.digits = digits ∧ slice hex (2 * start) (2 * (32 + b.padded)) = b.encode := by
  unfold dynamicBytes
  simp only [bind_eq_ok, abiUnless_eq_ok, exists_const, pure_eq_ok, wordAt_eq_ok, position_eq_ok, decide_eq_true_eq,
    Bool.and_eq_true, List.all_eq_true]
  constructor
  · rintro ⟨haligned, w, ⟨hw, hlength⟩, n, ⟨-, hn, -⟩, hstop, ⟨hpadded, hzeros⟩, rfl⟩
    have hstart : 64 * (start / 32) = 2 * start := by omega
    have hfirst : (start / 32 + 1) * 64 = 2 * start + 64 := by omega
    rw [hstart] at hw
    rw [hfirst] at hstop hpadded hzeros ⊢
    have hwlower : ∀ c ∈ w, isLowerHex c = true := by
      intro c hc
      rw [← hw] at hc
      exact hlower c (mem_of_mem_slice hc)
    obtain ⟨k, hk, hbound, hword⟩ := eq_uintWord hwlower hlength
    rw [hk, Int.toNat_natCast] at hn
    rw [hn] at hbound hword
    have hdigits : (slice hex (2 * start + 64) (2 * n)).length = 2 * n := length_slice_of_le (by omega)
    -- the digits the decoder cuts out are those behind the length word
    have hvalue : (hex.take (2 * start + 64 + n * 2)).drop (2 * start + 64) = slice hex (2 * start + 64) (2 * n) := by
      rw [drop_take_slice, Nat.add_sub_cancel_left, Nat.mul_comm n 2]
    -- the three checks of the decoder are the three fields of a padded byte string
    let b : AbiBytes := {
      digits := slice hex (2 * start + 64) (2 * n)
      even := by rw [hdigits, Nat.mul_mod_right]
      bound := by rwa [hdigits, Nat.mul_div_cancel_left n (by decide)]
      lower := fun c hc => hlower c (mem_of_mem_slice hc) }
    have hsize : b.size = n := by
      show (slice hex (2 * start + 64) (2 * n)).length / 2 = n
      rw [hdigits, Nat.mul_div_cancel_left n (by decide)]
    refine ⟨haligned, b, hvalue.symm, AbiBytes.slice_encode_iff.2 ⟨?_, ?_, ?_⟩⟩
    · rw [hw, hword, hsize]
    · rw [hsize]
    · have hpad : b.padded = (n + 31) / 32 * 32 := by rw [AbiBytes.padded, hsize]
      have hrest : 2 * start + 64 + (n + 31) / 32 * 64 - (2 * start + 64 + n * 2) = 2 * ((n + 31) / 32 * 32 - n) := by
        omega
      rw [drop_take_slice, hrest, Nat.mul_comm n 2] at hzeros
      rw [hsize, hpad]
      exact List.eq_replicate_iff.2 ⟨length_slice_of_le (by omega), hzeros⟩
  · rintro ⟨haligned, b, rfl, hregion⟩
    have hwithin := AbiBytes.within hregion
    obtain ⟨hlength, hdigits, hzeros⟩ := AbiBytes.slice_encode_iff.1 hregion
    have hstart : 64 * (start / 32) = 2 * start := by omega
    have hfirst : (start / 32 + 1) * 64 = 2 * start + 64 := by omega
    have hpadded : (b.size + 31) / 32 * 64 = 2 * b.padded := by
      rw [AbiBytes.padded]
      omega
    have hsize := b.size_le_padded
    have hread : uint (uintWord b.size) = b.size := uint_uintWord b.bound
    rw [hfirst]
    refine ⟨haligned, uintWord b.size, ⟨by rw [hstart, hlength], length_uintWord _⟩, b.size, ⟨?_, ?_, nofun⟩, ?_,
      ⟨?_, ?_⟩, ?_⟩
    · rw [hread]
      omega
    · rw [hread, Int.toNat_natCast]
    · omega
    · omega
    · have hrest : 2 * start + 64 + (b.size + 31) / 32 * 64 - (2 * start + 64 + b.size * 2) =
          2 * (b.padded - b.size) := by
        omega
      intro c hc
      rw [drop_take_slice, hrest, Nat.mul_comm b.size 2, hzeros] at hc
      exact List.eq_of_mem_replicate hc
    · rw [drop_take_slice, Nat.add_sub_cancel_left, Nat.mul_comm b.size 2]
      exact hdigits

end IcttSentinel.Adapters
