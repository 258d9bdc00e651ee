import ChainProxy.Model.Codec

/-!
# `encoding/hex`, as the proxy uses it

`hex.DecodeString` checks the signature of every transaction and decodes the
arguments of every vm-values call; `hex.EncodeToString` writes the hex vm-value
reply. The decoder takes exactly an even number of hex digits, of either case
(`hexDecode_isOk_iff`). Anything else it reports at the first byte that is not a
digit (`hexDecode_of_find`), or, when every byte is one, as the odd length
(`hexDecode_of_odd`). It reads back what the encoder writes
(`hexDecode_hexEncodeToString`).
-/

set_option autoImplicit false

namespace ChainProxy.Analysis

/-- A byte `hex.Decode` takes as a digit. -/
def isHexDigit (b : UInt8) : Bool := (fromHexChar b).isSome

/-! ## What the decoder accepts -/

/-- INTERNAL: decoding the rest of the input does not change whether it fails. -/
theorem isOk_map {ε α β : Type} (f : α → β) (x : Except ε α) : (x.map f).isOk = x.isOk := by
  cases x <;> rfl

/-- `hex.DecodeString` succeeds exactly on an even number of hex digits, the empty
input included. -/
theorem hexDecode_isOk_iff (s : List UInt8) :
    (hexDecode s).isOk ↔ (∀ b ∈ s, isHexDigit b) ∧ s.length % 2 = 0 := by
  induction s using hexDecode.induct with
  | case6 p q rest a b hq hp ih =>
    simp only [hexDecode, hp, hq, isOk_map, ih]
    simp [isHexDigit, hp, hq]
    omega
  | _ => simp_all [hexDecode, isHexDigit, Except.isOk, Except.toBool]

/-- The decoder reports the first byte that is not a hex digit, wherever the
input's length leaves it. -/
theorem hexDecode_of_find {s : List UInt8} {b : UInt8}
    (h : s.find? (fun x => !isHexDigit x) = some b) : hexDecode s = .error (.invalidByteError b) := by
  induction s using hexDecode.induct with
  | case6 p q rest a b' hq hp ih =>
    simp only [List.find?_cons, isHexDigit, hp, hq, Option.isSome_some, Bool.not_true] at h
    simp [hexDecode, hp, hq, ih h, Except.map]
  | _ => simp_all [hexDecode, isHexDigit]

/-- Hex digits only, but an odd number of them: the decoder reports the length. -/
theorem hexDecode_of_odd {s : List UInt8} (hall : ∀ b ∈ s, isHexDigit b)
    (hodd : s.length % 2 = 1) : hexDecode s = .error .errLength := by
  induction s using hexDecode.induct with
  | case6 p q rest a b hq hp ih =>
    simp only [List.mem_cons, forall_eq_or_imp, List.length_cons] at hall hodd
    simp [hexDecode, hp, hq, ih hall.2.2 (by omega), Except.map]
  | _ => simp_all [hexDecode, isHexDigit]

/-! ## What the encoder writes -/

/-- INTERNAL: every entry of the hex table is read back as its index. -/
theorem fromHexChar_hextable : ∀ n : Nat, n < 16 →
    fromHexChar (hextable.getD n 0) = some n.toUInt8 := by
  decide

/-- INTERNAL: a byte is the byte of its value. -/
theorem toUInt8_toNat (v : UInt8) : v.toNat.toUInt8 = v :=
  UInt8.toNat.inj (UInt8.toNat_ofNat_of_lt v.toNat_lt_size)

/-- INTERNAL: the high nibble. -/
theorem toNat_shiftRight_four (v : UInt8) : (v >>> 4).toNat = v.toNat / 16 := by
  show (v.toBitVec >>> ((4 : UInt8).toBitVec % 8)).toNat = _
  simp [BitVec.toNat_ushiftRight, Nat.shiftRight_eq_div_pow, UInt8.toNat]

/-- INTERNAL: the low nibble. -/
theorem toNat_and_fifteen (v : UInt8) : (v &&& 0x0f).toNat = v.toNat % 16 := by
  rw [UInt8.and_toNat]
  exact Nat.and_pow_two_sub_one_eq_mod _ 4

/-- INTERNAL: two nibbles make the byte `16 * a + b`. -/
theorem toNat_shiftLeft_or (a b : UInt8) (ha : a.toNat < 16) (hb : b.toNat < 16) :
    ((a <<< 4) ||| b).toNat = 16 * a.toNat + b.toNat := by
  show ((a.toBitVec <<< ((4 : UInt8).toBitVec % 8)) ||| b.toBitVec).toNat = _
  rw [BitVec.toNat_or, BitVec.shiftLeft_eq', BitVec.toNat_shiftLeft,
    show ((4 : UInt8).toBitVec % 8).toNat = 4 from rfl, Nat.shiftLeft_eq,
    Nat.mod_eq_of_lt (by simp [UInt8.toNat] at ha ⊢; omega), Nat.mul_comm]
  exact (Nat.mul_add_lt_is_or (show b.toNat < 2 ^ 4 from hb) _).symm

/-- INTERNAL: the decoder puts back together the two nibbles the encoder split. -/
theorem nibbles_combine (v : UInt8) : ((v >>> 4) <<< 4) ||| (v &&& 0x0f) = v := by
  have hv : v.toNat < 256 := v.toNat_lt_size
  apply UInt8.toNat.inj
  rw [toNat_shiftLeft_or _ _ (by rw [toNat_shiftRight_four]; omega)
    (by rw [toNat_and_fifteen]; omega), toNat_shiftRight_four, toNat_and_fifteen]
  omega

/-- INTERNAL: the digit of a nibble is read back as the nibble. -/
theorem fromHexChar_nibble (n : UInt8) (h : n.toNat < 16) :
    fromHexChar (hextable.getD n.toNat 0) = some n := by
  rw [fromHexChar_hextable _ h, toUInt8_toNat]

/-- `hex.DecodeString` reads back what `hex.EncodeToString` writes. -/
theorem hexDecode_hexEncodeToString (src : List UInt8) :
    hexDecode (hexEncodeToString src) = .ok src := by
  induction src with
  | nil => rfl
  | cons v rest ih =>
    have hv : v.toNat < 256 := v.toNat_lt_size
    have hhi := fromHexChar_nibble (v >>> 4) (by rw [toNat_shiftRight_four]; omega)
    have hlo := fromHexChar_nibble (v &&& 0x0f) (by rw [toNat_and_fifteen]; omega)
    show hexDecode (hextable.getD (v >>> 4).toNat 0 :: hextable.getD (v &&& 0x0f).toNat 0 ::
      hexEncodeToString rest) = _
    simp only [hexDecode, hhi, hlo, ih, nibbles_combine]
    rfl

end ChainProxy.Analysis
