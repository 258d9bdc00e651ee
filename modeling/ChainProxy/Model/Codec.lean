import Mathlib.Algebra.Group.Nat.Basic
import Mathlib.Algebra.Group.Int
import ChainProxy.Model.Data

/-!
# The standard-library codecs the proxy calls

`hex.DecodeString` (which `checkTransactionFields` runs on the signature and the
vm-values handlers on the call arguments), with its two error values and their
texts; `hex.EncodeToString`, which the hex vm-value reply is written with; and
the `strconv.Itoa(int(x))` conversion `TransactionCostRequest` prints the gas
cost with. All follow Go's `encoding/hex` and `strconv` on a 64-bit platform.
-/

set_option autoImplicit false

namespace ChainProxy

/-- The bytes of a Go string, `[]byte(s)`: its UTF-8 encoding. -/
def goBytes (s : String) : List UInt8 := s.data.flatMap String.utf8EncodeChar

/-- The error values of `encoding/hex`. -/
inductive HexError
  /-- `InvalidByteError`: a byte that is not a hex digit. -/
  | invalidByteError (b : UInt8)
  /-- `ErrLength`: an odd number of bytes. -/
  | errLength
  deriving DecidableEq, Repr

/-- `fromHexChar`: the value of one hex digit. -/
def fromHexChar (c : UInt8) : Option UInt8 :=
  if 48 ≤ c ∧ c ≤ 57 then some (c - 48)
  else if 97 ≤ c ∧ c ≤ 102 then some (c - 87)
  else if 65 ≤ c ∧ c ≤ 70 then some (c - 55)
  else none

/-- `hex.Decode`: the bytes two by two; on an odd length the last byte is
checked for a bad digit before the length is reported. -/
def hexDecode : List UInt8 → Except HexError (List UInt8)
  | [] => .ok []
  | [p] => match fromHexChar p with
    | none => .error (.invalidByteError p)
    | some _ => .error .errLength
  | p :: q :: rest => match fromHexChar p, fromHexChar q with
    | none, _ => .error (.invalidByteError p)
    | some _, none => .error (.invalidByteError q)
    | some a, some b => (hexDecode rest).map (((a <<< 4) ||| b) :: ·)

/-- `hex.DecodeString`. -/
def hexDecodeString (s : String) : Except HexError (List UInt8) := hexDecode (goBytes s)

/-- `hextable` of `encoding/hex`. -/
def hextable : List UInt8 := goBytes "0123456789abcdef"

/-- `hex.EncodeToString`, as the bytes of the Go string: each byte as two
lower-case digits, high nibble first. -/
def hexEncodeToString (src : List UInt8) : List UInt8 :=
  src.flatMap fun v => [hextable.getD (v >>> 4).toNat 0, hextable.getD (v &&& 0x0f).toNat 0]

/-- An upper-case hex digit, as `%X` prints it. -/
def upperHexDigit (n : Nat) : Char :=
  if n < 10 then Char.ofNat (48 + n) else Char.ofNat (55 + n)

/-- `strconv.IsPrint` on a rune below `0x100`. -/
def isPrintByte (b : UInt8) : Bool :=
  (0x20 ≤ b && b < 0x7F) || (0xA1 ≤ b && b != 0xAD)

/-- `err.Error()` for the errors of `encoding/hex`; an invalid byte is printed
with `%#U`. -/
def HexError.error : HexError → String
  | .errLength => "encoding/hex: odd length hex string"
  | .invalidByteError b =>
    "encoding/hex: invalid byte: U+00" ++
      String.mk [upperHexDigit (b.toNat / 16), upperHexDigit (b.toNat % 16)] ++
      (if isPrintByte b then " '" ++ (Char.ofNat b.toNat).toString ++ "'" else "")


/-- `int(x)` for a `uint64` on a 64-bit platform: the same 64 bits read in
two's complement. -/
def goInt (x : UInt64) : Int :=
  if x.toNat < 2 ^ 63 then x.toNat else (x.toNat : Int) - 2 ^ 64

/-- `strconv.Itoa`: the decimal form, with a leading `-` when negative. -/
def strconvItoa (i : Int) : String := toString i

end ChainProxy
