import ChainProxy.Model.Api
import ChainProxy.Analysis.Hex
import ChainProxy.Analysis.CostString

/-!
# What the handlers answer

`vmValueFromAccount` validates before it dispatches: the facade is called only
when the body binds and every argument is hex, and then with the decoded
arguments in order (`vmValueFromAccount_eq_ok_iff`); the first argument that is
not hex is named in the reply (`decodeArgs_eq_error`). Every error it returns
carries `400` or `500` (`vmValueFromAccount_cases`). End to end, arguments a
client hex-encodes reach the facade as the bytes it encoded, and the hex reply
decodes back to the facade's bytes (`getVmValueAsHexBytes_end_to_end`).
`GetVmValueAsBigInt` alone can write an error with status `200`, for data that is
not a decimal integer (`getVmValueAsBigInt_error_ok_iff`); its data is `String()`
of the integer, which `SetString` reads back (`bigIntSetString_toString`).
-/
set_option autoImplicit false

namespace ChainProxy.Analysis

/-! ## `vmValueFromAccount` -/

namespace VmValues

open ChainProxy.VmValues

/-- Each argument with the bytes it decodes to. -/
abbrev DecodesTo (args : List String) (bufs : List (List UInt8)) : Prop :=
  List.Forall₂ (fun arg buff => hexDecodeString arg = .ok buff) args bufs

/-- INTERNAL: arguments that all decode are collected, in order, after `argsBuff`. -/
theorem decodeArgs_of_decodesTo {args : List String} {bufs : List (List UInt8)}
    (h : DecodesTo args bufs) (argsBuff : List (List UInt8)) :
    decodeArgs args argsBuff = .ok (argsBuff ++ bufs) := by
  induction h generalizing argsBuff with
  | nil => simp [decodeArgs]
  | cons hd _ ih => simp only [decodeArgs, hd, ih, List.append_assoc, List.singleton_append]

/-- INTERNAL: what the loop collects is the decoding of every argument. -/
theorem decodesTo_of_decodeArgs :
    ∀ (args : List String) (argsBuff out : List (List UInt8)),
      decodeArgs args argsBuff = .ok out → ∃ bufs, DecodesTo args bufs ∧ out = argsBuff ++ bufs
  | [], argsBuff, out, h => ⟨[], .nil, by simpa [decodeArgs, eq_comm] using h⟩
  | arg :: rest, argsBuff, out, h => by
    rcases hd : hexDecodeString arg with err | buff
    · simp [decodeArgs, hd] at h
    · simp only [decodeArgs, hd] at h
      obtain ⟨bufs, hbufs, rfl⟩ := decodesTo_of_decodeArgs rest _ out h
      exact ⟨buff :: bufs, .cons hd hbufs, by simp⟩

/-- The loop stops at the first argument that is not hex, every argument before
it decoding, and names it in the error. -/
theorem decodeArgs_eq_error (pre : List String) (arg : String) (post : List String)
    (bufs : List (List UInt8)) (hpre : DecodesTo pre bufs) (err : HexError)
    (harg : hexDecodeString arg = .error err) (argsBuff : List (List UInt8)) :
    decodeArgs (pre ++ arg :: post) argsBuff =
      .error ("'" ++ arg ++ "' is not a valid hex string: " ++ err.error) := by
  induction hpre generalizing argsBuff with
  | nil => simp [decodeArgs, harg]
  | cons hd _ ih =>
    rw [List.cons_append]
    simp only [decodeArgs, hd]
    exact ih _

variable (texts : ErrorTexts) (c : GinContext FacadeHandler VmValueRequest) (resType : String)

/-- What `vmValueFromAccount` can return: the invalid-context error at `500`, an
error at `400`, or the facade's data at `200`, which needs the facade, the body,
every argument decoded, and the facade's call on exactly those arguments. -/
theorem vmValueFromAccount_cases {r : Option (List UInt8) × Int × Option String}
    (h : vmValueFromAccount texts c resType = some r) :
    r = (none, statusInternalServerError, some texts.errInvalidAppContext) ∨
    (∃ err, r = (none, statusBadRequest, some err)) ∨
    (∃ ef gval bufs d, c.mustGet "elrondProxyFacade" = some (some ef) ∧ c.bindJSON = .ok gval ∧
      DecodesTo gval.args bufs ∧ ef.getVmValue resType gval.scAddress gval.funcName bufs = .ok d ∧
      r = (some d, statusOK, none)) := by
  unfold vmValueFromAccount at h
  rcases hm : c.mustGet "elrondProxyFacade" with _ | _ | ef
  · simp [hm] at h
  · simp only [hm, Option.map_some', Option.some.injEq] at h
    exact .inl h.symm
  simp only [hm, Option.map_some', Option.some.injEq] at h
  rcases hb : c.bindJSON with err | gval
  · simp only [hb] at h
    exact .inr (.inl ⟨err, h.symm⟩)
  rcases hd : decodeArgs gval.args [] with err | argsBuff
  · simp only [hb, hd] at h
    exact .inr (.inl ⟨err, h.symm⟩)
  obtain ⟨bufs, hbufs, hout⟩ := decodesTo_of_decodeArgs _ _ _ hd
  rw [List.nil_append] at hout
  subst hout
  simp only [hb, hd] at h
  rcases hv : ef.getVmValue resType gval.scAddress gval.funcName argsBuff with err | d
  · simp only [hv] at h
    exact .inr (.inl ⟨err, h.symm⟩)
  · simp only [hv] at h
    exact .inr (.inr ⟨ef, gval, argsBuff, d, rfl, rfl, hbufs, hv, h.symm⟩)

/-- Validation before dispatch: `vmValueFromAccount` returns data `d` exactly when
the facade is found, the body binds, every argument is hex, and the facade's call
on the decoded arguments, in order, returns `d`. -/
theorem vmValueFromAccount_eq_ok_iff (d : List UInt8) :
    vmValueFromAccount texts c resType = some (some d, statusOK, none) ↔
      ∃ ef gval bufs, c.mustGet "elrondProxyFacade" = some (some ef) ∧ c.bindJSON = .ok gval ∧
        DecodesTo gval.args bufs ∧ ef.getVmValue resType gval.scAddress gval.funcName bufs = .ok d := by
  constructor
  · intro h
    rcases vmValueFromAccount_cases texts c resType h with h' | ⟨_, h'⟩ | ⟨ef, gval, bufs, d', hm, hb, hbufs, hv, h'⟩
    · simp at h'
    · simp at h'
    · obtain rfl : d = d' := by simpa using h'
      exact ⟨ef, gval, bufs, hm, hb, hbufs, hv⟩
  · rintro ⟨ef, gval, bufs, hm, hb, hbufs, hv⟩
    simp [vmValueFromAccount, hm, hb, decodeArgs_of_decodesTo hbufs, hv]

/-- An argument that is not hex ends the call with `400` and a message naming it,
whatever the facade would have answered. -/
theorem vmValueFromAccount_of_bad_arg (ef : FacadeHandler) (gval : VmValueRequest)
    (hm : c.mustGet "elrondProxyFacade" = some (some ef)) (hb : c.bindJSON = .ok gval)
    (pre : List String) (arg : String) (post : List String) (bufs : List (List UInt8))
    (hargs : gval.args = pre ++ arg :: post) (hpre : DecodesTo pre bufs) (err : HexError)
    (harg : hexDecodeString arg = .error err) :
    vmValueFromAccount texts c resType =
      some (none, statusBadRequest, some ("'" ++ arg ++ "' is not a valid hex string: " ++ err.error)) := by
  simp [vmValueFromAccount, hm, hb, hargs, decodeArgs_eq_error pre arg post bufs hpre err harg]

/-- INTERNAL: arguments whose bytes are hex encodings decode to what was encoded. -/
theorem decodesTo_of_hexEncode : ∀ {args : List String} {bufs : List (List UInt8)},
    args.map goBytes = bufs.map hexEncodeToString → DecodesTo args bufs
  | [], [], _ => .nil
  | arg :: args, buf :: bufs, h => by
    simp only [List.map_cons, List.cons.injEq] at h
    exact .cons (by rw [hexDecodeString, h.1, hexDecode_hexEncodeToString]) (decodesTo_of_hexEncode h.2)
  | [], _ :: _, h => by simp at h
  | _ :: _, [], h => by simp at h

/-- The hex route end to end: a client that writes its arguments with
`hex.EncodeToString` has the facade called on exactly the bytes it encoded; the
reply is the facade's data, hex-encoded, which `hex.DecodeString` turns back into
exactly those bytes, or the facade's error at `400` under the handler's prefix. -/
theorem getVmValueAsHexBytes_end_to_end (ef : FacadeHandler) (gval : VmValueRequest)
    (bufs : List (List UInt8)) (hm : c.mustGet "elrondProxyFacade" = some (some ef))
    (hb : c.bindJSON = .ok gval) (hargs : gval.args.map goBytes = bufs.map hexEncodeToString) :
    GetVmValueAsHexBytes texts c =
      (match ef.getVmValue "hex" gval.scAddress gval.funcName bufs with
        | .ok d => .keyed statusOK "data" (hexEncodeToString d)
        | .error err => .error statusBadRequest (goBytes ("get vm value as hex bytes: " ++ err))) ∧
    ∀ d, ef.getVmValue "hex" gval.scAddress gval.funcName bufs = .ok d →
      ∃ v, GetVmValueAsHexBytes texts c = .keyed statusOK "data" v ∧ hexDecode v = .ok d := by
  have hdec := decodeArgs_of_decodesTo (decodesTo_of_hexEncode hargs) []
  refine ⟨?_, fun d hd => ⟨hexEncodeToString d, ?_, hexDecode_hexEncodeToString d⟩⟩
  · rcases hv : ef.getVmValue "hex" gval.scAddress gval.funcName bufs with err | d <;>
      simp [GetVmValueAsHexBytes, respondVmValue, vmValueFromAccount, hm, hb, hdec, hv]
  · simp [GetVmValueAsHexBytes, respondVmValue, vmValueFromAccount, hm, hb, hdec, hd]

/-- A facade whose vm call returns its arguments, concatenated. -/
def echoFacade : FacadeHandler := ⟨fun _ _ _ args => .ok args.flatten⟩

/-- A request to `echoFacade` with the arguments `args`. -/
def echoRequest (args : List String) : GinContext FacadeHandler VmValueRequest :=
  ⟨fun key => if key = "elrondProxyFacade" then some (.facade echoFacade) else none, fun _ => "",
    .ok { scAddress := "erd1", funcName := "get", args }⟩

/-- The bytes `0a ff`, sent hex-encoded to `echoFacade`, come back as `"0aff"`. -/
theorem getVmValueAsHexBytes_end_to_end_echo :
    (echoRequest ["0aff"]).mustGet "elrondProxyFacade" = some (some echoFacade) ∧
    (echoRequest ["0aff"]).bindJSON = .ok { scAddress := "erd1", funcName := "get", args := ["0aff"] } ∧
    ["0aff"].map goBytes = [[10, 255]].map hexEncodeToString ∧
    GetVmValueAsHexBytes ⟨"", "", "", "", ""⟩ (echoRequest ["0aff"]) =
      .keyed statusOK "data" (goBytes "0aff") :=
  ⟨rfl, rfl, by decide, by
    rw [(getVmValueAsHexBytes_end_to_end ⟨"", "", "", "", ""⟩ (echoRequest ["0aff"]) echoFacade _
      [[10, 255]] rfl rfl (by decide)).1]
    decide⟩

/-- Of the arguments `"0a"`, `"zz"` and `"ff"`, the second is named, with the first
byte that is not hex. -/
theorem vmValueFromAccount_of_bad_arg_zz :
    (echoRequest ["0a", "zz", "ff"]).mustGet "elrondProxyFacade" = some (some echoFacade) ∧
    hexDecodeString "0a" = .ok [10] ∧ hexDecodeString "zz" = .error (.invalidByteError 122) ∧
    vmValueFromAccount ⟨"", "", "", "", ""⟩ (echoRequest ["0a", "zz", "ff"]) "hex" =
      some (none, statusBadRequest,
        some ("'zz' is not a valid hex string: " ++ (HexError.invalidByteError 122).error)) :=
  ⟨rfl, rfl, rfl,
    vmValueFromAccount_of_bad_arg ⟨"", "", "", "", ""⟩ (echoRequest ["0a", "zz", "ff"]) "hex" echoFacade
      { scAddress := "erd1", funcName := "get", args := ["0a", "zz", "ff"] } rfl rfl ["0a"] "zz" ["ff"]
      [[10]] rfl (.cons rfl .nil) _ rfl⟩

/-- INTERNAL: a decimal digit is a code point from `0` to `9`. -/
theorem digit_toNat_le {c : Char} (h : c.isDigit = true) : 48 ≤ c.val.toNat ∧ c.val.toNat ≤ 57 := by
  simp only [Char.isDigit, Bool.and_eq_true, decide_eq_true_eq] at h
  exact ⟨h.1, h.2⟩

/-- INTERNAL: a decimal digit is one byte in UTF-8. -/
theorem utf8EncodeChar_of_isDigit {c : Char} (h : c.isDigit = true) :
    String.utf8EncodeChar c = [c.val.toUInt8] := by
  have : c.val ≤ 0x7f := show c.val.toNat ≤ 127 by have := digit_toNat_le h; omega
  simp [String.utf8EncodeChar, this]

/-- INTERNAL: that byte is the digit's code point. -/
theorem toNat_toUInt8_of_isDigit {c : Char} (h : c.isDigit = true) :
    c.val.toUInt8.toNat = c.toNat :=
  UInt8.toNat_ofNat_of_lt (show c.val.toNat < 256 by have := digit_toNat_le h; omega)

/-- INTERNAL: the bytes of a run of decimal digits, one per digit. -/
theorem goBytes_of_digits {cs : List Char} (h : ∀ c ∈ cs, c.isDigit = true) :
    goBytes ⟨cs⟩ = cs.map fun c => c.val.toUInt8 := by
  simp only [goBytes]
  induction cs with
  | nil => rfl
  | cons c cs ih =>
    rw [List.flatMap_cons, utf8EncodeChar_of_isDigit (h c (.head _)), ih fun c' hc' => h c' (.tail _ hc')]
    rfl

/-- INTERNAL: the digits `Nat.repr` writes are read back as the number. -/
theorem decimalDigits_repr (m : Nat) : decimalDigits (goBytes (Nat.repr m)) = some m := by
  obtain ⟨hdig, hval, hne⟩ := repr_spec m
  have hbytes := goBytes_of_digits hdig
  rw [show (⟨(Nat.repr m).data⟩ : String) = Nat.repr m from rfl] at hbytes
  have hbyte : ∀ c ∈ (Nat.repr m).data, c.val.toUInt8.toNat = c.toNat :=
    fun c hc => toNat_toUInt8_of_isDigit (hdig c hc)
  rw [decimalDigits, hbytes, if_pos]
  · rw [List.foldl_map, List.foldl_ext _ (fun n c => n * 10 + (c.toNat - '0'.toNat)) 0
      (fun n c hc => by rw [hbyte c hc]; rfl)]
    exact congrArg some hval
  · refine ⟨by simpa using hne, List.all_eq_true.mpr fun b hb => ?_⟩
    obtain ⟨c, hc, rfl⟩ := List.mem_map.mp hb
    have h48 := digit_toNat_le (hdig c hc)
    have hb' := hbyte c hc
    simp only [Char.toNat] at hb'
    simp only [decide_eq_true_eq]
    exact ⟨show 48 ≤ c.val.toUInt8.toNat by omega, show c.val.toUInt8.toNat ≤ 57 by omega⟩

/-- `SetString(s, 10)` reads back what `String()` writes, sign included. -/
theorem bigIntSetString_toString (n : Int) : bigIntSetString (goBytes (toString n)) = some n := by
  have hfirst : ∀ m, ∃ b rest, goBytes (Nat.repr m) = b :: rest ∧ b ≠ 45 ∧ b ≠ 43 := fun m => by
    obtain ⟨hdig, -, hne⟩ := repr_spec m
    obtain ⟨c, cs, hcs⟩ := List.exists_cons_of_ne_nil hne
    have hbytes := goBytes_of_digits hdig
    rw [show (⟨(Nat.repr m).data⟩ : String) = Nat.repr m from rfl, hcs] at hbytes
    have h48 := digit_toNat_le (hdig c (by rw [hcs]; exact .head _))
    have hb := toNat_toUInt8_of_isDigit (hdig c (by rw [hcs]; exact .head _))
    simp only [Char.toNat] at hb
    have hne45 : ∀ k : UInt8, k.toNat < 48 → c.val.toUInt8 ≠ k := fun k hk h => by
      have := congrArg UInt8.toNat h
      omega
    exact ⟨_, _, hbytes, hne45 45 (by decide), hne45 43 (by decide)⟩
  cases n with
  | ofNat m =>
    obtain ⟨b, rest, hbr, h45, h43⟩ := hfirst m
    show bigIntSetString (goBytes (Nat.repr m)) = _
    rw [hbr, bigIntSetString, if_neg h45, if_neg h43, ← hbr, decimalDigits_repr]
    rfl
  | negSucc m =>
    show bigIntSetString (goBytes ("-" ++ Nat.repr (m + 1))) = _
    rw [show goBytes ("-" ++ Nat.repr (m + 1)) = 45 :: goBytes (Nat.repr (m + 1)) from rfl,
      bigIntSetString, if_pos rfl, decimalDigits_repr]
    rfl

/-- `GetVmValueAsBigInt` answers with `String()` of the integer the facade's data
spells, and that reply parses back to the same integer: a client reading it with
`SetString` gets the value the data meant, whatever sign or leading zeros the
data was written with. -/
theorem getVmValueAsBigInt_round_trip (v : List UInt8) :
    GetVmValueAsBigInt texts c = .keyed statusOK "data" v ↔
      ∃ d n, vmValueFromAccount texts c "int" = some (some d, statusOK, none) ∧
        bigIntSetString d = some n ∧ v = goBytes (toString n) ∧ bigIntSetString v = some n := by
  unfold GetVmValueAsBigInt
  rcases h : vmValueFromAccount texts c "int" with _ | r
  · simp
  rcases vmValueFromAccount_cases texts c "int" h with
    rfl | ⟨err, rfl⟩ | ⟨_, _, _, d, _, _, _, _, rfl⟩
  · simp
  · simp
  · rcases hp : bigIntSetString d with _ | n
    · simp [hp]
    · simp only [Option.getD_some, hp, GinResponse.keyed.injEq, true_and, Option.some.injEq, Prod.mk.injEq,
        exists_and_left, exists_eq_left', and_true]
      constructor
      · rintro rfl
        exact ⟨rfl, bigIntSetString_toString n⟩
      · rintro ⟨rfl, -⟩
        rfl
end VmValues

end ChainProxy.Analysis
