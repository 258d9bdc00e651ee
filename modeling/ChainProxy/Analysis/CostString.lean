import Mathlib.Data.Nat.Digits
import ChainProxy.Analysis.SendTransaction

/-!
# The gas cost as a decimal string

`TransactionCostRequest` prints the observer's `uint64` gas cost with
`strconv.Itoa(int(TxCost))`. Below `2^63` this is the decimal form of the cost,
which `strconv.ParseUint` reads back (`transactionCostResult_decimal`); from
`2^63` on, `int` wraps the cost to a negative number and the string starts with
`-` (`transactionCostResult_wraps`, and `transactionCostRequest_cost_overflows`
at `2^63`).

So a caller that parses the cost gets a value exactly when the last observer
contacted accepted with a cost below `2^63`, and that value is the cost
(`transactionCostRequest_parseUint_iff`): every other way out of
`TransactionCostRequest` returns the empty string or a negative one.
-/

set_option autoImplicit false

namespace ChainProxy.Analysis

/-- The value of a run of decimal digits, most significant first. -/
def decimalValue (cs : List Char) : Nat :=
  cs.foldl (fun n c => n * 10 + (c.toNat - '0'.toNat)) 0

/-- `strconv.ParseUint(s, 10, 64)`: a non-empty run of decimal digits whose value
fits in 64 bits. -/
def parseUint (s : String) : Option UInt64 :=
  if s.data ≠ [] ∧ s.data.all Char.isDigit ∧ decimalValue s.data < 2 ^ 64 then
    some (decimalValue s.data).toUInt64
  else none

/-- INTERNAL: one more digit. -/
theorem decimalValue_append_singleton (cs : List Char) (c : Char) :
    decimalValue (cs ++ [c]) = decimalValue cs * 10 + (c.toNat - '0'.toNat) := by
  simp [decimalValue, List.foldl_append]

/-- INTERNAL: `Nat.digitChar` below ten is the decimal digit of that value. -/
theorem digitChar_spec : ∀ d, d < 10 →
    (Nat.digitChar d).isDigit = true ∧ (Nat.digitChar d).toNat - '0'.toNat = d := by
  decide

/-- INTERNAL: `Nat.toDigitsCore` prepends to what it is given. -/
theorem toDigitsCore_append (fuel n : Nat) (ds : List Char) :
    Nat.toDigitsCore 10 fuel n ds = Nat.toDigitsCore 10 fuel n [] ++ ds := by
  induction fuel generalizing n ds with
  | zero => rfl
  | succ fuel ih =>
    simp only [Nat.toDigitsCore]
    split
    · rfl
    · rw [ih _ (_ :: ds), ih _ [_]]
      simp

/-- INTERNAL: with enough fuel, `Nat.toDigitsCore` writes `n` as a non-empty run
of decimal digits of value `n`. -/
theorem toDigitsCore_spec (fuel n : Nat) (h : n < fuel) :
    (∀ c ∈ Nat.toDigitsCore 10 fuel n [], c.isDigit = true) ∧
      decimalValue (Nat.toDigitsCore 10 fuel n []) = n ∧ Nat.toDigitsCore 10 fuel n [] ≠ [] := by
  induction fuel generalizing n with
  | zero => omega
  | succ fuel ih =>
    have hd := digitChar_spec (n % 10) (Nat.mod_lt _ (by omega))
    simp only [Nat.toDigitsCore]
    split
    · refine ⟨by simpa using hd.1, ?_, by simp⟩
      simp only [decimalValue, List.foldl_cons, List.foldl_nil, Nat.zero_mul, Nat.zero_add]
      omega
    · obtain ⟨h₁, h₂, -⟩ := ih (n / 10) (by omega)
      rw [toDigitsCore_append]
      refine ⟨fun c hc => ?_, ?_, by simp⟩
      · rcases List.mem_append.mp hc with hc | hc
        · exact h₁ c hc
        · simp only [List.mem_singleton] at hc
          exact hc ▸ hd.1
      · rw [decimalValue_append_singleton, h₂, hd.2]
        omega

/-- `Nat.repr n` is a non-empty run of decimal digits of value `n`. -/
theorem repr_spec (n : Nat) :
    (∀ c ∈ (Nat.repr n).data, c.isDigit = true) ∧ decimalValue (Nat.repr n).data = n ∧
      (Nat.repr n).data ≠ [] :=
  toDigitsCore_spec (n + 1) n (by omega)

/-- `strconv.ParseUint` reads back the decimal form of a `uint64`. -/
theorem parseUint_repr (x : UInt64) : parseUint (Nat.repr x.toNat) = some x := by
  obtain ⟨hdig, hval, hne⟩ := repr_spec x.toNat
  have hlt : x.toNat < 2 ^ 64 := x.toNat_lt_size
  rw [parseUint, if_pos ⟨hne, by simpa [List.all_eq_true] using hdig, by rw [hval]; exact hlt⟩, hval]
  exact congrArg some (UInt64.toNat.inj (UInt64.toNat_ofNat_of_lt hlt))

/-- INTERNAL: below `2^63`, `int(x)` is `x`. -/
theorem goInt_of_lt (x : UInt64) (h : x.toNat < 2 ^ 63) : goInt x = x.toNat := if_pos h

/-- Below `2^63`, the cost an accepting observer reports comes back as its decimal
form: digits only, which `strconv.ParseUint` reads back to the same cost. -/
theorem transactionCostResult_decimal (respCode : Int) (response : ResponseTxCost)
    (h : response.txCost.toNat < 2 ^ 63) :
    (transactionCostResult (.accepted respCode response)).1 = Nat.repr response.txCost.toNat ∧
    parseUint (transactionCostResult (.accepted respCode response)).1 = some response.txCost ∧
    ∀ c ∈ (transactionCostResult (.accepted respCode response)).1.data, c.isDigit = true := by
  have hrepr : (transactionCostResult (.accepted respCode response)).1 =
      Nat.repr response.txCost.toNat := by
    show strconvItoa (goInt response.txCost) = _
    rw [goInt_of_lt _ h]
    rfl
  rw [hrepr]
  exact ⟨rfl, parseUint_repr _, (repr_spec _).1⟩

/-- From `2^63` on, the cost comes back negative: a `-` and then the digits of
`2^64` minus the cost, which `strconv.ParseUint` rejects. -/
theorem transactionCostResult_wraps (respCode : Int) (response : ResponseTxCost)
    (h : 2 ^ 63 ≤ response.txCost.toNat) :
    (transactionCostResult (.accepted respCode response)).1 =
      "-" ++ Nat.repr (2 ^ 64 - response.txCost.toNat) ∧
    parseUint (transactionCostResult (.accepted respCode response)).1 = none := by
  have hlt : response.txCost.toNat < 2 ^ 64 := response.txCost.toNat_lt_size
  have hg : goInt response.txCost = Int.negSucc (2 ^ 64 - response.txCost.toNat - 1) := by
    rw [goInt, if_neg (by omega), Int.negSucc_eq]
    omega
  have hstr : (transactionCostResult (.accepted respCode response)).1 =
      "-" ++ Nat.repr (2 ^ 64 - response.txCost.toNat) := by
    show strconvItoa (goInt response.txCost) = _
    rw [hg, show 2 ^ 64 - response.txCost.toNat = 2 ^ 64 - response.txCost.toNat - 1 + 1 by omega]
    rfl
  refine ⟨hstr, ?_⟩
  rw [hstr, parseUint, if_neg]
  rintro ⟨-, hdig, -⟩
  simp [String.append] at hdig

/-- INTERNAL: `strconv.ParseUint` rejects the empty string. -/
theorem parseUint_empty : parseUint "" = none := rfl

/-- What `strconv.ParseUint` reads from the string of each way out of the
observer loop: a value exactly when an observer accepted with a cost below
`2^63`, and then that cost. -/
theorem parseUint_transactionCostResult (attempt : LoopExit ResponseTxCost) (c : UInt64) :
    parseUint (transactionCostResult attempt).1 = some c ↔
      ∃ respCode response, attempt = .accepted respCode response ∧ response.txCost = c ∧
        c.toNat < 2 ^ 63 := by
  cases attempt with
  | accepted respCode response =>
    by_cases h : response.txCost.toNat < 2 ^ 63
    · rw [(transactionCostResult_decimal respCode response h).2.1]
      constructor
      · rintro ⟨⟩
        exact ⟨_, _, rfl, rfl, h⟩
      · rintro ⟨_, _, ⟨⟩, rfl, -⟩
        rfl
    · rw [(transactionCostResult_wraps respCode response (by omega)).2]
      simp only [reduceCtorEq, false_iff, not_exists, not_and, LoopExit.accepted.injEq]
      rintro _ _ ⟨-, rfl⟩ rfl
      exact h
  | rejected => simp [transactionCostResult, parseUint_empty]
  | exhausted => simp [transactionCostResult, parseUint_empty]

/-- What a caller reads back from the cost endpoint: `strconv.ParseUint` of the
string `TransactionCostRequest` returns gives a value exactly when the fields
pass and the last observer contacted accepted with a cost below `2^63`, and that
value is the cost. A failed check, a rejection, a loop of 404s and 408s, or a
cost from `2^63` on all give a string that does not parse. -/
theorem transactionCostRequest_parseUint_iff (tp : TransactionProcessor) (tx : Transaction)
    (c : UInt64) :
    parseUint (tp.transactionCostRequest tx).1.1 = some c ↔
      tp.checkTransactionFields tx = none ∧
      ∃ o, (tp.transactionCostRequest tx).2.getLast? = some o ∧ isAccepted (costReply tp tx o) ∧
        (costReply tp tx o).response.txCost = c ∧ c.toNat < 2 ^ 63 := by
  rcases h : tp.checkTransactionFields tx with _ | err
  · rw [transactionCostRequest_of_check tp tx h, tryObservers_exit, parseUint_transactionCostResult]
    rcases (tryObservers (costReply tp tx) (costCandidates tp)).2.getLast? with _ | o
    · simp [exitOfLast]
    · by_cases ha : isAccepted (costReply tp tx o)
      · simp [exitOfLast, ha, and_assoc]
      · by_cases hs : isSkipStatus (costReply tp tx o).respCode <;> simp [exitOfLast, ha, hs]
  · simp [TransactionProcessor.transactionCostRequest, h, parseUint_empty]

/-- One observer, of shard 0, whose gas estimate is `2^63`. -/
def costOverflow : TransactionProcessor where
  proc :=
    { computeShardId := fun _ => .ok 0
      getObservers := fun _ => .ok [⟨"observer0", 0⟩]
      getAllObservers := [⟨"observer0", 0⟩]
      callPostRestEndPoint := fun _ path _ response => match path, response with
        | .transactionCost, _ => ⟨statusOK, none, { txCost := 9223372036854775808 }⟩
        | .transactionSend, response => ⟨statusOK, none, response⟩
        | .multipleTransactions, response => ⟨statusOK, none, response⟩
      callGetRestEndPoint := fun _ _ response => ⟨none, response⟩ }
  pubKeyConverter := ⟨fun _ => .ok []⟩

/-- A cost of `2^63` gas is printed negative, and does not parse as a `uint64`. -/
theorem transactionCostRequest_cost_overflows :
    costOverflow.transactionCostRequest {} =
      (("-9223372036854775808", none), [⟨"observer0", 0⟩]) ∧
    parseUint "-9223372036854775808" = none := by
  decide

end ChainProxy.Analysis
