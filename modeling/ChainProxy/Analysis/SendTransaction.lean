import ChainProxy.Analysis.ObserverLoops
import ChainProxy.Analysis.Hex

/-!
# `SendTransaction` and `TransactionCostRequest`

Both first run `checkTransactionFields`, which passes exactly when the sender and
the receiver decode and the signature is hex (`checkTransactionFields_eq_none_iff`).
A signature is hex when its bytes are an even number of hex digits, none at all
included; a bad one is reported at its first byte that is not a digit
(`checkTransactionFields_signature`).

Both run the same observer loop, `tryObservers`, over a list of candidates: the
observers of the sender's shard for `SendTransaction`, every observer outside the
metachain for `TransactionCostRequest`. After the field check passes, each
contacts the candidates up to the first reply that is neither 404 nor 408, and
returns what that last reply says (`retry_order_short_circuit`).

A reply that is neither accepted nor skipped is returned as it came: its status
and its error, nil or not. So `SendTransaction` pairs status `200` with a nil
error except when that last reply has status `200` or a nil error
(`sendTransaction_status_agrees_iff`; `sendTransaction_bad_request_without_error`
at two such replies).
-/

set_option autoImplicit false

namespace ChainProxy.Analysis

variable (tp : TransactionProcessor) (tx : Transaction)

/-- The reply an observer gives `SendTransaction`'s post of `tx`. -/
def sendReply (o : NodeData) : Reply ResponseTransaction :=
  tp.proc.callPostRestEndPoint o.address .transactionSend tx {}

/-- The reply an observer gives `TransactionCostRequest`'s post of `tx`. -/
def costReply (o : NodeData) : Reply ResponseTxCost :=
  tp.proc.callPostRestEndPoint o.address .transactionCost tx {}

/-- The observers `SendTransaction` relays to: `GetObservers` of the shard of the
decoded sender, when the sender decodes and the shard and its observers are
found. -/
def sendCandidates : Option (List NodeData) :=
  match tp.pubKeyConverter.decode tx.sender with
  | .error _ => none
  | .ok senderBuff =>
    match tp.proc.computeShardId senderBuff with
    | .error _ => none
    | .ok shardId =>
      match tp.proc.getObservers shardId with
      | .error _ => none
      | .ok observers => some observers

/-- The observers `TransactionCostRequest` asks: every observer outside the
metachain, in `GetAllObservers` order. -/
def costCandidates : List NodeData :=
  tp.proc.getAllObservers.filter (fun o => o.shardId ≠ metachainShardId)

/-! ## The field check -/

/-- `checkTransactionFields` passes exactly when the sender and the receiver
decode and the signature is hex. -/
theorem checkTransactionFields_eq_none_iff :
    tp.checkTransactionFields tx = none ↔
      (tp.pubKeyConverter.decode tx.sender).isOk ∧ (tp.pubKeyConverter.decode tx.receiver).isOk ∧
        (hexDecodeString tx.signature).isOk := by
  unfold TransactionProcessor.checkTransactionFields
  rcases tp.pubKeyConverter.decode tx.sender with _ | _ <;>
    rcases tp.pubKeyConverter.decode tx.receiver with _ | _ <;>
    rcases hexDecodeString tx.signature with _ | _ <;> simp [Except.isOk, Except.toBool]

/-- What the field check makes of a signature: it passes exactly when its bytes
are an even number of hex digits, of either case, the empty signature included.
Past a sender and a receiver that decode, a signature that fails is reported at
its first byte that is not a hex digit or, when every byte is one, as of odd
length. -/
theorem checkTransactionFields_signature :
    (tp.checkTransactionFields tx = none ↔
      (tp.pubKeyConverter.decode tx.sender).isOk ∧ (tp.pubKeyConverter.decode tx.receiver).isOk ∧
        (∀ b ∈ goBytes tx.signature, isHexDigit b) ∧ (goBytes tx.signature).length % 2 = 0) ∧
    ((tp.pubKeyConverter.decode tx.sender).isOk → (tp.pubKeyConverter.decode tx.receiver).isOk →
      (∀ b, (goBytes tx.signature).find? (fun x => !isHexDigit x) = some b →
        tp.checkTransactionFields tx =
          some (.errInvalidTxFields .errInvalidSignatureHex (HexError.invalidByteError b).error)) ∧
      ((∀ b ∈ goBytes tx.signature, isHexDigit b) → (goBytes tx.signature).length % 2 = 1 →
        tp.checkTransactionFields tx =
          some (.errInvalidTxFields .errInvalidSignatureHex HexError.errLength.error))) := by
  refine ⟨by rw [checkTransactionFields_eq_none_iff, hexDecodeString, hexDecode_isOk_iff],
    fun hs hr => ?_⟩
  obtain ⟨_, hs⟩ : ∃ v, tp.pubKeyConverter.decode tx.sender = .ok v := by
    cases h : tp.pubKeyConverter.decode tx.sender <;> simp_all [Except.isOk, Except.toBool]
  obtain ⟨_, hr⟩ : ∃ v, tp.pubKeyConverter.decode tx.receiver = .ok v := by
    cases h : tp.pubKeyConverter.decode tx.receiver <;> simp_all [Except.isOk, Except.toBool]
  refine ⟨fun b hb => ?_, fun hall hodd => ?_⟩
  · simp [TransactionProcessor.checkTransactionFields, hs, hr, hexDecodeString, hexDecode_of_find hb]
  · simp [TransactionProcessor.checkTransactionFields, hs, hr, hexDecodeString,
      hexDecode_of_odd hall hodd]

/-! ## Unfolding the two operations -/

/-- INTERNAL: a transaction that fails the check is answered `400` with no post. -/
theorem sendTransaction_of_check_fail {err : ProxyError}
    (h : tp.checkTransactionFields tx = some err) :
    tp.sendTransaction tx = ((statusBadRequest, "", some err), []) := by
  simp [TransactionProcessor.sendTransaction, h]

/-- INTERNAL: when the sender's shard or its observers cannot be found, nothing is
posted. -/
theorem sendTransaction_posts_of_no_candidates (h : sendCandidates tp tx = none) :
    (tp.sendTransaction tx).2 = [] := by
  unfold sendCandidates at h
  unfold TransactionProcessor.sendTransaction
  rcases hcheck : tp.checkTransactionFields tx with _ | err
  · rcases hd : tp.pubKeyConverter.decode tx.sender with _ | b
    · simp [hd]
    rcases hs : tp.proc.computeShardId b with _ | k
    · simp [hd, hs]
    rcases ho : tp.proc.getObservers k with _ | os
    · simp [hd, hs, ho]
    simp [hd, hs, ho] at h
  · rfl

/-- INTERNAL: past the check, `SendTransaction` is `tryObservers` over its
candidates. -/
theorem sendTransaction_of_candidates {observers : List NodeData}
    (h : tp.checkTransactionFields tx = none) (hc : sendCandidates tp tx = some observers) :
    tp.sendTransaction tx =
      (sendTransactionResult (tryObservers (sendReply tp tx) observers).1,
        (tryObservers (sendReply tp tx) observers).2) := by
  unfold sendCandidates at hc
  rcases hd : tp.pubKeyConverter.decode tx.sender with _ | b
  · simp [hd] at hc
  rcases hs : tp.proc.computeShardId b with _ | k
  · simp [hd, hs] at hc
  rcases ho : tp.proc.getObservers k with _ | os
  · simp [hd, hs, ho] at hc
  simp only [hd, hs, ho, Option.some.injEq] at hc
  subst hc
  simp only [TransactionProcessor.sendTransaction, h, hd, hs, ho]
  rfl

/-- INTERNAL: past the check, `TransactionCostRequest` is `tryObservers` over the
observers outside the metachain. -/
theorem transactionCostRequest_of_check (h : tp.checkTransactionFields tx = none) :
    tp.transactionCostRequest tx =
      (transactionCostResult (tryObservers (costReply tp tx) (costCandidates tp)).1,
        (tryObservers (costReply tp tx) (costCandidates tp)).2) := by
  simp only [TransactionProcessor.transactionCostRequest, h]
  rfl

/-- INTERNAL: `SendTransaction` reports `ErrSendingRequest` exactly when its loop
ran out, and then with status `500`. -/
theorem sendTransactionResult_errSendingRequest (exit : LoopExit ResponseTransaction) :
    ((sendTransactionResult exit).2.2 = some .errSendingRequest ↔ exit = .exhausted) ∧
    ((sendTransactionResult exit).2.2 = some .errSendingRequest →
      (sendTransactionResult exit).1 = statusInternalServerError) := by
  cases exit with
  | accepted => simp [sendTransactionResult]
  | rejected _ err => cases err <;> simp [sendTransactionResult]
  | exhausted => simp [sendTransactionResult]

/-- INTERNAL: `TransactionCostRequest` reports `ErrSendingRequest` exactly when
its loop ran out. -/
theorem transactionCostResult_errSendingRequest (exit : LoopExit ResponseTxCost) :
    (transactionCostResult exit).2 = some .errSendingRequest ↔ exit = .exhausted := by
  cases exit with
  | accepted => simp [transactionCostResult]
  | rejected _ err => cases err <;> simp [transactionCostResult]
  | exhausted => simp [transactionCostResult]

/-- Retry order and short-circuit. For `SendTransaction` (candidates: the
observers of the sender's shard) and for `TransactionCostRequest` (candidates:
every observer outside the metachain), a transaction that fails
`checkTransactionFields` contacts no observer; otherwise the observers contacted
are, in order, the candidates up to the first whose reply is neither 404 nor 408,
or all of them; the result is a function of the last reply alone; and
`ErrSendingRequest` (at `500` for `SendTransaction`) is returned exactly when every
candidate answered 404 or 408. No metachain observer is asked for a cost. -/
theorem retry_order_short_circuit :
    (tp.checkTransactionFields tx ≠ none → (tp.sendTransaction tx).2 = []) ∧
    (∀ observers, tp.checkTransactionFields tx = none → sendCandidates tp tx = some observers →
      (tp.sendTransaction tx).2 =
        prefixThrough (fun o => !isSkipStatus (sendReply tp tx o).respCode) observers ∧
      (tp.sendTransaction tx).1 =
        sendTransactionResult (exitOfLast (((tp.sendTransaction tx).2.getLast?).map (sendReply tp tx))) ∧
      ((tp.sendTransaction tx).1.2.2 = some .errSendingRequest ↔
        ∀ o ∈ observers, isSkipStatus (sendReply tp tx o).respCode) ∧
      ((tp.sendTransaction tx).1.2.2 = some .errSendingRequest →
        (tp.sendTransaction tx).1.1 = statusInternalServerError)) ∧
    (tp.checkTransactionFields tx ≠ none → (tp.transactionCostRequest tx).2 = []) ∧
    (tp.checkTransactionFields tx = none →
      (tp.transactionCostRequest tx).2 =
        prefixThrough (fun o => !isSkipStatus (costReply tp tx o).respCode) (costCandidates tp) ∧
      (tp.transactionCostRequest tx).1 =
        transactionCostResult
          (exitOfLast (((tp.transactionCostRequest tx).2.getLast?).map (costReply tp tx))) ∧
      ((tp.transactionCostRequest tx).1.2 = some .errSendingRequest ↔
        ∀ o ∈ costCandidates tp, isSkipStatus (costReply tp tx o).respCode)) ∧
    (∀ o ∈ (tp.transactionCostRequest tx).2, o.shardId ≠ metachainShardId) := by
  have hcost : ∀ o ∈ (tp.transactionCostRequest tx).2, o.shardId ≠ metachainShardId := by
    intro o ho
    rcases h : tp.checkTransactionFields tx with _ | err
    · rw [transactionCostRequest_of_check tp tx h, tryObservers_contacted] at ho
      have := (List.mem_filter.mp ((prefixThrough_sublist _ _).subset ho)).2
      simpa using this
    · simp [TransactionProcessor.transactionCostRequest, h] at ho
  refine ⟨fun h => ?_, fun observers h hc => ?_, fun h => ?_, fun h => ?_, hcost⟩
  · obtain ⟨err, herr⟩ := Option.ne_none_iff_exists'.mp h
    rw [sendTransaction_of_check_fail tp tx herr]
  · rw [sendTransaction_of_candidates tp tx h hc]
    exact ⟨tryObservers_contacted _ _,
      congrArg sendTransactionResult (tryObservers_exit (sendReply tp tx) observers),
      (sendTransactionResult_errSendingRequest _).1.trans (tryObservers_exhausted_iff _ _),
      (sendTransactionResult_errSendingRequest _).2⟩
  · obtain ⟨err, herr⟩ := Option.ne_none_iff_exists'.mp h
    simp [TransactionProcessor.transactionCostRequest, herr]
  · rw [transactionCostRequest_of_check tp tx h]
    exact ⟨tryObservers_contacted _ _,
      congrArg transactionCostResult (tryObservers_exit (costReply tp tx) (costCandidates tp)),
      (transactionCostResult_errSendingRequest _).trans (tryObservers_exhausted_iff _ _)⟩

/-- INTERNAL: the result of the last reply pairs status `200` with a nil error,
and only then, unless the reply is neither accepted nor skipped and has status
`200` or a nil error. -/
theorem sendTransactionResult_agrees_iff (last : Option (Reply ResponseTransaction)) :
    ((sendTransactionResult (exitOfLast last)).2.2 = none ↔
        (sendTransactionResult (exitOfLast last)).1 = statusOK) ↔
      ∀ reply, last = some reply → isAccepted reply = false →
        isSkipStatus reply.respCode = false → reply.respCode ≠ statusOK ∧ reply.err ≠ none := by
  rcases last with _ | reply
  · simp [exitOfLast, sendTransactionResult, statusOK, statusInternalServerError]
  by_cases ha : isAccepted reply
  · simp only [isAccepted, decide_eq_true_eq] at ha
    simp [exitOfLast, sendTransactionResult, isAccepted, ha]
  by_cases hs : isSkipStatus reply.respCode
  · simp [exitOfLast, sendTransactionResult, ha, hs, statusOK, statusInternalServerError]
  · have hexit : exitOfLast (some reply) = .rejected reply.respCode reply.err := by
      simp [exitOfLast, ha, hs]
    rw [hexit]
    simp only [isAccepted, decide_eq_true_eq] at ha
    simp only [sendTransactionResult, Option.map_eq_none', Option.some.injEq, forall_eq',
      Bool.eq_false_iff.mpr hs, isAccepted, decide_eq_false_iff_not, ha, not_false_eq_true,
      forall_const]
    by_cases hc : reply.respCode = statusOK <;> simp_all

/-- Past the field check, `SendTransaction` pairs status `200` with a nil error,
and only then, unless the last observer it contacted gave a reply that is
neither accepted nor skipped, with status `200` or with a nil error. -/
theorem sendTransaction_status_agrees_iff {observers : List NodeData}
    (h : tp.checkTransactionFields tx = none) (hc : sendCandidates tp tx = some observers) :
    ((tp.sendTransaction tx).1.2.2 = none ↔ (tp.sendTransaction tx).1.1 = statusOK) ↔
      ∀ o, (tp.sendTransaction tx).2.getLast? = some o → isAccepted (sendReply tp tx o) = false →
        isSkipStatus (sendReply tp tx o).respCode = false →
        (sendReply tp tx o).respCode ≠ statusOK ∧ (sendReply tp tx o).err ≠ none := by
  rw [sendTransaction_of_candidates tp tx h hc, tryObservers_exit]
  simp only
  rw [sendTransactionResult_agrees_iff]
  constructor
  · exact fun H o ho => H _ (by rw [ho]; rfl)
  · intro H reply hr
    obtain ⟨o, ho, rfl⟩ := Option.map_eq_some'.mp hr
    exact H o ho

/-- One observer, of shard 0, that answers every post with `respCode` and `err`. -/
def replyingWith (respCode : Int) (err : Option String) : TransactionProcessor where
  proc :=
    { computeShardId := fun _ => .ok 0
      getObservers := fun _ => .ok [⟨"observer0", 0⟩]
      getAllObservers := [⟨"observer0", 0⟩]
      callPostRestEndPoint := fun _ _ _ response => ⟨respCode, err, response⟩
      callGetRestEndPoint := fun _ _ response => ⟨none, response⟩ }
  pubKeyConverter := ⟨fun _ => .ok []⟩

/-- An observer that answers `400` with a nil error makes `SendTransaction` return
status `400` with a nil error, and `TransactionCostRequest` an empty cost with a
nil error; one that answers `200` with a decoding error makes `SendTransaction`
return status `200` with that error. -/
theorem sendTransaction_bad_request_without_error :
    (replyingWith statusBadRequest none).sendTransaction {} =
      ((statusBadRequest, "", none), [⟨"observer0", 0⟩]) ∧
    (replyingWith statusBadRequest none).transactionCostRequest {} =
      (("", none), [⟨"observer0", 0⟩]) ∧
    (replyingWith statusOK (some "json: cannot unmarshal")).sendTransaction {} =
      ((statusOK, "", some (.other "json: cannot unmarshal")), [⟨"observer0", 0⟩]) := by
  decide

/-- On `replyingWith 400 none` the field check passes, the one observer is the
candidate, and its rejection with a nil error makes status and error disagree. -/
theorem sendTransaction_status_agrees_iff_bad_request :
    (replyingWith statusBadRequest none).checkTransactionFields {} = none ∧
    sendCandidates (replyingWith statusBadRequest none) {} = some [⟨"observer0", 0⟩] ∧
    ¬(((replyingWith statusBadRequest none).sendTransaction {}).1.2.2 = none ↔
      ((replyingWith statusBadRequest none).sendTransaction {}).1.1 = statusOK) :=
  ⟨rfl, rfl, fun hagree =>
    ((sendTransaction_status_agrees_iff (replyingWith statusBadRequest none) {} rfl rfl).mp hagree
      ⟨"observer0", 0⟩ rfl rfl rfl).2 rfl⟩

end ChainProxy.Analysis
