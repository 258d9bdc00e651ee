import ChainProxy.Model.Processor

/-!
# `TransactionProcessor`

The operations of the proxy's transaction processor, one definition per Go
function (`process/validatorStatisticsProcessorAuction.go:99-310`), each loop a
structural recursion over the list it ranges over.

An operation that posts to observers also returns the posts it made, in order:
the observers contacted (with the batch, for `SendMultipleTransactions`). A
`range` over a Go map takes its visiting order as a `RangeOrder` argument, after
the Go arguments. `parseTxStatusResponses` indexes `responses[0]`; an index out of
range is a runtime panic, which the model returns as `none`.

Logging is not modelled: no log call changes what an operation returns.
-/

set_option autoImplicit false

namespace ChainProxy

/-- Where the observer loop of `SendTransaction` and `TransactionCostRequest`
stopped. -/
inductive LoopExit (ρ : Type)
  /-- An observer answered `200` with a nil error. -/
  | accepted (respCode : Int) (response : ρ)
  /-- An observer answered neither `200` with a nil error nor `404` nor `408`:
  "the request was bad". -/
  | rejected (respCode : Int) (err : Option String)
  /-- Every observer was down or did not answer in time. -/
  | exhausted
  deriving DecidableEq, Repr

/-- The observer loop shared by `SendTransaction` and `TransactionCostRequest`:
post to each observer in turn, return on a `200` with a nil error, skip an
observer that answers `404` or `408`, and return on any other answer. Gives where
it stopped and the observers posted to, in order.
Source: `process/validatorStatisticsProcessorAuction.go:121-144, 203-228`. -/
def tryObservers {ρ : Type} (call : NodeData → Reply ρ) :
    List NodeData → LoopExit ρ × List NodeData
  | [] => (.exhausted, [])
  | observer :: rest =>
    let reply := call observer
    if reply.respCode = statusOK ∧ reply.err = none then
      (.accepted reply.respCode reply.response, [observer])
    else if reply.respCode = statusNotFound ∨ reply.respCode = statusRequestTimeout then
      let next := tryObservers call rest
      (next.1, observer :: next.2)
    else
      (.rejected reply.respCode reply.err, [observer])

/-- What `SendTransaction` returns for where its observer loop stopped: the
accepting observer's status and hash; the status and error of a bad request; or
`ErrSendingRequest` at `500`. -/
def sendTransactionResult : LoopExit ResponseTransaction → Int × String × Option ProxyError
  | .accepted respCode txResponse => (respCode, txResponse.txHash, none)
  | .rejected respCode err => (respCode, "", err.map .other)
  | .exhausted => (statusInternalServerError, "", some .errSendingRequest)

/-- What `TransactionCostRequest` returns for where its observer loop stopped:
the accepting observer's gas cost, `strconv.Itoa(int(TxCost))`; the error of a
bad request; or `ErrSendingRequest`. -/
def transactionCostResult : LoopExit ResponseTxCost → String × Option ProxyError
  | .accepted _ txCostResponse => (strconvItoa (goInt txCostResponse.txCost), none)
  | .rejected _ err => ("", err.map .other)
  | .exhausted => ("", some .errSendingRequest)

namespace TransactionProcessor

variable (tp : TransactionProcessor)

/-- `SendTransaction`: check the fields, find the sender's shard, and relay the
transaction to that shard's observers through `tryObservers`. Returns the HTTP
status, the transaction hash and the error, with the observers posted to.
Source: `process/validatorStatisticsProcessorAuction.go:99-145`. -/
def sendTransaction (tx : Transaction) :
    (Int × String × Option ProxyError) × List NodeData :=
  match tp.checkTransactionFields tx with
  | some err => ((statusBadRequest, "", some err), [])
  | none =>
  match tp.pubKeyConverter.decode tx.sender with
  | .error err => ((statusBadRequest, "", some (.other err)), [])
  | .ok senderBuff =>
  match tp.proc.computeShardId senderBuff with
  | .error err => ((statusInternalServerError, "", some (.other err)), [])
  | .ok shardId =>
  match tp.proc.getObservers shardId with
  | .error err => ((statusInternalServerError, "", some (.other err)), [])
  | .ok observers =>
    let attempt := tryObservers
      (fun observer => tp.proc.callPostRestEndPoint observer.address .transactionSend tx {})
      observers
    (sendTransactionResult attempt.1, attempt.2)

/-- `getTxsByShardId`: the transactions grouped by the shard of their decoded
sender; a transaction whose sender does not decode, or whose shard cannot be
computed, is left out.
Source: `process/validatorStatisticsProcessorAuction.go:293-310`. -/
def getTxsByShardId (txs : List Transaction) : ShardMap Transaction :=
  txs.foldl (fun txsMap tx =>
    match tp.pubKeyConverter.decode tx.sender with
    | .error _ => txsMap
    | .ok senderBytes =>
      match tp.proc.computeShardId senderBytes with
      | .error _ => txsMap
      | .ok senderShardId => txsMap.appendTo senderShardId tx) ∅

/-- The inner loop of `SendMultipleTransactions`: post one shard's batch to its
observers in turn and `break` at the first `200` with a nil error. Gives that
reply's `NumOfTxs`, if any observer accepted, and the posts made.
Source: `process/validatorStatisticsProcessorAuction.go:174-188`. -/
def postTxsToObservers (txsInShard : List Transaction) :
    List NodeData → Option UInt64 × List (NodeData × List Transaction)
  | [] => (none, [])
  | observer :: rest =>
    let reply := tp.proc.callPostRestEndPoint observer.address .multipleTransactions
      txsInShard {}
    if reply.respCode = statusOK ∧ reply.err = none then
      (some reply.response.numOfTxs, [(observer, txsInShard)])
    else
      let next := postTxsToObservers txsInShard rest
      (next.1, (observer, txsInShard) :: next.2)

/-- The outer loop of `SendMultipleTransactions` over the shard buckets, in the
order the `range` visits them, with the running `totalTxsSent`: a shard whose
observers cannot be fetched ends the call with `ErrMissingObserver`.
Source: `process/validatorStatisticsProcessorAuction.go:167-191`. -/
def sendTxsByShard :
    List (ShardEntry Transaction) → UInt64 →
      (UInt64 × Option ProxyError) × List (NodeData × List Transaction)
  | [], totalTxsSent => ((totalTxsSent, none), [])
  | ⟨shardId, txsInShard⟩ :: rest, totalTxsSent =>
    match tp.proc.getObservers shardId with
    | .error _ => ((0, some .errMissingObserver), [])
    | .ok observersInShard =>
      let sent := tp.postTxsToObservers txsInShard observersInShard
      let total := match sent.1 with
        | some numOfTxs => totalTxsSent + numOfTxs
        | none => totalTxsSent
      let next := sendTxsByShard rest total
      (next.1, sent.2 ++ next.2)

/-- `txsToSend` of `SendMultipleTransactions`: the transactions that pass
`checkTransactionFields`, in input order; the others are logged and dropped.
Source: `process/validatorStatisticsProcessorAuction.go:150-162`. -/
def txsToSend (txs : List Transaction) : List Transaction :=
  txs.filter (fun tx => (tp.checkTransactionFields tx).isNone)

/-- `SendMultipleTransactions`: group the transactions that pass
`checkTransactionFields` by sender shard, and send each group to its shard;
`order` is how the `range` over the groups visits them.
Source: `process/validatorStatisticsProcessorAuction.go:147-192`. -/
def sendMultipleTransactions (txs : List Transaction)
    (order : RangeOrder (ShardEntry Transaction)) :
    (UInt64 × Option ProxyError) × List (NodeData × List Transaction) :=
  if (tp.txsToSend txs).length = 0 then ((0, some .errNoValidTransactionToSend), [])
  else tp.sendTxsByShard ((tp.getTxsByShardId (tp.txsToSend txs)).range order) 0

/-- `TransactionCostRequest`: check the fields and ask the observers of every
shard but the metachain, through `tryObservers`, for the gas the transaction
costs, printed with `strconv.Itoa(int(TxCost))`.
Source: `process/validatorStatisticsProcessorAuction.go:194-229`. -/
def transactionCostRequest (tx : Transaction) :
    (String × Option ProxyError) × List NodeData :=
  match tp.checkTransactionFields tx with
  | some err => (("", some err), [])
  | none =>
    let attempt := tryObservers
      (fun observer => tp.proc.callPostRestEndPoint observer.address .transactionCost tx {})
      (tp.proc.getAllObservers.filter (fun observer => observer.shardId ≠ metachainShardId))
    (transactionCostResult attempt.1, attempt.2)

/-- The loop of `GetTransaction`, with the last call's error `err`: the first
observer whose call returns a nil error gives the response.
Source: `process/validatorStatisticsProcessorAuction.go:232-247`. -/
def getTransactionFrom (txHash : String) :
    List NodeData → Option ProxyError → Option TxResponse × Option ProxyError
  | [], err => (none, err)
  | observer :: rest, _ =>
    let reply := tp.proc.callGetRestEndPoint observer.address (.transaction txHash) {}
    match reply.err with
    | some err => getTransactionFrom txHash rest (some (.other err))
    | none => (some reply.response, none)

/-- `GetTransaction`: `err` starts nil. -/
def getTransaction (txHash : String) : Option TxResponse × Option ProxyError :=
  tp.getTransactionFrom txHash tp.proc.getAllObservers none

/-- The loop of `GetTransactionStatus`: append each status an observer returns
with a nil error to the slice of the observer's shard.
Source: `process/validatorStatisticsProcessorAuction.go:250-264`. -/
def collectStatuses (txHash : String) : List NodeData → ShardMap String → ShardMap String
  | [], observersResponses => observersResponses
  | observer :: rest, observersResponses =>
    let reply := tp.proc.callGetRestEndPoint observer.address (.transactionStatus txHash) {}
    match reply.err with
    | some _ => collectStatuses txHash rest observersResponses
    | none => collectStatuses txHash rest
        (observersResponses.appendTo observer.shardId reply.response.status)

end TransactionProcessor

/-- The filtering loop of `parseTxStatusResponses`: every status but
`UnknownStatusTx`, appended to the slice of its shard.
Source: `process/validatorStatisticsProcessorAuction.go:267-276`. -/
def collectOkResponses :
    List (ShardEntry String) → ShardMap String → ShardMap String
  | [], okResponses => okResponses
  | ⟨shardID, responses⟩ :: rest, okResponses =>
    collectOkResponses rest (responses.foldl (fun ok response =>
      if response = unknownStatusTx then ok else ok.appendTo shardID response) okResponses)

/-- The inner loop of `parseTxStatusResponses`: every response must equal the
first. -/
def checkAgreement (firstOkResponse : String) : List String → String × Option ProxyError
  | [] => (firstOkResponse, none)
  | response :: rest =>
    if firstOkResponse ≠ response then ("", some .errCannotGetTransactionStatus)
    else checkAgreement firstOkResponse rest

/-- `parseTxStatusResponses`: more than one shard with a known status is a
conflict; otherwise the one shard's statuses must agree, and no known status at
all is `UnknownStatusTx`. `allOrder` and `okOrder` are how the two `range`
statements visit `allResponses` and `okResponses`; `none` is the panic of
`responses[0]` on an empty slice.
Source: `process/validatorStatisticsProcessorAuction.go:266-291`. -/
def parseTxStatusResponses (allResponses : ShardMap String)
    (allOrder okOrder : RangeOrder (ShardEntry String)) :
    Option (String × Option ProxyError) :=
  let okResponses := collectOkResponses (allResponses.range allOrder) ∅
  if okResponses.entries.length > 1 then some ("", some .errCannotGetTransactionStatus)
  else
    match okResponses.range okOrder with
    | [] => some (unknownStatusTx, none)
    | ⟨_, responses⟩ :: _ =>
      match responses with
      | [] => none
      | firstOkResponse :: _ => some (checkAgreement firstOkResponse responses)

/-- `GetTransactionStatus`: every observer's status, grouped by shard, reconciled
by `parseTxStatusResponses`. -/
def TransactionProcessor.getTransactionStatus (tp : TransactionProcessor) (txHash : String)
    (allOrder okOrder : RangeOrder (ShardEntry String)) :
    Option (String × Option ProxyError) :=
  parseTxStatusResponses (tp.collectStatuses txHash tp.proc.getAllObservers ∅) allOrder okOrder

end ChainProxy
