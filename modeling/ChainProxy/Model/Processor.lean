import ChainProxy.Model.Codec

/-!
# The collaborators of `TransactionProcessor`

`TransactionProcessor` holds a `Processor` (the shard coordinator, the observer
pool and the HTTP client of the proxy) and a public-key converter. Both are
injected, so the model takes every function of theirs as a field, with no
assumption on what it returns: a theorem over all `Processor`s holds for every
observer topology and every pattern of observer replies.

Go's `CallPostRestEndPoint(address, path, data, response)` takes the body and the
response shape as `interface{}`; `PostPath` names the endpoint, and with it the
type of the body and of the shape. A call is a transformer of the shape the
caller hands it: the processor always hands it a fresh zero value.
-/

set_option autoImplicit false

namespace ChainProxy

/-- `state.PubkeyConverter`: only `Decode` is used. -/
structure PubkeyConverter where
  decode : String → Except String (List UInt8)

/-- The observer endpoints the transaction processor posts to. -/
inductive PostPath
  | transactionSend
  | multipleTransactions
  | transactionCost
  deriving DecidableEq, Repr

/-- The path constant passed with each endpoint. -/
def PostPath.path : PostPath → String
  | .transactionSend => transactionSendPath
  | .multipleTransactions => multipleTransactionsPath
  | .transactionCost => transactionCostPath

/-- The body posted to each endpoint. -/
@[reducible] def PostPath.Body : PostPath → Type
  | .transactionSend => Transaction
  | .multipleTransactions => List Transaction
  | .transactionCost => Transaction

/-- The response shape each endpoint's reply is decoded into. -/
@[reducible] def PostPath.Response : PostPath → Type
  | .transactionSend => ResponseTransaction
  | .multipleTransactions => ResponseMultiTransactions
  | .transactionCost => ResponseTxCost

/-- The observer endpoints the transaction processor reads from. -/
inductive GetPath
  | transaction (txHash : String)
  | transactionStatus (txHash : String)
  deriving DecidableEq, Repr

/-- The path built for each endpoint. -/
def GetPath.path : GetPath → String
  | .transaction txHash => transactionPath ++ txHash
  | .transactionStatus txHash => transactionPath ++ txHash ++ "/status"

/-- The response shape each endpoint's reply is decoded into. -/
@[reducible] def GetPath.Response : GetPath → Type
  | .transaction _ => TxResponse
  | .transactionStatus _ => ResponseTxStatus

/-- The `Processor` interface, as much of it as the transaction processor calls. -/
structure Processor where
  computeShardId : List UInt8 → Except String UInt32
  getObservers : UInt32 → Except String (List NodeData)
  getAllObservers : List NodeData
  callPostRestEndPoint :
    String → (path : PostPath) → path.Body → path.Response → Reply path.Response
  callGetRestEndPoint : String → (path : GetPath) → path.Response → GetReply path.Response

/-- `TransactionProcessor`: a `Processor` and the address codec. -/
structure TransactionProcessor where
  proc : Processor
  pubKeyConverter : PubkeyConverter

namespace TransactionProcessor

/-- `checkTransactionFields`: the sender and the receiver must decode with the
address codec and the signature must be hex; the first field that does not is
named in the error's message, with the decoder's error as the reason.
Source: `process/validatorStatisticsProcessorAuction.go:312-338`. -/
def checkTransactionFields (tp : TransactionProcessor) (tx : Transaction) :
    Option ProxyError :=
  match tp.pubKeyConverter.decode tx.sender with
  | .error err => some (.errInvalidTxFields .errInvalidSenderAddress err)
  | .ok _ =>
    match tp.pubKeyConverter.decode tx.receiver with
    | .error err => some (.errInvalidTxFields .errInvalidReceiverAddress err)
    | .ok _ =>
      match hexDecodeString tx.signature with
      | .error err => some (.errInvalidTxFields .errInvalidSignatureHex err.error)
      | .ok _ => none

end TransactionProcessor

end ChainProxy
