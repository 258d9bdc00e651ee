import Mathlib.Data.List.AList

/-!
# The data of the proxy's transaction path

Observers, transactions, the reply shapes an observer's REST API is decoded into,
and the errors the processors return, as the `process` package of the proxy
declares or uses them (`process/validatorStatisticsProcessorAuction.go`, which
holds the auction processor, the transaction processor and its tests).

Go's `error` values built outside this package (by the address codec, the shard
coordinator or the HTTP client) are kept as their message, `ProxyError.other`;
the package's own sentinel errors are constructors of their own, so a theorem can
tell `ErrSendingRequest` from anything an observer returned.

Go maps from shard ids to slices are `ShardMap`s: Mathlib's `AList`, whose keys
are unique by construction. A `range` over a Go map visits its entries in an
order the runtime picks; the model takes that order as a `RangeOrder` argument,
a permutation of the entries.
-/

set_option autoImplicit false

namespace ChainProxy

/-! ## Constants -/

/-- `http.StatusOK`. -/
def statusOK : Int := 200

/-- `http.StatusBadRequest`. -/
def statusBadRequest : Int := 400

/-- `http.StatusNotFound`: the observer is down. -/
def statusNotFound : Int := 404

/-- `http.StatusRequestTimeout`: the observer did not answer in time. -/
def statusRequestTimeout : Int := 408

/-- `http.StatusInternalServerError`. -/
def statusInternalServerError : Int := 500

/-- `core.MetachainShardId`, `uint32(0xFFFFFFFF)`. -/
def metachainShardId : UInt32 := 4294967295

/-- `TransactionPath`, the transaction group path of the node. -/
def transactionPath : String := "/transaction/"

/-- `TransactionSendPath`. -/
def transactionSendPath : String := "/transaction/send"

/-- `MultipleTransactionsPath`. -/
def multipleTransactionsPath : String := "/transaction/send-multiple"

/-- `TransactionCostPath`. -/
def transactionCostPath : String := "/transaction/cost"

/-- `UnknownStatusTx`, what an observer answers when it does not know the transaction. -/
def unknownStatusTx : String := "unknown"

/-! ## Observers and transactions -/

/-- `data.NodeData`: one observer of the pool. -/
structure NodeData where
  address : String
  shardId : UInt32
  deriving DecidableEq, Repr

/-- The transaction the proxy receives and relays. `data.Transaction`, the type
the functions take, is not in the sources; this record follows `erdTransaction`,
the file's own transaction record, field for field. The tests also set `ChainID`
and `Version` on `data.Transaction`; no function of the file reads them. Only
`sender`, `receiver` and `signature` are read by the proxy; the whole record is
the body posted to an observer. -/
structure Transaction where
  nonce : UInt64 := 0
  value : String := ""
  receiver : String := ""
  sender : String := ""
  gasPrice : UInt64 := 0
  gasLimit : UInt64 := 0
  data : String := ""
  signature : String := ""
  deriving DecidableEq, Repr

/-! ## Reply shapes

Each is the zero value the Go code allocates (`&data.ResponseTransaction{}`) when
every field takes its default. -/

/-- `data.ResponseTransaction`: the reply to `/transaction/send`. -/
structure ResponseTransaction where
  txHash : String := ""
  deriving DecidableEq, Repr

/-- `data.ResponseMultiTransactions`: the reply to `/transaction/send-multiple`.
The per-index hash map it also carries is never read here. -/
structure ResponseMultiTransactions where
  numOfTxs : UInt64 := 0
  deriving DecidableEq, Repr

/-- `data.ResponseTxCost`: the reply to `/transaction/cost`. -/
structure ResponseTxCost where
  txCost : UInt64 := 0
  deriving DecidableEq, Repr

/-- `data.ResponseTxStatus`: the reply to `/transaction/{hash}/status`. -/
structure ResponseTxStatus where
  status : String := ""
  deriving DecidableEq, Repr

/-- `transaction.TxResponse`: the reply to `/transaction/{hash}`, relayed
unread, kept as the key/value pairs of its body. -/
structure TxResponse where
  fields : List (String × String) := []
  deriving DecidableEq, Repr

/-- What one POST to an observer gives back: the HTTP status, the transport or
decoding error (`nil` is `none`), and the response shape after the call wrote
into it. -/
structure Reply (ρ : Type) where
  respCode : Int
  err : Option String
  response : ρ
  deriving DecidableEq, Repr

/-- What one GET of the transaction processor's `Processor` gives back: that
interface returns the error alone, and the response shape after the call. -/
structure GetReply (ρ : Type) where
  err : Option String
  response : ρ
  deriving DecidableEq, Repr

/-! ## Errors -/

/-- The sentinels of `api/errors` that `checkTransactionFields` puts in the
`Message` of an `ErrInvalidTxFields`. -/
inductive ApiError
  | errInvalidSenderAddress
  | errInvalidReceiverAddress
  | errInvalidSignatureHex
  deriving DecidableEq, Repr

/-- The errors the processors return. -/
inductive ProxyError
  /-- `&errors.ErrInvalidTxFields{Message, Reason}`. -/
  | errInvalidTxFields (message : ApiError) (reason : String)
  /-- `ErrSendingRequest`: every observer was down or timed out. -/
  | errSendingRequest
  /-- `ErrNoValidTransactionToSend`. -/
  | errNoValidTransactionToSend
  /-- `ErrMissingObserver`. -/
  | errMissingObserver
  /-- `ErrCannotGetTransactionStatus`. -/
  | errCannotGetTransactionStatus
  /-- `ErrAuctionListNotAvailable`. -/
  | errAuctionListNotAvailable
  /-- An error value made outside the package and returned as it came. -/
  | other (message : String)
  deriving DecidableEq, Repr

/-! ## Go maps keyed by shard id -/

/-- A Go `map[uint32][]α`. -/
abbrev ShardMap (α : Type) := AList (fun _ : UInt32 => List α)

/-- One entry of a `ShardMap`, as a `range` statement yields it. -/
abbrev ShardEntry (α : Type) := Σ _ : UInt32, List α

namespace ShardMap

variable {α : Type}

/-- `m[k]`: the slice stored under `k`, or the nil slice. -/
def get (m : ShardMap α) (k : UInt32) : List α := (m.lookup k).getD []

/-- `m[k] = append(m[k], x)`. -/
def appendTo (m : ShardMap α) (k : UInt32) (x : α) : ShardMap α :=
  m.insert k (m.get k ++ [x])

/-- INTERNAL: the empty map has no slice. -/
@[simp] theorem get_empty (k : UInt32) : (∅ : ShardMap α).get k = [] := rfl

/-- INTERNAL: an append extends the slice of its key and no other. -/
@[simp] theorem get_appendTo (m : ShardMap α) (k k' : UInt32) (x : α) :
    (m.appendTo k x).get k' = if k' = k then m.get k ++ [x] else m.get k' := by
  unfold appendTo get
  split_ifs with h
  · subst h; simp
  · rw [AList.lookup_insert_ne h]

/-- INTERNAL: an append adds its key. -/
@[simp] theorem mem_appendTo (m : ShardMap α) (k k' : UInt32) (x : α) :
    k' ∈ m.appendTo k x ↔ k' = k ∨ k' ∈ m := AList.mem_insert _

end ShardMap

/-- The order in which one `range` statement visits a map's entries: Go leaves it
unspecified and randomizes it, so it is any permutation of the entries. -/
structure RangeOrder (ε : Type) where
  arrange : List ε → List ε
  perm : ∀ l, (arrange l).Perm l

/-- Visiting the entries in the order the map stores them. -/
def RangeOrder.stored {ε : Type} : RangeOrder ε := ⟨id, fun _ => List.Perm.refl _⟩

/-- The entries of `m` in the order `order` visits them. -/
def ShardMap.range {α : Type} (m : ShardMap α) (order : RangeOrder (ShardEntry α)) :
    List (ShardEntry α) :=
  order.arrange m.entries

end ChainProxy
