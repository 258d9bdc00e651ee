import ChainProxy.Model.Codec

/-!
# The HTTP handlers

The `gin` handlers of three route groups: `vmValues` (read-only smart-contract
calls), `address` (account queries) and the network group. A handler reads the
facade the router put in the request's context, the URL parameters and the JSON
body, calls the facade once, and writes one JSON reply. Go's exported and
unexported names in these packages differ only by case (`GetAccount` and
`getAccount`), so here they keep Go's case.

The sentinel errors of `api/errors` and `process` are not in the sources: their
texts are the fields of `ErrorTexts`. The return codes of `data` are modelled
from the spec.
-/

set_option autoImplicit false

namespace ChainProxy

/-- Modelled from the spec: `data.ReturnCodeRequestError`, the `code` of the reply
to a request that is rejected. -/
def returnCodeRequestError : String := "bad_request"

/-- Modelled from the spec: `data.ReturnCodeInternalError`, the `code` of the reply
to a request that fails inside the proxy. -/
def returnCodeInternalError : String := "internal_issue"

/-- The texts of the sentinel errors the handlers print. -/
structure ErrorTexts where
  errInvalidAppContext : String
  errGetValueForKey : String
  errEmptyAddress : String
  errEmptyKey : String
  errInvalidShardId : String

/-- A value set on a request's context: the facade, or a value of another type. -/
inductive Stored (φ : Type) where
  | facade (f : φ)
  | other

/-- A `gin.Context`, as the handlers read it. -/
structure GinContext (φ β : Type) where
  /-- The values set on the context, by key. -/
  keys : String → Option (Stored φ)
  /-- `c.Param`. -/
  param : String → String
  /-- `c.ShouldBindJSON`: the body bound to a `β`, or the binding error's text. -/
  bindJSON : Except String β

/-- `c.MustGet(key).(FacadeHandler)`: `none` when `MustGet` panics on a key never
set; otherwise the facade, when the value set is one. -/
def GinContext.mustGet {φ β : Type} (c : GinContext φ β) (key : String) : Option (Option φ) :=
  (c.keys key).map fun
    | .facade f => some f
    | .other => none

/-- What a handler writes. -/
inductive GinResponse (ε α : Type) where
  /-- `c.JSON(status, gin.H{"error": message})`. -/
  | error (status : Int) (message : ε)
  /-- `c.JSON(status, gin.H{key: value})`. -/
  | keyed (status : Int) (key : String) (value : α)
  /-- `c.JSON(status, value)`. -/
  | plain (status : Int) (value : α)
  /-- `shared.RespondWith(c, status, nil, error, code)`. -/
  | generic (status : Int) (error : String) (code : String)
  /-- The handler panicked before writing a reply. -/
  | panicked
  deriving DecidableEq, Repr

/-! ## `vmValues` -/

namespace VmValues

/-- `VmValueRequest`, the JSON body of the three routes. -/
structure VmValueRequest where
  scAddress : String := ""
  funcName : String := ""
  args : List String := []
  deriving DecidableEq, Repr

/-- The `FacadeHandler` of `vmValues`, through the one method the handlers call. -/
structure FacadeHandler where
  getVmValue : String → String → String → List (List UInt8) → Except String (List UInt8)

/-- The loop of `vmValueFromAccount` over the arguments: each is hex-decoded, and
the first that is not valid hex ends the call with a message naming it.
Source: `unnamed/part_000:40-50`. -/
def decodeArgs : List String → List (List UInt8) → Except String (List (List UInt8))
  | [], argsBuff => .ok argsBuff
  | arg :: rest, argsBuff =>
    match hexDecodeString arg with
    | .error err => .error ("'" ++ arg ++ "' is not a valid hex string: " ++ err.error)
    | .ok buff => decodeArgs rest (argsBuff ++ [buff])

/-- `vmValueFromAccount`: the facade, the body, the arguments, then the facade's
call; `none` when `MustGet` panics.
Source: `unnamed/part_000:28-58`. -/
def vmValueFromAccount (texts : ErrorTexts) (c : GinContext FacadeHandler VmValueRequest)
    (resType : String) : Option (Option (List UInt8) × Int × Option String) :=
  (c.mustGet "elrondProxyFacade").map fun
    | none => (none, statusInternalServerError, some texts.errInvalidAppContext)
    | some ef =>
      match c.bindJSON with
      | .error err => (none, statusBadRequest, some err)
      | .ok gval =>
        match decodeArgs gval.args [] with
        | .error err => (none, statusBadRequest, some err)
        | .ok argsBuff =>
          match ef.getVmValue resType gval.scAddress gval.funcName argsBuff with
          | .error err => (none, statusBadRequest, some err)
          | .ok returnedData => (some returnedData, statusOK, none)

/-- The shape `GetVmValueAsHexBytes` and `GetVmValueAsString` share: an error is
written with the status `vmValueFromAccount` gives and a prefix naming the
handler; data is rendered and written with `200`. Replies are Go strings, kept as
their bytes. -/
def respondVmValue (texts : ErrorTexts) (c : GinContext FacadeHandler VmValueRequest)
    (resType context : String) (render : List UInt8 → List UInt8) :
    GinResponse (List UInt8) (List UInt8) :=
  match vmValueFromAccount texts c resType with
  | none => .panicked
  | some (_, status, some err) => .error status (goBytes (context ++ ": " ++ err))
  | some (data, _, none) => .keyed statusOK "data" (render (data.getD []))

/-- `GetVmValueAsHexBytes`. Source: `unnamed/part_000:61-69`. -/
def GetVmValueAsHexBytes (texts : ErrorTexts) (c : GinContext FacadeHandler VmValueRequest) :
    GinResponse (List UInt8) (List UInt8) :=
  respondVmValue texts c "hex" "get vm value as hex bytes" hexEncodeToString

/-- The value of a non-empty run of ASCII decimal digits. -/
def decimalDigits (s : List UInt8) : Option Nat :=
  if s ≠ [] ∧ s.all (fun b => 48 ≤ b ∧ b ≤ 57) then
    some (s.foldl (fun n b => n * 10 + (b.toNat - 48)) 0)
  else none

/-- `new(big.Int).SetString(s, 10)`: an optional sign, then decimal digits and
nothing else. -/
def bigIntSetString : List UInt8 → Option Int
  | [] => none
  | b :: digits =>
    if b = 45 then (decimalDigits digits).map fun n => -(n : Int)
    else if b = 43 then (decimalDigits digits).map Int.ofNat
    else (decimalDigits (b :: digits)).map Int.ofNat

/-- `GetVmValueAsBigInt`: as its two siblings, and then the data must parse as a
decimal integer; when it does not, the error is written with the `status` that
`vmValueFromAccount` returned with the data.
Source: `unnamed/part_000:83-97`. -/
def GetVmValueAsBigInt (texts : ErrorTexts) (c : GinContext FacadeHandler VmValueRequest) :
    GinResponse (List UInt8) (List UInt8) :=
  match vmValueFromAccount texts c "int" with
  | none => .panicked
  | some (_, status, some err) => .error status (goBytes ("get vm value as big int: " ++ err))
  | some (data, status, none) =>
    match bigIntSetString (data.getD []) with
    | none =>
      .error status (goBytes "value " ++ data.getD [] ++ goBytes " could not be converted to a big int")
    | some value => .keyed statusOK "data" (goBytes (toString value))

end VmValues

/-! ## `address` -/

namespace Address

/-- The `FacadeHandler` of `address`, through the methods the handlers call.
`data.Account` and `data.DatabaseTransaction` are not in the sources; they are
type parameters. -/
structure FacadeHandler (Account DatabaseTransaction : Type) where
  getAccount : String → Except String Account
  getTransactions : String → Except String (List DatabaseTransaction)
  getValueForKey : String → String → Except String String

section Handlers

variable {Account DatabaseTransaction : Type} (texts : ErrorTexts)

/-- The shape `getAccount` and `getTransactions` share: the facade, then one call
on the `address` parameter, whose error is answered with `500`. -/
def fetchByAddress {α : Type}
    (call : FacadeHandler Account DatabaseTransaction → String → Except String α)
    (c : GinContext (FacadeHandler Account DatabaseTransaction) Unit) :
    Option (Option α × Int × Option String) :=
  (c.mustGet "elrondProxyFacade").map fun
    | none => (none, statusInternalServerError, some texts.errInvalidAppContext)
    | some epf =>
      match call epf (c.param "address") with
      | .error err => (none, statusInternalServerError, some err)
      | .ok v => (some v, statusOK, none)

/-- `getAccount`. Source: `unnamed/part_003:21-34`. -/
def getAccount (c : GinContext (FacadeHandler Account DatabaseTransaction) Unit) :
    Option (Option Account × Int × Option String) :=
  fetchByAddress texts FacadeHandler.getAccount c

/-- `getTransactions`. Source: `unnamed/part_003:36-50`. -/
def getTransactions (c : GinContext (FacadeHandler Account DatabaseTransaction) Unit) :
    Option (Option (List DatabaseTransaction) × Int × Option String) :=
  fetchByAddress texts FacadeHandler.getTransactions c

/-- The shape of `GetAccount`, `GetBalance`, `GetNonce` and `GetTransactions`:
an error is written with its status, a value under `key` with `200`. A nil
value with a nil error is not returned by the helpers; reading a field of it
would panic. -/
def respondWith {α β : Type} (fetched : Option (Option α × Int × Option String))
    (key : String) (render : α → β) : GinResponse String β :=
  match fetched with
  | none => .panicked
  | some (_, status, some err) => .error status err
  | some (some v, _, none) => .keyed statusOK key (render v)
  | some (none, _, none) => .panicked

/-- `GetAccount`. Source: `unnamed/part_003:53-61`. -/
def GetAccount (c : GinContext (FacadeHandler Account DatabaseTransaction) Unit) :
    GinResponse String Account :=
  respondWith (getAccount texts c) "account" id

/-- `GetBalance`, with `Balance` the field it reads from the account.
Source: `unnamed/part_003:64-72`. -/
def GetBalance {Balance : Type} (balanceOf : Account → Balance)
    (c : GinContext (FacadeHandler Account DatabaseTransaction) Unit) :
    GinResponse String Balance :=
  respondWith (getAccount texts c) "balance" balanceOf

/-- `GetNonce`, with `Nonce` the field it reads from the account.
Source: `unnamed/part_003:75-83`. -/
def GetNonce (nonceOf : Account → UInt64)
    (c : GinContext (FacadeHandler Account DatabaseTransaction) Unit) :
    GinResponse String UInt64 :=
  respondWith (getAccount texts c) "nonce" nonceOf

/-- `GetTransactions`. Source: `unnamed/part_003:86-94`. -/
def GetTransactions (c : GinContext (FacadeHandler Account DatabaseTransaction) Unit) :
    GinResponse String (List DatabaseTransaction) :=
  respondWith (getTransactions texts c) "transactions" id

/-- `GetValueForKey`: unlike its siblings it reads the facade under
`"elrondFacade"`, writes its errors itself, and guards the address twice where the
second guard names the key.
Source: `unnamed/part_003:97-123`. -/
def GetValueForKey (c : GinContext (FacadeHandler Account DatabaseTransaction) Unit) :
    GinResponse String String :=
  match c.mustGet "elrondFacade" with
  | none => .panicked
  | some none => .error statusInternalServerError texts.errInvalidAppContext
  | some (some ef) =>
    let addr := c.param "address"
    if addr = "" then
      .error statusBadRequest (texts.errGetValueForKey ++ ": " ++ texts.errEmptyAddress)
    else
      let key := c.param "key"
      if addr = "" then
        .error statusBadRequest (texts.errGetValueForKey ++ ": " ++ texts.errEmptyKey)
      else
        match ef.getValueForKey addr key with
        | .error err =>
          .error statusInternalServerError (texts.errGetValueForKey ++ ": " ++ err)
        | .ok value => .keyed statusOK "value" value

end Handlers

end Address

/-! ## The network group -/

namespace Groups

/-- `NetworkFacadeHandler`, through the methods the group calls; the metrics are
relayed as received, of type `ν`. -/
structure NetworkFacadeHandler (ν : Type) where
  getNetworkStatusMetrics : UInt32 → Except String ν
  getNetworkConfigMetrics : Except String ν
  getEconomicsDataMetrics : Except String ν
  getAllIssuedESDTs : Except String ν
  getEnableEpochsMetrics : Except String ν

/-- The handlers of the group. -/
inductive NetworkHandler where
  | getNetworkStatusData
  | getNetworkConfigData
  | getEconomicsData
  | getEsdts
  | getEnableEpochs
  deriving DecidableEq, Repr

/-- `data.EndpointHandlerData`. -/
structure EndpointHandlerData where
  path : String
  handler : NetworkHandler
  method : String
  deriving DecidableEq, Repr

/-- `networkGroup`. -/
structure NetworkGroup (ν : Type) where
  facade : NetworkFacadeHandler ν
  endpoints : List EndpointHandlerData

/-- The error of `NewNetworkGroup`. -/
inductive GroupsError where
  | errWrongTypeAssertion
  deriving DecidableEq, Repr

/-- `NewNetworkGroup`: `facadeHandler` is the facade when it is a
`NetworkFacadeHandler`.
Source: `api/groups/baseNetworkGroup.go:18-39`. -/
def NewNetworkGroup {ν : Type} (facadeHandler : Option (NetworkFacadeHandler ν)) :
    Except GroupsError (NetworkGroup ν) :=
  match facadeHandler with
  | none => .error .errWrongTypeAssertion
  | some facade =>
    .ok { facade,
          endpoints :=
            [{ path := "/status/:shard", handler := .getNetworkStatusData, method := "GET" },
              { path := "/config", handler := .getNetworkConfigData, method := "GET" },
              { path := "/economics", handler := .getEconomicsData, method := "GET" },
              { path := "/esdts", handler := .getEsdts, method := "GET" },
              { path := "/enable-epochs", handler := .getEnableEpochs, method := "GET" }] }

/-- The shape of the group's handlers once the facade is called: an error is
written with `500` and `internal_issue`, metrics as received with `200`. -/
def respondWithMetrics {ν : Type} (results : Except String ν) : GinResponse String ν :=
  match results with
  | .error err => .generic statusInternalServerError err returnCodeInternalError
  | .ok v => .plain statusOK v

variable {ν : Type} (group : NetworkGroup ν)

/-- `getNetworkStatusData`, with `shardIDUint` what `shared.FetchShardIDFromRequest`
makes of the request (not in the sources).
Source: `api/groups/baseNetworkGroup.go:42-56`. -/
def getNetworkStatusData (texts : ErrorTexts) (shardIDUint : Except String UInt32) :
    GinResponse String ν :=
  match shardIDUint with
  | .error _ => .generic statusBadRequest texts.errInvalidShardId returnCodeRequestError
  | .ok shardIDUint => respondWithMetrics (group.facade.getNetworkStatusMetrics shardIDUint)

/-- `getNetworkConfigData`. Source: `api/groups/baseNetworkGroup.go:59-67`. -/
def getNetworkConfigData : GinResponse String ν :=
  respondWithMetrics group.facade.getNetworkConfigMetrics

/-- `getEconomicsData`. Source: `api/groups/baseNetworkGroup.go:70-78`. -/
def getEconomicsData : GinResponse String ν :=
  respondWithMetrics group.facade.getEconomicsDataMetrics

/-- `getEsdts`. Source: `api/groups/baseNetworkGroup.go:81-89`. -/
def getEsdts : GinResponse String ν :=
  respondWithMetrics group.facade.getAllIssuedESDTs

/-- `getEnableEpochs`. Source: `api/groups/baseNetworkGroup.go:91-99`. -/
def getEnableEpochs : GinResponse String ν :=
  respondWithMetrics group.facade.getEnableEpochsMetrics

/-- The handler an endpoint runs. -/
def handle (texts : ErrorTexts) (shardIDUint : Except String UInt32) :
    NetworkHandler → GinResponse String ν
  | .getNetworkStatusData => getNetworkStatusData group texts shardIDUint
  | .getNetworkConfigData => getNetworkConfigData group
  | .getEconomicsData => getEconomicsData group
  | .getEsdts => getEsdts group
  | .getEnableEpochs => getEnableEpochs group

end Groups

end ChainProxy
