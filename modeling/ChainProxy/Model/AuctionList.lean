import ChainProxy.Model.Data

/-!
# `ValidatorStatisticsProcessor.getAuctionListFromApi`

The auction list is read from the metachain's observers, one after the other,
until one call returns a nil error. Unlike the transaction processor's loops,
this one declares its response shape `valStatsResponse` once, before the loop,
and hands the same shape to every call: a call is a transformer of the shape it
is given, and a failed call may have written part of it (a JSON body that
decodes field by field until a type error).

The reply types and the path of this endpoint are not in the sources; they are
modelled from the spec.
-/

set_option autoImplicit false

namespace ChainProxy

/-- Modelled from the spec: `auctionListPath`, the observer endpoint
`GET /validator/auction`. -/
def auctionListPath : String := "/validator/auction"

/-- Modelled from the spec: `data.AuctionListResponse`, the `data` of the
observer's reply. Its entries are kept as their JSON text: the proxy relays them
unread. -/
structure AuctionListResponse where
  auctionListValidators : List String := []
  deriving DecidableEq, Repr

/-- Modelled from the spec: `data.AuctionListAPIResponse`, the observer's reply
envelope `{ data, error, code }`. -/
structure AuctionListAPIResponse where
  data : AuctionListResponse := {}
  error : String := ""
  code : String := ""
  deriving DecidableEq, Repr

/-- `ValidatorStatisticsProcessor`, through the two methods of its `proc` that
`getAuctionListFromApi` calls. In the version of the `Processor` interface this
file is written against, a GET also returns the HTTP status. -/
structure ValidatorStatisticsProcessor where
  getObservers : UInt32 → Except String (List NodeData)
  callGetRestEndPoint : String → String → AuctionListAPIResponse → Reply AuctionListAPIResponse

namespace ValidatorStatisticsProcessor

variable (vsp : ValidatorStatisticsProcessor)

/-- The loop of `getAuctionListFromApi`, with the shape `valStatsResponse` as it
stands before the next call: the first call with a nil error gives the list.
Source: `process/validatorStatisticsProcessorAuction.go:21-31`. -/
def fetchAuctionList :
    List NodeData → AuctionListAPIResponse → Except ProxyError AuctionListResponse
  | [], _ => .error .errAuctionListNotAvailable
  | observer :: rest, valStatsResponse =>
    let reply := vsp.callGetRestEndPoint observer.address auctionListPath valStatsResponse
    match reply.err with
    | none => .ok reply.response.data
    | some _ => fetchAuctionList rest reply.response

/-- `getAuctionListFromApi`: the metachain's observers, from a zero-valued
`valStatsResponse`.
Source: `process/validatorStatisticsProcessorAuction.go:14-32`. -/
def getAuctionListFromApi : Except ProxyError AuctionListResponse :=
  match vsp.getObservers metachainShardId with
  | .error errFetchObs => .error (.other errFetchObs)
  | .ok observers => vsp.fetchAuctionList observers {}

/-- `GetAuctionList`: no cache yet. -/
def getAuctionList : Except ProxyError AuctionListResponse := vsp.getAuctionListFromApi

end ValidatorStatisticsProcessor

end ChainProxy
