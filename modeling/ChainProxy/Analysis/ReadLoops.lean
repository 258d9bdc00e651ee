import ChainProxy.Model.AuctionList
import ChainProxy.Analysis.TxStatus

/-!
# The read loops: `GetTransaction` and `getAuctionListFromApi`

Both loops call one observer after the other until a call returns a nil error.

`GetTransaction` hands every call a fresh `TxResponse`. Over a non-empty
observer list it answers with exactly one of a response and an error, and the
response is the first successful call's (`getTransaction_of_observers_ne_nil`).
Over the empty list the loop body never runs, and the still-nil `err` comes back
with a nil response (`getTransaction_both_nil_iff`). When every call fails, the
error is the last observer's (`getTransactionFrom_eq`).

`getAuctionListFromApi` hands every call the one `valStatsResponse` declared
before the loop, so what a failed call wrote is still there for the next one.
The list it returns is the data of the shape the failed calls left, after the
successful call (`fetchAuctionList_first_success`), not what that call writes into
a fresh shape. Over every run, a list comes back exactly when some call succeeds
after failed ones, and `ErrAuctionListNotAvailable` exactly when every call fails
(`getAuctionListFromApi_outcomes`).
-/

set_option autoImplicit false

namespace ChainProxy.Analysis

/-! ## `GetTransaction` -/

section GetTransaction

variable (tp : TransactionProcessor) (txHash : String)

/-- The reply of one observer to `GetTransaction`, on a fresh `TxResponse`. -/
def txReply (observer : NodeData) : GetReply TxResponse :=
  tp.proc.callGetRestEndPoint observer.address (.transaction txHash) {}

/-- INTERNAL: one failed call, and the loop goes on with its error. -/
theorem getTransactionFrom_cons_of_err (observer : NodeData) (rest : List NodeData)
    (err : Option ProxyError) (e : String) (h : (txReply tp txHash observer).err = some e) :
    tp.getTransactionFrom txHash (observer :: rest) err =
      tp.getTransactionFrom txHash rest (some (.other e)) := by
  simp only [TransactionProcessor.getTransactionFrom]
  rw [show (tp.proc.callGetRestEndPoint observer.address (.transaction txHash) {}).err = some e
    from h]

/-- INTERNAL: one successful call, and the loop returns its response. -/
theorem getTransactionFrom_cons_of_ok (observer : NodeData) (rest : List NodeData)
    (err : Option ProxyError) (h : (txReply tp txHash observer).err = none) :
    tp.getTransactionFrom txHash (observer :: rest) err =
      (some (txReply tp txHash observer).response, none) := by
  simp only [TransactionProcessor.getTransactionFrom]
  rw [show (tp.proc.callGetRestEndPoint observer.address (.transaction txHash) {}).err = none
    from h]
  rfl

/-- A response only comes from a successful call with every call before it
failed. -/
theorem getTransactionFrom_response (r : TxResponse) :
    ∀ (observers : List NodeData) (err : Option ProxyError),
      (tp.getTransactionFrom txHash observers err).1 = some r →
      ∃ pre observer post, observers = pre ++ observer :: post ∧
        (∀ p ∈ pre, (txReply tp txHash p).err.isSome) ∧
        (txReply tp txHash observer).err = none ∧ r = (txReply tp txHash observer).response
  | [], _, h => by simp [TransactionProcessor.getTransactionFrom] at h
  | observer :: rest, err, h => by
    cases he : (txReply tp txHash observer).err with
    | none =>
      rw [getTransactionFrom_cons_of_ok tp txHash observer rest err he] at h
      exact ⟨[], observer, rest, rfl, by simp, he, (Option.some.inj h).symm⟩
    | some e =>
      rw [getTransactionFrom_cons_of_err tp txHash observer rest err e he] at h
      obtain ⟨pre, o, post, hobs, hpre, hok, hr⟩ := getTransactionFrom_response r rest _ h
      refine ⟨observer :: pre, o, post, by rw [hobs]; rfl, ?_, hok, hr⟩
      simpa [he] using hpre

/-- Over a non-empty list, the loop answers with exactly one of a response and
an error. -/
theorem getTransactionFrom_signals :
    ∀ (observers : List NodeData) (err : Option ProxyError), observers ≠ [] →
      (tp.getTransactionFrom txHash observers err).1.isSome ≠
        (tp.getTransactionFrom txHash observers err).2.isSome
  | [], _, h => absurd rfl h
  | observer :: rest, err, _ => by
    cases he : (txReply tp txHash observer).err with
    | none => simp [getTransactionFrom_cons_of_ok tp txHash observer rest err he]
    | some e =>
      rw [getTransactionFrom_cons_of_err tp txHash observer rest err e he]
      cases rest with
      | nil => simp [TransactionProcessor.getTransactionFrom]
      | cons o rest => exact getTransactionFrom_signals (o :: rest) _ (List.cons_ne_nil _ _)

/-- Over a non-empty observer list, `GetTransaction` returns exactly one of a
response and an error, and a response is the one the first successful call
filled, every observer before it having failed. -/
theorem getTransaction_of_observers_ne_nil (h : tp.proc.getAllObservers ≠ []) :
    (tp.getTransaction txHash).1.isSome ≠ (tp.getTransaction txHash).2.isSome ∧
    ∀ r, (tp.getTransaction txHash).1 = some r →
      ∃ pre observer post, tp.proc.getAllObservers = pre ++ observer :: post ∧
        (∀ p ∈ pre, (txReply tp txHash p).err.isSome) ∧
        (txReply tp txHash observer).err = none ∧ r = (txReply tp txHash observer).response :=
  ⟨getTransactionFrom_signals tp txHash _ none h,
    fun r => getTransactionFrom_response tp txHash r _ none⟩

/-- `GetTransaction` returns a nil response with a nil error exactly when there
are no observers: the loop body never runs and `err` keeps its zero value. -/
theorem getTransaction_both_nil_iff :
    ((tp.getTransaction txHash).1 = none ∧ (tp.getTransaction txHash).2 = none) ↔
      tp.proc.getAllObservers = [] := by
  constructor
  · intro hnil
    by_contra hne
    have hsig := (getTransaction_of_observers_ne_nil tp txHash hne).1
    simp [hnil.1, hnil.2] at hsig
  · intro hobs
    simp [TransactionProcessor.getTransaction, hobs, TransactionProcessor.getTransactionFrom]

/-- INTERNAL: the loop of `GetTransaction` answers with the first successful call's
response, or, when every call fails, with the last call's error, or the `err` it
started with when there is no call. -/
theorem getTransactionFrom_eq (observers : List NodeData) (err : Option ProxyError) :
    tp.getTransactionFrom txHash observers err =
      match observers.find? (fun o => (txReply tp txHash o).err.isNone) with
      | some o => (some (txReply tp txHash o).response, none)
      | none => (none, match observers.getLast? with
        | none => err
        | some o => (txReply tp txHash o).err.map .other) := by
  induction observers generalizing err with
  | nil => rfl
  | cons o rest ih =>
    rcases he : (txReply tp txHash o).err with _ | e
    · simp [getTransactionFrom_cons_of_ok tp txHash o rest err he, he]
    · rw [getTransactionFrom_cons_of_err tp txHash o rest err e he, ih,
        List.find?_cons_of_neg _ (by simp [he])]
      cases rest with
      | nil => simp [he]
      | cons o' rest' =>
        rw [List.getLast?_cons_cons, List.getLast?_eq_getLast _ (List.cons_ne_nil _ _)]

/-- What `GetTransaction` returns, for every observer list and every pattern of
replies: the response of the first observer whose call succeeds, or, when every
call fails, no response and the error of the last observer asked, which is nil
only when there is no observer. -/
theorem getTransaction_eq :
    tp.getTransaction txHash =
      match tp.proc.getAllObservers.find? (fun o => (txReply tp txHash o).err.isNone) with
      | some o => (some (txReply tp txHash o).response, none)
      | none => (none, tp.proc.getAllObservers.getLast?.bind fun o =>
          (txReply tp txHash o).err.map .other) := by
  rw [TransactionProcessor.getTransaction, getTransactionFrom_eq]
  split
  · rfl
  · cases tp.proc.getAllObservers.getLast? <;> rfl

end GetTransaction

end ChainProxy.Analysis

/-! ## `getAuctionListFromApi` -/

namespace ChainProxy.ValidatorStatisticsProcessor

variable (vsp : ValidatorStatisticsProcessor)

/-- The call to one observer with the shape the loop hands it. -/
def auctionReply (observer : NodeData) (valStatsResponse : AuctionListAPIResponse) :
    Reply AuctionListAPIResponse :=
  vsp.callGetRestEndPoint observer.address auctionListPath valStatsResponse

/-- The shape `valStatsResponse` after calls to `observers`, one after the other. -/
def shapeAfter : List NodeData → AuctionListAPIResponse → AuctionListAPIResponse
  | [], valStatsResponse => valStatsResponse
  | observer :: rest, valStatsResponse =>
    shapeAfter rest (vsp.auctionReply observer valStatsResponse).response

/-- Every call to `observers`, each on the shape the one before left, fails. -/
def failsAlong : List NodeData → AuctionListAPIResponse → Bool
  | [], _ => true
  | observer :: rest, valStatsResponse =>
    (vsp.auctionReply observer valStatsResponse).err.isSome &&
      failsAlong rest (vsp.auctionReply observer valStatsResponse).response

/-- INTERNAL: one failed call, and the loop goes on with the shape it left. -/
theorem fetchAuctionList_cons_of_err (observer : NodeData) (rest : List NodeData)
    (valStatsResponse : AuctionListAPIResponse)
    (h : (vsp.auctionReply observer valStatsResponse).err.isSome) :
    vsp.fetchAuctionList (observer :: rest) valStatsResponse =
      vsp.fetchAuctionList rest (vsp.auctionReply observer valStatsResponse).response := by
  obtain ⟨e, he⟩ := Option.isSome_iff_exists.mp h
  simp only [fetchAuctionList]
  rw [show (vsp.callGetRestEndPoint observer.address auctionListPath valStatsResponse).err =
    some e from he]
  rfl

/-- INTERNAL: one successful call, and the loop returns the data of the shape it
left. -/
theorem fetchAuctionList_cons_of_ok (observer : NodeData) (rest : List NodeData)
    (valStatsResponse : AuctionListAPIResponse)
    (h : (vsp.auctionReply observer valStatsResponse).err = none) :
    vsp.fetchAuctionList (observer :: rest) valStatsResponse =
      .ok (vsp.auctionReply observer valStatsResponse).response.data := by
  simp only [fetchAuctionList]
  rw [show (vsp.callGetRestEndPoint observer.address auctionListPath valStatsResponse).err =
    none from h]
  rfl

/-- The loop over failed calls and then the rest is the loop over the rest, from
the shape the failed calls left. -/
theorem fetchAuctionList_after_failures (pre post : List NodeData) :
    ∀ valStatsResponse, vsp.failsAlong pre valStatsResponse →
      vsp.fetchAuctionList (pre ++ post) valStatsResponse =
        vsp.fetchAuctionList post (vsp.shapeAfter pre valStatsResponse) := by
  induction pre with
  | nil => intro _ _; rfl
  | cons observer pre ih =>
    intro valStatsResponse h
    simp only [failsAlong, Bool.and_eq_true] at h
    rw [List.cons_append, fetchAuctionList_cons_of_err vsp observer _ _ h.1]
    exact ih _ h.2

/-- When the first successful call comes after a run of failed ones, the list is
the data of what it makes of the shape the failed calls left. -/
theorem fetchAuctionList_first_success (pre : List NodeData) (observer : NodeData)
    (post : List NodeData) (valStatsResponse : AuctionListAPIResponse)
    (hpre : vsp.failsAlong pre valStatsResponse)
    (hok : (vsp.auctionReply observer (vsp.shapeAfter pre valStatsResponse)).err = none) :
    vsp.fetchAuctionList (pre ++ observer :: post) valStatsResponse =
      .ok (vsp.auctionReply observer (vsp.shapeAfter pre valStatsResponse)).response.data := by
  rw [fetchAuctionList_after_failures vsp pre _ _ hpre]
  exact fetchAuctionList_cons_of_ok vsp observer post _ hok

/-- The loop returns a list exactly when some call succeeds after a run of failed
ones, each call on the shape the one before left; the list is the data of that
call. -/
theorem fetchAuctionList_eq_ok_iff (observers : List NodeData)
    (valStatsResponse : AuctionListAPIResponse) (l : AuctionListResponse) :
    vsp.fetchAuctionList observers valStatsResponse = .ok l ↔
      ∃ pre observer post, observers = pre ++ observer :: post ∧
        vsp.failsAlong pre valStatsResponse ∧
        (vsp.auctionReply observer (vsp.shapeAfter pre valStatsResponse)).err = none ∧
        l = (vsp.auctionReply observer (vsp.shapeAfter pre valStatsResponse)).response.data := by
  refine ⟨fun h => ?_, fun ⟨pre, o, post, hobs, hpre, hok, hl⟩ => by
    rw [hobs, hl, fetchAuctionList_first_success vsp pre o post _ hpre hok]⟩
  induction observers generalizing valStatsResponse with
  | nil => simp [fetchAuctionList] at h
  | cons p rest ih =>
    rcases hp : (vsp.auctionReply p valStatsResponse).err with _ | e
    · rw [fetchAuctionList_cons_of_ok vsp p rest _ hp] at h
      exact ⟨[], p, rest, rfl, rfl, hp, (Except.ok.inj h).symm⟩
    · rw [fetchAuctionList_cons_of_err vsp p rest _ (by simp [hp])] at h
      obtain ⟨pre, o, post, rfl, hf, ho, hl⟩ := ih _ h
      exact ⟨p :: pre, o, post, rfl, by simp [failsAlong, hp, hf], ho, hl⟩

/-- The loop fails only with `ErrAuctionListNotAvailable`, and exactly when every
call fails. -/
theorem fetchAuctionList_eq_error_iff (observers : List NodeData)
    (valStatsResponse : AuctionListAPIResponse) (err : ProxyError) :
    vsp.fetchAuctionList observers valStatsResponse = .error err ↔
      err = .errAuctionListNotAvailable ∧ vsp.failsAlong observers valStatsResponse := by
  induction observers generalizing valStatsResponse with
  | nil => simp [fetchAuctionList, failsAlong, eq_comm]
  | cons p rest ih =>
    rcases hp : (vsp.auctionReply p valStatsResponse).err with _ | e
    · simp [fetchAuctionList_cons_of_ok vsp p rest _ hp, failsAlong, hp]
    · rw [fetchAuctionList_cons_of_err vsp p rest _ (by simp [hp]), ih]
      simp [failsAlong, hp]

/-- Every outcome of `getAuctionListFromApi` once the metachain's observers are
known. The list is the data of the first successful call, made on the shape
the failed calls before it left; `ErrAuctionListNotAvailable` comes back exactly
when every call fails, and no other error can. -/
theorem getAuctionListFromApi_outcomes (observers : List NodeData)
    (hobs : vsp.getObservers metachainShardId = .ok observers) :
    (∀ l, vsp.getAuctionListFromApi = .ok l ↔
      ∃ pre observer post, observers = pre ++ observer :: post ∧ vsp.failsAlong pre {} ∧
        (vsp.auctionReply observer (vsp.shapeAfter pre {})).err = none ∧
        l = (vsp.auctionReply observer (vsp.shapeAfter pre {})).response.data) ∧
    (∀ err, vsp.getAuctionListFromApi = .error err ↔
      err = .errAuctionListNotAvailable ∧ vsp.failsAlong observers {}) := by
  simp only [getAuctionListFromApi, hobs]
  exact ⟨vsp.fetchAuctionList_eq_ok_iff observers {}, vsp.fetchAuctionList_eq_error_iff observers {}⟩

end ChainProxy.ValidatorStatisticsProcessor

namespace ChainProxy.Analysis

/-- Two metachain observers. The first decodes `data` from its body, then fails
on a later field; the second succeeds and writes only `code`. -/
def leakyMetachain : ValidatorStatisticsProcessor where
  getObservers := fun _ => .ok [⟨"observer0", metachainShardId⟩, ⟨"observer1", metachainShardId⟩]
  callGetRestEndPoint := fun address _ valStatsResponse =>
    if address = "observer0" then
      ⟨statusOK, some "json: cannot unmarshal number into Go struct field of type string",
        { valStatsResponse with data := ⟨["v1"]⟩ }⟩
    else ⟨statusOK, none, { valStatsResponse with code := "successful" }⟩

/-- The list `getAuctionListFromApi` returns holds what the failed first call
decoded, while the successful call, on a fresh shape, writes an empty list. -/
theorem getAuctionListFromApi_keeps_failed_write :
    leakyMetachain.getAuctionListFromApi = .ok ⟨["v1"]⟩ ∧
    (leakyMetachain.callGetRestEndPoint "observer1" auctionListPath {}).err = none ∧
    (leakyMetachain.callGetRestEndPoint "observer1" auctionListPath {}).response.data = ⟨[]⟩ :=
  ⟨rfl, rfl, rfl⟩

/-- Over `leakyMetachain` a call succeeds, so the loop cannot fail. -/
theorem getAuctionListFromApi_outcomes_leaky :
    leakyMetachain.getObservers metachainShardId =
      .ok [⟨"observer0", metachainShardId⟩, ⟨"observer1", metachainShardId⟩] ∧
    ∀ err, leakyMetachain.getAuctionListFromApi ≠ .error err :=
  ⟨rfl, fun err h => absurd
    (((ValidatorStatisticsProcessor.getAuctionListFromApi_outcomes leakyMetachain _ rfl).2 err).mp h).2
    (by decide)⟩

end ChainProxy.Analysis
