import ChainProxy.Model.TransactionProcessor

/-!
# The observer loops

Every posting operation of the transaction processor walks a list of observers
and stops at the first reply of some kind. `prefixThrough stop l` is what such a
walk contacts: `l` up to and including the first element `stop` holds for, or
all of `l`. `tryObservers` (`SendTransaction`, `TransactionCostRequest`) stops at
the first reply whose status is neither 404 nor 408, and where it stops is a
function of the last reply it got (`tryObservers_exit`); the inner loop of
`SendMultipleTransactions` stops at the first accepted reply.
-/

set_option autoImplicit false

namespace ChainProxy.Analysis

/-- The Go condition `respCode == http.StatusOK && err == nil`. -/
def isAccepted {ρ : Type} (reply : Reply ρ) : Bool :=
  reply.respCode = statusOK ∧ reply.err = none

/-- The statuses `tryObservers` skips: the observer was down or timed out. -/
def isSkipStatus (respCode : Int) : Bool :=
  respCode = statusNotFound ∨ respCode = statusRequestTimeout

/-- INTERNAL: an accepted reply is never skipped. -/
theorem not_isSkipStatus_of_isAccepted {ρ : Type} {reply : Reply ρ} (h : isAccepted reply) :
    isSkipStatus reply.respCode = false := by
  simp only [isAccepted, decide_eq_true_eq] at h
  simp [isSkipStatus, h.1, statusOK, statusNotFound, statusRequestTimeout]

/-- The shortest prefix of `l` that ends at the first element `stop` holds for,
or all of `l`. -/
def prefixThrough {α : Type} (stop : α → Bool) (l : List α) : List α :=
  l.takeWhile (!stop ·) ++ (l.dropWhile (!stop ·)).take 1

/-- INTERNAL: the prefix of the empty list. -/
@[simp] theorem prefixThrough_nil {α : Type} (stop : α → Bool) : prefixThrough stop [] = [] := rfl

/-- INTERNAL: the prefix stops at the first element that satisfies `stop`,
which it keeps. -/
@[simp] theorem prefixThrough_cons {α : Type} (stop : α → Bool) (a : α) (l : List α) :
    prefixThrough stop (a :: l) = if stop a then [a] else a :: prefixThrough stop l := by
  by_cases h : stop a <;> simp [prefixThrough, List.takeWhile_cons, List.dropWhile_cons, h]

/-- INTERNAL: a walk contacts only observers of its list. -/
theorem prefixThrough_sublist {α : Type} (stop : α → Bool) (l : List α) :
    (prefixThrough stop l).Sublist l := by
  have h := (List.Sublist.refl (l.takeWhile (!stop ·))).append
    (List.take_sublist 1 (l.dropWhile (!stop ·)))
  rwa [List.takeWhile_append_dropWhile] at h

/-! ## `tryObservers` -/

section TryObservers

variable {ρ : Type} (call : NodeData → Reply ρ)

/-- INTERNAL: one step of `tryObservers`. -/
theorem tryObservers_cons (o : NodeData) (os : List NodeData) :
    tryObservers call (o :: os) =
      if isAccepted (call o) then (.accepted (call o).respCode (call o).response, [o])
      else if isSkipStatus (call o).respCode then
        ((tryObservers call os).1, o :: (tryObservers call os).2)
      else (.rejected (call o).respCode (call o).err, [o]) := by
  simp only [tryObservers, isAccepted, isSkipStatus, decide_eq_true_eq]

/-- `tryObservers` contacts the observers up to the first one whose reply is
neither 404 nor 408, in order. -/
theorem tryObservers_contacted (os : List NodeData) :
    (tryObservers call os).2 = prefixThrough (fun o => !isSkipStatus (call o).respCode) os := by
  induction os with
  | nil => rfl
  | cons o os ih =>
    rw [tryObservers_cons, prefixThrough_cons]
    by_cases ha : isAccepted (call o)
    · simp [ha, not_isSkipStatus_of_isAccepted ha]
    · by_cases hs : isSkipStatus (call o).respCode <;> simp [ha, hs, ih]

/-- Where `tryObservers` stops, read off the last reply it got. -/
def exitOfLast : Option (Reply ρ) → LoopExit ρ
  | none => .exhausted
  | some reply =>
    if isAccepted reply then .accepted reply.respCode reply.response
    else if isSkipStatus reply.respCode then .exhausted
    else .rejected reply.respCode reply.err

/-- Where `tryObservers` stops depends on the last reply it got alone. -/
theorem tryObservers_exit (os : List NodeData) :
    (tryObservers call os).1 = exitOfLast (((tryObservers call os).2.getLast?).map call) := by
  induction os with
  | nil => rfl
  | cons o os ih =>
    rw [tryObservers_cons]
    by_cases ha : isAccepted (call o)
    · simp [ha, exitOfLast]
    by_cases hs : isSkipStatus (call o).respCode
    · simp only [ha, hs, if_false, if_true, Bool.false_eq_true]
      rcases hos : os with _ | ⟨o', os'⟩
      · simp [tryObservers, exitOfLast, ha, hs]
      · have hne : (tryObservers call (o' :: os')).2 ≠ [] := by
          rw [tryObservers_contacted, prefixThrough_cons]; split <;> simp
        obtain ⟨c, cs, hc⟩ := List.exists_cons_of_ne_nil hne
        rw [← hos, ih, hos, hc, List.getLast?_cons_cons]
    · simp [ha, hs, exitOfLast]

/-- `tryObservers` runs out exactly when every observer answered 404 or 408. -/
theorem tryObservers_exhausted_iff (os : List NodeData) :
    (tryObservers call os).1 = .exhausted ↔ ∀ o ∈ os, isSkipStatus (call o).respCode := by
  induction os with
  | nil => simp [tryObservers]
  | cons o os ih =>
    rw [tryObservers_cons]
    by_cases ha : isAccepted (call o)
    · simp [ha, not_isSkipStatus_of_isAccepted ha]
    · by_cases hs : isSkipStatus (call o).respCode <;> simp [ha, hs, ih]

end TryObservers

/-! ## The inner loop of `SendMultipleTransactions` -/

/-- The reply an observer gives the post of `batch` to `/transaction/send-multiple`. -/
def batchReply (tp : TransactionProcessor) (batch : List Transaction) (o : NodeData) :
    Reply ResponseMultiTransactions :=
  tp.proc.callPostRestEndPoint o.address .multipleTransactions batch {}

/-- The inner loop gives the `NumOfTxs` of the first observer that accepted the
batch. -/
theorem postTxsToObservers_fst (tp : TransactionProcessor) (batch : List Transaction)
    (os : List NodeData) :
    (tp.postTxsToObservers batch os).1 =
      (os.find? fun o => isAccepted (batchReply tp batch o)).map
        fun o => (batchReply tp batch o).response.numOfTxs := by
  induction os with
  | nil => rfl
  | cons o os ih =>
    by_cases h : isAccepted (batchReply tp batch o)
    · simp only [isAccepted, batchReply, decide_eq_true_eq] at h
      simp [TransactionProcessor.postTxsToObservers, h, isAccepted, batchReply]
    · simp only [isAccepted, batchReply, decide_eq_true_eq] at h
      simp only [TransactionProcessor.postTxsToObservers, h, if_false, ih, List.find?_cons]
      simp [isAccepted, batchReply, h]

/-- The inner loop posts the batch to the observers up to the first that accepts
it, in order. -/
theorem postTxsToObservers_snd (tp : TransactionProcessor) (batch : List Transaction)
    (os : List NodeData) :
    (tp.postTxsToObservers batch os).2 =
      (prefixThrough (fun o => isAccepted (batchReply tp batch o)) os).map (·, batch) := by
  induction os with
  | nil => rfl
  | cons o os ih =>
    by_cases h : isAccepted (batchReply tp batch o)
    · simp only [isAccepted, batchReply, decide_eq_true_eq] at h
      simp [TransactionProcessor.postTxsToObservers, h, isAccepted, batchReply]
    · simp only [isAccepted, batchReply, decide_eq_true_eq] at h
      simp only [TransactionProcessor.postTxsToObservers, h, if_false, ih, prefixThrough_cons]
      simp [isAccepted, batchReply, h]

end ChainProxy.Analysis
