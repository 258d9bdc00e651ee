import Mathlib.Algebra.Order.BigOperators.Group.List
import Mathlib.Algebra.Order.Group.Nat
import Mathlib.Algebra.Order.Ring.Nat
import ChainProxy.Analysis.Grouping
import ChainProxy.Analysis.ObserverLoops

/-!
# The batches of `SendMultipleTransactions`

`getTxsByShardId` partitions the transactions that pass `checkTransactionFields`
by the shard of their sender (`getTxsByShardId_partition`), and the outer loop
posts each batch to observers of its own shard. The loop over the batches is a
`range` over a Go map: its posts are the batches' posts up to the first batch
whose observers cannot be fetched (`sendTxsByShard_posts`), and what it returns
is the sum of one term per batch or `ErrMissingObserver` (`sendTxsByShard_result`),
which no visiting order changes. The posts made before an `ErrMissingObserver`
do depend on the order. When the observers of every batch's shard are found,
every batch is posted to them in turn up to the first that accepts it
(`sendMultipleTransactions_batches`); a shard whose observer list is empty gets
no post, and the call still returns a nil error
(`sendMultipleTransactions_skips_shard_without_observers`).
-/

set_option autoImplicit false

namespace ChainProxy.Analysis

open ShardMap

variable (tp : TransactionProcessor)

/-- The shard `getTxsByShardId` files a transaction under: that of its decoded
sender, when the sender decodes and its shard can be computed. -/
def senderShard (tx : Transaction) : Option UInt32 :=
  match tp.pubKeyConverter.decode tx.sender with
  | .error _ => none
  | .ok senderBytes =>
    match tp.proc.computeShardId senderBytes with
    | .error _ => none
    | .ok shardId => some shardId

/-- INTERNAL: `getTxsByShardId` appends every transaction with a shard under it. -/
theorem getTxsByShardId_eq (txs : List Transaction) :
    tp.getTxsByShardId txs =
      (∅ : ShardMap Transaction).appendAll (txs.filterMap fun tx => (senderShard tp tx).map (·, tx)) := by
  unfold TransactionProcessor.getTxsByShardId
  generalize (∅ : ShardMap Transaction) = m
  induction txs generalizing m with
  | nil => rfl
  | cons tx txs ih =>
    rw [List.foldl_cons, List.filterMap_cons]
    rcases hd : tp.pubKeyConverter.decode tx.sender with _ | b
    · simp [hd, senderShard, ih]
    · rcases hc : tp.proc.computeShardId b with _ | k <;> simp [hd, hc, senderShard, ih]

/-- INTERNAL: the elements filed under `k` are the transactions whose shard is `k`. -/
theorem filterMap_pairs_get {f : Transaction → Option UInt32} (txs : List Transaction) (k : UInt32) :
    ((txs.filterMap fun tx => (f tx).map (·, tx)).filter (·.1 = k)).map Prod.snd =
      txs.filter (f · = some k) := by
  induction txs with
  | nil => rfl
  | cons tx txs ih =>
    rw [List.filterMap_cons, List.filter_cons]
    rcases h : f tx with _ | k'
    · simp [h, ih]
    · by_cases hk : k' = k <;> simp [h, hk, ih]

/-- INTERNAL: the elements of the pairs are the transactions with a shard. -/
theorem filterMap_pairs_snd {f : Transaction → Option UInt32} (txs : List Transaction) :
    (txs.filterMap fun tx => (f tx).map (·, tx)).map Prod.snd = txs.filter (f · |>.isSome) := by
  induction txs with
  | nil => rfl
  | cons tx txs ih =>
    rw [List.filterMap_cons, List.filter_cons]
    rcases h : f tx with _ | k <;> simp [h, ih]

/-- A list of batches that partitions `txs` by `shardOf`. -/
structure IsShardPartition (shardOf : Transaction → Option UInt32) (txs : List Transaction)
    (batches : List (ShardEntry Transaction)) : Prop where
  /-- One batch per shard. -/
  keys_nodup : (batches.map Sigma.fst).Nodup
  /-- A shard's batch is the transactions of that shard, in input order. -/
  batch_eq : ∀ e ∈ batches, e.2 = txs.filter (shardOf · = some e.1)
  /-- No batch is empty. -/
  batch_ne_nil : ∀ e ∈ batches, e.2 ≠ []
  /-- Every transaction with a shard is in the batches, and none twice. -/
  covers : (batches.flatMap (·.2)).Perm (txs.filter (shardOf · |>.isSome))

/-- `getTxsByShardId` partitions its input by sender shard. -/
theorem getTxsByShardId_partition (txs : List Transaction) :
    IsShardPartition (senderShard tp) txs (tp.getTxsByShardId txs).entries := by
  rw [getTxsByShardId_eq]
  refine ⟨AList.keys_nodup _, fun e he => ?_, noEmptySlice_empty.appendAll _, ?_⟩
  · rw [snd_eq_get he, get_appendAll, get_empty, List.nil_append, filterMap_pairs_get]
  · have h := (ungroup_appendAll ∅ (txs.filterMap fun tx => (senderShard tp tx).map (·, tx))).map
      Prod.snd
    simp only [ungroup, List.map_flatMap, List.map_map, Function.comp_def, List.map_id',
      AList.empty_entries, List.flatMap_nil, List.nil_append, filterMap_pairs_snd] at h
    exact h

/-! ## The loop over the batches -/

/-- Whether the observers of a batch's shard can be fetched. -/
def observersFound (e : ShardEntry Transaction) : Bool := (tp.proc.getObservers e.1).isOk

/-- The posts one batch makes. -/
def batchPosts (e : ShardEntry Transaction) : List (NodeData × List Transaction) :=
  match tp.proc.getObservers e.1 with
  | .error _ => []
  | .ok os => (tp.postTxsToObservers e.2 os).2

/-- What one batch adds to `totalTxsSent`: the `NumOfTxs` of the first observer of
its shard, in `GetObservers` order, that accepted it, or nothing. -/
def acceptedCount (e : ShardEntry Transaction) : UInt64 :=
  match tp.proc.getObservers e.1 with
  | .error _ => 0
  | .ok os => ((os.find? fun o => isAccepted (batchReply tp e.2 o)).map
      fun o => (batchReply tp e.2 o).response.numOfTxs).getD 0

/-- INTERNAL: `uint64` addition wraps at `2^64`. -/
theorem uint64_toNat_add (a b : UInt64) : (a + b).toNat = (a.toNat + b.toNat) % 2 ^ 64 := by
  simp [UInt64.add_def, UInt64.toNat, BitVec.toNat_add]

/-- INTERNAL: adding zero. -/
theorem uint64_add_zero (a : UInt64) : a + 0 = a :=
  UInt64.toNat.inj (by simp [uint64_toNat_add, Nat.mod_eq_of_lt (UInt64.toNat_lt_size a)])

/-- INTERNAL: a running `uint64` sum is the sum of the terms, wrapped. -/
theorem foldl_add_toNat {ε : Type} (f : ε → UInt64) (l : List ε) (acc : UInt64) :
    (l.foldl (fun t e => t + f e) acc).toNat = (acc.toNat + (l.map fun e => (f e).toNat).sum) % 2 ^ 64 := by
  induction l generalizing acc with
  | nil => simp [Nat.mod_eq_of_lt (UInt64.toNat_lt_size acc)]
  | cons e l ih =>
    rw [List.foldl_cons, ih, uint64_toNat_add, List.map_cons, List.sum_cons, Nat.mod_add_mod,
      Nat.add_assoc]

/-- The posts of the loop over the batches: those of each batch, up to the first
batch whose observers cannot be fetched. -/
theorem sendTxsByShard_posts (bs : List (ShardEntry Transaction)) (acc : UInt64) :
    (tp.sendTxsByShard bs acc).2 = (bs.takeWhile (observersFound tp)).flatMap (batchPosts tp) := by
  induction bs generalizing acc with
  | nil => rfl
  | cons e bs ih =>
    obtain ⟨k, b⟩ := e
    rcases h : tp.proc.getObservers k with _ | os <;>
      simp [TransactionProcessor.sendTxsByShard, h, observersFound, batchPosts, ih,
        List.takeWhile_cons, Except.isOk, Except.toBool]

/-- What the loop over the batches returns: the running sum of one term per
batch, or `ErrMissingObserver` when the observers of some batch cannot be
fetched. -/
theorem sendTxsByShard_result (bs : List (ShardEntry Transaction)) (acc : UInt64) :
    (tp.sendTxsByShard bs acc).1 =
      if bs.all (observersFound tp) then (bs.foldl (fun t e => t + acceptedCount tp e) acc, none)
      else (0, some .errMissingObserver) := by
  induction bs generalizing acc with
  | nil => rfl
  | cons e bs ih =>
    obtain ⟨k, b⟩ := e
    rcases h : tp.proc.getObservers k with _ | os
    · simp [TransactionProcessor.sendTxsByShard, h, observersFound, Except.isOk, Except.toBool]
    · have hcount : acceptedCount tp ⟨k, b⟩ = ((tp.postTxsToObservers b os).1).getD 0 := by
        simp only [acceptedCount, h, postTxsToObservers_fst]
      simp only [TransactionProcessor.sendTxsByShard, h, ih, List.all_cons, List.foldl_cons,
        observersFound, Except.isOk, Except.toBool, Bool.true_and, hcount]
      cases (tp.postTxsToObservers b os).1
      · simp [uint64_add_zero]
      · rfl

/-- INTERNAL: the batch sum does not depend on the order of the batches. -/
theorem foldl_acceptedCount_perm {bs bs' : List (ShardEntry Transaction)} (h : bs.Perm bs')
    (acc : UInt64) :
    bs.foldl (fun t e => t + acceptedCount tp e) acc =
      bs'.foldl (fun t e => t + acceptedCount tp e) acc :=
  UInt64.toNat.inj (by rw [foldl_add_toNat, foldl_add_toNat, (h.map _).sum_eq])

/-- INTERNAL: `SendMultipleTransactions` after its check: no transaction to send,
or the loop over the batches in the order `order` visits them. -/
theorem sendMultipleTransactions_eq (txs : List Transaction)
    (order : RangeOrder (ShardEntry Transaction)) :
    tp.sendMultipleTransactions txs order =
      if tp.txsToSend txs = [] then ((0, some .errNoValidTransactionToSend), [])
      else tp.sendTxsByShard (order.arrange (tp.getTxsByShardId (tp.txsToSend txs)).entries) 0 := by
  simp [TransactionProcessor.sendMultipleTransactions, ShardMap.range]

/-- INTERNAL: a batch whose shard's observers are `os` is posted to them in turn,
up to the first that accepts it. -/
theorem batchPosts_of_getObservers {e : ShardEntry Transaction} {os : List NodeData}
    (h : tp.proc.getObservers e.1 = .ok os) :
    batchPosts tp e = (prefixThrough (fun o => isAccepted (batchReply tp e.2 o)) os).map (·, e.2) := by
  simp only [batchPosts, h, postTxsToObservers_snd]

/-- INTERNAL: when the observers of every batch's shard are found, the loop posts
every batch, in the order the `range` visits them. -/
theorem sendMultipleTransactions_posts_of_found (txs : List Transaction)
    (order : RangeOrder (ShardEntry Transaction))
    (hfound : ∀ e ∈ (tp.getTxsByShardId (tp.txsToSend txs)).entries, observersFound tp e = true) :
    (tp.sendMultipleTransactions txs order).2 =
      (order.arrange (tp.getTxsByShardId (tp.txsToSend txs)).entries).flatMap (batchPosts tp) := by
  rw [sendMultipleTransactions_eq]
  split_ifs with h
  · simp [h, TransactionProcessor.getTxsByShardId, List.perm_nil.mp (order.perm [])]
  · rw [sendTxsByShard_posts,
      List.takeWhile_eq_self_iff.mpr fun e he => hfound e ((order.perm _).subset he)]

/-- The batches `SendMultipleTransactions` posts: `getTxsByShardId` partitions the
transactions that pass `checkTransactionFields` by sender shard, each batch in
input order; every post, in every visiting order, sends one of these batches to
an observer `GetObservers` returns for the batch's shard; when `GetObservers`
answers for every batch's shard, the posts are, up to order, every batch posted to
the observers of its shard in turn, up to the first that accepts it, and nothing
else; and `ErrNoValidTransactionToSend` is returned, with no post, exactly when no
transaction passes `checkTransactionFields`. -/
theorem sendMultipleTransactions_batches (txs : List Transaction) :
    IsShardPartition (senderShard tp) (tp.txsToSend txs)
      (tp.getTxsByShardId (tp.txsToSend txs)).entries ∧
    (∀ e ∈ (tp.getTxsByShardId (tp.txsToSend txs)).entries,
      e.2.Sublist txs ∧ ∀ tx ∈ e.2, tp.checkTransactionFields tx = none) ∧
    (∀ (order : RangeOrder (ShardEntry Transaction)),
      ∀ p ∈ (tp.sendMultipleTransactions txs order).2,
        ∃ e ∈ (tp.getTxsByShardId (tp.txsToSend txs)).entries, p.2 = e.2 ∧
          ∃ os, tp.proc.getObservers e.1 = .ok os ∧ p.1 ∈ os) ∧
    (∀ (order : RangeOrder (ShardEntry Transaction)) (observersOf : UInt32 → List NodeData),
      (∀ e ∈ (tp.getTxsByShardId (tp.txsToSend txs)).entries,
        tp.proc.getObservers e.1 = .ok (observersOf e.1)) →
      (tp.sendMultipleTransactions txs order).2.Perm
        ((tp.getTxsByShardId (tp.txsToSend txs)).entries.flatMap fun e =>
          (prefixThrough (fun o => isAccepted (batchReply tp e.2 o)) (observersOf e.1)).map
            (·, e.2))) ∧
    (∀ (order : RangeOrder (ShardEntry Transaction)),
      (tp.sendMultipleTransactions txs order).1.2 = some .errNoValidTransactionToSend ↔
        ∀ tx ∈ txs, tp.checkTransactionFields tx ≠ none) ∧
    (∀ (order : RangeOrder (ShardEntry Transaction)),
      (∀ tx ∈ txs, tp.checkTransactionFields tx ≠ none) →
        (tp.sendMultipleTransactions txs order).2 = []) := by
  have hpart := getTxsByShardId_partition tp (tp.txsToSend txs)
  have hnil : tp.txsToSend txs = [] ↔ ∀ tx ∈ txs, tp.checkTransactionFields tx ≠ none := by
    simp [TransactionProcessor.txsToSend, List.filter_eq_nil_iff, Option.isNone_iff_eq_none]
  refine ⟨hpart, fun e he => ?_, fun order p hp => ?_, fun order observersOf hobs => ?_,
    fun order => ?_, fun order h => ?_⟩
  · rw [hpart.batch_eq e he]
    refine ⟨(List.filter_sublist _).trans (List.filter_sublist _), fun tx htx => ?_⟩
    have := (List.mem_filter.mp (List.mem_of_mem_filter htx)).2
    simpa [Option.isNone_iff_eq_none] using this
  · rw [sendMultipleTransactions_eq] at hp
    split_ifs at hp
    · simp at hp
    rw [sendTxsByShard_posts] at hp
    obtain ⟨e, he, hpe⟩ := List.mem_flatMap.mp hp
    have hmem := (order.perm _).subset ((List.takeWhile_sublist _).subset he)
    refine ⟨e, hmem, ?_⟩
    unfold batchPosts at hpe
    rcases hobs : tp.proc.getObservers e.1 with _ | os
    · simp [hobs] at hpe
    simp only [hobs, postTxsToObservers_snd] at hpe
    obtain ⟨o, ho, rfl⟩ := List.mem_map.mp hpe
    exact ⟨rfl, os, rfl, (prefixThrough_sublist _ os).subset ho⟩
  · have hfound : ∀ e ∈ (tp.getTxsByShardId (tp.txsToSend txs)).entries, observersFound tp e :=
      fun e he => by simp [observersFound, hobs e he, Except.isOk, Except.toBool]
    rw [sendMultipleTransactions_posts_of_found tp txs order hfound,
      ← List.flatMap_congr fun e he => batchPosts_of_getObservers tp (hobs e he)]
    exact (order.perm _).flatMap_right _
  · rw [sendMultipleTransactions_eq, ← hnil]
    split_ifs with h
    · simp [h]
    · simp [h, sendTxsByShard_result]; split_ifs <;> simp
  · rw [sendMultipleTransactions_eq, if_pos (hnil.mpr h)]

/-- Two transactions, of shards 0 and 1 (the length of the decoded sender), where
`GetObservers` finds one observer for shard 0 and, without an error, none for
shard 1. -/
def observerlessShard : TransactionProcessor where
  proc :=
    { computeShardId := fun senderBytes => .ok senderBytes.length.toUInt32
      getObservers := fun shardId => .ok (if shardId = 0 then [⟨"observer0", 0⟩] else [])
      getAllObservers := [⟨"observer0", 0⟩]
      callPostRestEndPoint := fun _ path body response => match path, body, response with
        | .multipleTransactions, batch, _ => ⟨statusOK, none, { numOfTxs := batch.length.toUInt64 }⟩
        | .transactionSend, _, response => ⟨statusOK, none, response⟩
        | .transactionCost, _, response => ⟨statusOK, none, response⟩
      callGetRestEndPoint := fun _ _ response => ⟨none, response⟩ }
  pubKeyConverter := ⟨fun s => .ok (goBytes s)⟩

/-- `getTxsByShardId` builds two batches, but only shard 0's is posted: shard 1's
has no observer to go to, and the call returns a count of 1 with a nil error. -/
theorem sendMultipleTransactions_skips_shard_without_observers :
    (observerlessShard.getTxsByShardId
        (observerlessShard.txsToSend [{ sender := "" }, { sender := "x" }])).entries.map Sigma.snd =
      [[{ sender := "x" }], [{ sender := "" }]] ∧
    observerlessShard.sendMultipleTransactions [{ sender := "" }, { sender := "x" }] .stored =
      ((1, none), [(⟨"observer0", 0⟩, [{ sender := "" }])]) := by
  decide

/-- INTERNAL: `List.all` looks at a list only up to order. -/
theorem all_eq_of_perm {ε : Type} (f : ε → Bool) {l l' : List ε} (h : l.Perm l') :
    l.all f = l'.all f :=
  Bool.eq_iff_iff.mpr (by simp [List.all_eq_true, h.mem_iff])

/-- The visiting order of the batches: what `SendMultipleTransactions` returns
does not depend on it, nor, when the observers of every batch's shard can be
fetched, what it posts. When the observers of some batch's shard cannot be
fetched, the call returns `(0, ErrMissingObserver)` in every order, after posting
the batches visited before the first such batch. -/
theorem sendMultipleTransactions_order (txs : List Transaction)
    (order order' : RangeOrder (ShardEntry Transaction)) :
    (tp.sendMultipleTransactions txs order).1 = (tp.sendMultipleTransactions txs order').1 ∧
    ((∀ e ∈ (tp.getTxsByShardId (tp.txsToSend txs)).entries, observersFound tp e = true) →
      (tp.sendMultipleTransactions txs order).2.Perm (tp.sendMultipleTransactions txs order').2) ∧
    ((∃ e ∈ (tp.getTxsByShardId (tp.txsToSend txs)).entries, observersFound tp e = false) →
      (tp.sendMultipleTransactions txs order).1 = (0, some .errMissingObserver) ∧
      (tp.sendMultipleTransactions txs order).2 =
        ((order.arrange (tp.getTxsByShardId (tp.txsToSend txs)).entries).takeWhile
          (observersFound tp)).flatMap (batchPosts tp)) := by
  set entries := (tp.getTxsByShardId (tp.txsToSend txs)).entries
  have hbs : (order.arrange entries).Perm (order'.arrange entries) :=
    (order.perm _).trans (order'.perm _).symm
  rw [sendMultipleTransactions_eq, sendMultipleTransactions_eq]
  refine ⟨?_, fun hfound => ?_, fun ⟨e, he, hmiss⟩ => ?_⟩
  · split_ifs
    · rfl
    · rw [sendTxsByShard_result, sendTxsByShard_result, all_eq_of_perm _ hbs,
        foldl_acceptedCount_perm tp hbs]
  · split_ifs
    · exact .refl _
    · have hall : ∀ o : RangeOrder (ShardEntry Transaction),
          (o.arrange entries).takeWhile (observersFound tp) = o.arrange entries :=
        fun o => List.takeWhile_eq_self_iff.mpr fun e he => hfound e ((o.perm _).subset he)
      rw [sendTxsByShard_posts, sendTxsByShard_posts, hall, hall]
      exact hbs.flatMap_right _
  · have hne : tp.txsToSend txs ≠ [] := by
      rintro h
      simp [entries, h, TransactionProcessor.getTxsByShardId] at he
    have hall : (order.arrange entries).all (observersFound tp) = false := by
      simp only [List.all_eq_false]
      exact ⟨e, (order.perm _).symm.subset he, by simp [hmiss]⟩
    simp only [if_neg hne]
    exact ⟨by rw [sendTxsByShard_result, if_neg (by simp [hall])], sendTxsByShard_posts tp _ 0⟩

/-- Two transactions, of shards 0 and 1 (the length of the decoded sender),
where only shard 0's observers can be fetched. -/
def missingShard : TransactionProcessor where
  proc :=
    { computeShardId := fun senderBytes => .ok senderBytes.length.toUInt32
      getObservers := fun shardId =>
        if shardId = 0 then .ok [⟨"observer0", 0⟩] else .error "missing observer"
      getAllObservers := [⟨"observer0", 0⟩]
      callPostRestEndPoint := fun _ _ _ response => ⟨statusOK, none, response⟩
      callGetRestEndPoint := fun _ _ response => ⟨none, response⟩ }
  pubKeyConverter := ⟨fun s => .ok (goBytes s)⟩

/-- Visited one way, the batches of `missingShard` end in `ErrMissingObserver`
with nothing posted; visited the other way, the same error comes after shard 0's
batch has been posted. -/
theorem sendMultipleTransactions_posts_before_missing_observer :
    missingShard.sendMultipleTransactions [{ sender := "" }, { sender := "x" }] .stored =
      ((0, some .errMissingObserver), []) ∧
    missingShard.sendMultipleTransactions [{ sender := "" }, { sender := "x" }]
        ⟨List.reverse, List.reverse_perm⟩ =
      ((0, some .errMissingObserver), [(⟨"observer0", 0⟩, [{ sender := "" }])]) := by
  decide

/-- Two transactions of shards 0 and 1, each shard with one observer that accepts
what it is sent. -/
def twoShards : TransactionProcessor where
  proc :=
    { computeShardId := fun senderBytes => .ok senderBytes.length.toUInt32
      getObservers := fun shardId => .ok [⟨"observer", shardId⟩]
      getAllObservers := [⟨"observer", 0⟩, ⟨"observer", 1⟩]
      callPostRestEndPoint := fun _ path body response => match path, body, response with
        | .multipleTransactions, batch, _ => ⟨statusOK, none, { numOfTxs := batch.length.toUInt64 }⟩
        | .transactionSend, _, response => ⟨statusOK, none, response⟩
        | .transactionCost, _, response => ⟨statusOK, none, response⟩
      callGetRestEndPoint := fun _ _ response => ⟨none, response⟩ }
  pubKeyConverter := ⟨fun s => .ok (goBytes s)⟩

end ChainProxy.Analysis
