import ChainProxy.Analysis.Batches
import ChainProxy.Analysis.SendTransaction

/-!
# No transaction is accepted twice

Both ways of sending relay to observers in turn and stop once one accepts.
`SendTransaction` stops at the first reply that is neither 404 nor 408, and an
accepted reply is such a reply. The inner loop of `SendMultipleTransactions`
stops at the first observer that accepts the batch, and a transaction is in the
batch of its sender's shard only (`batch_unique`), while the `range` visits each
shard once. So, whatever the observers answer and whatever order the `range`
takes, at most one observer accepts a given transaction
(`transaction_accepted_at_most_once`).

Nor is a transaction left out, once every shard's observers are found: each one
that passes the check and has a shard is posted, in its shard's batch, to the
observers of that shard up to the first that accepts
(`sendMultipleTransactions_posts_of_transaction`).
-/

set_option autoImplicit false

namespace ChainProxy.Analysis

open ShardMap

/-- INTERNAL: a walk that stops at the first element `stop` holds for contains at
most one element of a kind that makes it stop. -/
theorem length_filter_prefixThrough_le_one {α : Type} (stop p : α → Bool)
    (hp : ∀ a, p a → stop a) (l : List α) : ((prefixThrough stop l).filter p).length ≤ 1 := by
  induction l with
  | nil => simp
  | cons a l ih =>
    rw [prefixThrough_cons]
    by_cases hs : stop a
    · simp only [hs, if_true]
      exact (List.length_filter_le _ _).trans (by simp)
    · have hpa : p a = false := by
        cases h : p a
        · rfl
        · exact absurd (hp a h) hs
      simpa [hs, hpa] using ih

/-- INTERNAL: a `flatMap` over a list without duplicates to which only `a` contributes. -/
theorem flatMap_eq_of_unique {α β : Type} (f : α → List β) {l : List α} {a : α} (ha : a ∈ l)
    (hnd : l.Nodup) (h : ∀ b ∈ l, b ≠ a → f b = []) : l.flatMap f = f a := by
  induction l with
  | nil => cases ha
  | cons b l ih =>
    rw [List.flatMap_cons]
    obtain ⟨hbl, hnd⟩ := List.nodup_cons.mp hnd
    rcases List.mem_cons.mp ha with rfl | ha'
    · rw [List.flatMap_eq_nil_iff.mpr fun c hc => h c (.tail _ hc) fun hca => hbl (hca ▸ hc),
        List.append_nil]
    · rw [h b (.head _) fun hba => hbl (hba ▸ ha'), ih ha' hnd fun c hc => h c (.tail _ hc),
        List.nil_append]

/-- INTERNAL: the batches a `range` visits, or a part of them, are entries of the
map, each once. -/
theorem visited_of_sublist {α : Type} {m : ShardMap α} {order : RangeOrder (ShardEntry α)}
    {l : List (ShardEntry α)} (h : l.Sublist (order.arrange m.entries)) :
    l.Nodup ∧ ∀ e ∈ l, e ∈ m.entries :=
  ⟨h.nodup ((order.perm _).nodup_iff.mpr m.nodupKeys.nodup),
    fun _ he => (order.perm _).subset (h.subset he)⟩

variable (tp : TransactionProcessor)

/-- INTERNAL: `SendTransaction` posts to nobody, or walks its candidates up to the
first reply that is neither 404 nor 408. -/
theorem sendTransaction_posts (tx : Transaction) :
    (tp.sendTransaction tx).2 = [] ∨ ∃ observers,
      (tp.sendTransaction tx).2 =
        prefixThrough (fun o => !isSkipStatus (sendReply tp tx o).respCode) observers := by
  rcases hc : tp.checkTransactionFields tx with _ | err
  · rcases ho : sendCandidates tp tx with _ | observers
    · exact .inl (sendTransaction_posts_of_no_candidates tp tx ho)
    · rw [sendTransaction_of_candidates tp tx hc ho]
      exact .inr ⟨observers, tryObservers_contacted _ _⟩
  · exact .inl (by rw [sendTransaction_of_check_fail tp tx hc])

/-- INTERNAL: every post of a batch carries that batch. -/
theorem snd_of_mem_batchPosts {e : ShardEntry Transaction} {p : NodeData × List Transaction}
    (h : p ∈ batchPosts tp e) : p.2 = e.2 := by
  unfold batchPosts at h
  rcases hobs : tp.proc.getObservers e.1 with _ | os <;> simp only [hobs] at h
  · cases h
  · rw [postTxsToObservers_snd] at h
    obtain ⟨o, -, rfl⟩ := List.mem_map.mp h
    rfl

/-- INTERNAL: one batch is accepted by one observer at most. -/
theorem length_filter_batchPosts_le (tx : Transaction) (e : ShardEntry Transaction) :
    ((batchPosts tp e).filter fun p => tx ∈ p.2 ∧ isAccepted (batchReply tp p.2 p.1)).length ≤ 1 := by
  unfold batchPosts
  rcases tp.proc.getObservers e.1 with _ | os
  · simp
  dsimp only
  rw [postTxsToObservers_snd, List.filter_map, List.length_map]
  exact length_filter_prefixThrough_le_one _ _ (fun o h => by simp_all) os

/-- INTERNAL: a transaction is in one batch at most, that of its shard. -/
theorem batch_unique (txs : List Transaction) {tx : Transaction} {e e' : ShardEntry Transaction}
    (he : e ∈ (tp.getTxsByShardId (tp.txsToSend txs)).entries)
    (he' : e' ∈ (tp.getTxsByShardId (tp.txsToSend txs)).entries) (htx : tx ∈ e.2)
    (htx' : tx ∈ e'.2) : e = e' := by
  have hpart := getTxsByShardId_partition tp (tp.txsToSend txs)
  rw [hpart.batch_eq e he, List.mem_filter, decide_eq_true_eq] at htx
  rw [hpart.batch_eq e' he', List.mem_filter, decide_eq_true_eq] at htx'
  have hkeys : ((tp.getTxsByShardId (tp.txsToSend txs)).entries.map Sigma.fst).Nodup :=
    AList.keys_nodup _
  exact List.inj_on_of_nodup_map hkeys he he' (Option.some.inj (htx.2.symm.trans htx'.2))

/-- At most one observer accepts a transaction: sent alone, whatever the observers
answer; sent with others, whatever they answer and whatever order the `range`
over the batches takes. -/
theorem transaction_accepted_at_most_once (tx : Transaction) (txs : List Transaction)
    (order : RangeOrder (ShardEntry Transaction)) :
    ((tp.sendTransaction tx).2.filter fun o => isAccepted (sendReply tp tx o)).length ≤ 1 ∧
    ((tp.sendMultipleTransactions txs order).2.filter fun p =>
      tx ∈ p.2 ∧ isAccepted (batchReply tp p.2 p.1)).length ≤ 1 := by
  constructor
  · rcases sendTransaction_posts tp tx with h | ⟨observers, h⟩ <;> rw [h]
    · simp
    · exact length_filter_prefixThrough_le_one _ _
        (fun o ho => by simp [not_isSkipStatus_of_isAccepted ho]) observers
  · rw [sendMultipleTransactions_eq]
    split_ifs
    · simp
    rw [sendTxsByShard_posts, List.filter_flatMap]
    obtain ⟨hnd, hsub⟩ := visited_of_sublist (List.takeWhile_sublist (observersFound tp))
    -- a post that passes the filter carries `tx` in its batch
    have hcarry : ∀ b p, p ∈ batchPosts tp b →
        decide (tx ∈ p.2 ∧ isAccepted (batchReply tp p.2 p.1)) = true → tx ∈ b.2 :=
      fun b p hp h => snd_of_mem_batchPosts tp hp ▸ (of_decide_eq_true h).1
    by_cases hex : ∃ e ∈ (order.arrange (tp.getTxsByShardId (tp.txsToSend txs)).entries).takeWhile
        (observersFound tp), tx ∈ e.2
    · obtain ⟨e, he, htxe⟩ := hex
      rw [flatMap_eq_of_unique _ he hnd fun b hb hbe => List.filter_eq_nil_iff.mpr fun p hp h =>
        hbe (batch_unique tp txs (hsub b hb) (hsub e he) (hcarry b p hp h) htxe)]
      exact length_filter_batchPosts_le tp tx e
    · rw [List.flatMap_eq_nil_iff.mpr fun b hb => List.filter_eq_nil_iff.mpr fun p hp h =>
        hex ⟨b, hb, hcarry b p hp h⟩]
      simp

/-- Every transaction that passes the check and has a shard is offered to its shard:
when the observers of every batch's shard are found, the posts that carry it, in
every visiting order, are exactly its shard's batch posted to that shard's
observers in turn, up to the first that accepts. -/
theorem sendMultipleTransactions_posts_of_transaction (txs : List Transaction)
    (order : RangeOrder (ShardEntry Transaction))
    (hfound : ∀ e ∈ (tp.getTxsByShardId (tp.txsToSend txs)).entries, observersFound tp e = true)
    (tx : Transaction) (htx : tx ∈ tp.txsToSend txs) (k : UInt32) (hk : senderShard tp tx = some k) :
    ∃ os, tp.proc.getObservers k = .ok os ∧
      (tp.sendMultipleTransactions txs order).2.filter (fun p => tx ∈ p.2) =
        (prefixThrough (fun o => isAccepted
          (batchReply tp ((tp.txsToSend txs).filter (senderShard tp · = some k)) o)) os).map
          (·, (tp.txsToSend txs).filter (senderShard tp · = some k)) := by
  have hpart := getTxsByShardId_partition tp (tp.txsToSend txs)
  -- the batch that carries `tx`
  obtain ⟨e, he, htxe⟩ : ∃ e ∈ (tp.getTxsByShardId (tp.txsToSend txs)).entries, tx ∈ e.2 := by
    have hmem : tx ∈ (tp.txsToSend txs).filter (fun t => (senderShard tp t).isSome) :=
      List.mem_filter.mpr ⟨htx, by rw [hk]; rfl⟩
    simpa using hpart.covers.symm.subset hmem
  have hbatch := hpart.batch_eq e he
  have hek : e.1 = k := by
    rw [hbatch, List.mem_filter, decide_eq_true_eq, hk] at htxe
    exact (Option.some.inj htxe.2).symm
  obtain ⟨os, hos⟩ : ∃ os, tp.proc.getObservers e.1 = .ok os := by
    have := hfound e he
    simp only [observersFound] at this
    cases h : tp.proc.getObservers e.1 <;> simp_all [Except.isOk, Except.toBool]
  rw [hek] at hos hbatch
  refine ⟨os, hos, ?_⟩
  rw [sendMultipleTransactions_eq, if_neg (List.ne_nil_of_mem htx), sendTxsByShard_posts,
    List.takeWhile_eq_self_iff.mpr fun b hb => hfound b ((order.perm _).subset hb), List.filter_flatMap]
  obtain ⟨hnd, hsub⟩ := visited_of_sublist (List.Sublist.refl
    (order.arrange (tp.getTxsByShardId (tp.txsToSend txs)).entries))
  -- any other batch does not carry `tx`
  rw [flatMap_eq_of_unique _ ((order.perm _).mem_iff.mpr he) hnd fun b hb hbe =>
    List.filter_eq_nil_iff.mpr fun p hp htxp => hbe (batch_unique tp txs (hsub b hb) he
      (snd_of_mem_batchPosts tp hp ▸ of_decide_eq_true htxp) htxe)]
  rw [List.filter_eq_self.mpr fun p hp => by simpa [snd_of_mem_batchPosts tp hp] using htxe]
  simp only [batchPosts, hek, hos, postTxsToObservers_snd, hbatch]

/-- On `twoShards`, the transaction of shard 1 is offered to shard 1's observer. -/
theorem sendMultipleTransactions_posts_of_transaction_two_shards :
    (∀ e ∈ (twoShards.getTxsByShardId
        (twoShards.txsToSend [{ sender := "" }, { sender := "x" }])).entries,
      observersFound twoShards e = true) ∧
    ({ sender := "x" } : Transaction) ∈ twoShards.txsToSend [{ sender := "" }, { sender := "x" }] ∧
    senderShard twoShards { sender := "x" } = some 1 ∧
    ∃ os, twoShards.proc.getObservers 1 = .ok os ∧
      (twoShards.sendMultipleTransactions [{ sender := "" }, { sender := "x" }] .stored).2.filter
          (fun p => { sender := "x" } ∈ p.2) =
        (prefixThrough (fun o => isAccepted (batchReply twoShards
          ((twoShards.txsToSend [{ sender := "" }, { sender := "x" }]).filter
            (senderShard twoShards · = some 1)) o)) os).map
          (·, (twoShards.txsToSend [{ sender := "" }, { sender := "x" }]).filter
            (senderShard twoShards · = some 1)) :=
  ⟨by decide, by decide, rfl, sendMultipleTransactions_posts_of_transaction twoShards _ .stored
    (by decide) _ (by decide) 1 rfl⟩

end ChainProxy.Analysis
