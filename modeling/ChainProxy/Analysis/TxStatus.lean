import ChainProxy.Model.TransactionProcessor
import ChainProxy.Analysis.Grouping

/-!
# What `GetTransactionStatus` decides

`GetTransactionStatus` groups the statuses its observers return by shard into a
Go map, and `parseTxStatusResponses` ranges over that map, and over a second one
it builds, in orders the runtime picks. `reconcileStatus` says what comes out, on
the replies alone: no known status gives `UnknownStatusTx`; known statuses that
are one status from one shard give that status; anything else is
`ErrCannotGetTransactionStatus`. Two shards that agree are a conflict too: the
code treats more than one shard with a known status as one.

`getTransactionStatus_eq_reconcileStatus` is the bridge, for every pair of
iteration orders; it also shows the call never reaches the panic of
`responses[0]`. That holds of `parseTxStatusResponses` on every map, not only on
those `GetTransactionStatus` builds: its filtering loop only appends, so it
stores no empty slice (`noEmptySlice_collectOkResponses`). Everything else here
is read off `reconcileStatus`, which only looks at the replies up to order.
-/

set_option autoImplicit false

namespace ChainProxy.Analysis

open ShardMap

/-- The status an observer gives `GetTransactionStatus`, or `none` when its call
returns an error. -/
def statusReply (tp : TransactionProcessor) (txHash : String) (observer : NodeData) :
    Option String :=
  let reply := tp.proc.callGetRestEndPoint observer.address (.transactionStatus txHash) {}
  match reply.err with
  | some _ => none
  | none => some reply.response.status

/-- The successful replies of `GetTransactionStatus`, each with its observer's
shard, in observer order. -/
def statusReplies (tp : TransactionProcessor) (txHash : String) : List (UInt32 × String) :=
  tp.proc.getAllObservers.filterMap fun o => (statusReply tp txHash o).map (o.shardId, ·)

/-- The replies with a known status. -/
def knownReplies (replies : List (UInt32 × String)) : List (UInt32 × String) :=
  replies.filter (·.2 ≠ unknownStatusTx)

/-- The reconciliation, on the replies: agreement is one shard and one status. -/
def reconcileStatus (replies : List (UInt32 × String)) : String × Option ProxyError :=
  match knownReplies replies with
  | [] => (unknownStatusTx, none)
  | first :: rest =>
    if rest.all (· = first) then (first.2, none) else ("", some .errCannotGetTransactionStatus)

/-- The (shard, status) pairs the filtering loop of `parseTxStatusResponses`
appends when the `range` visits `entries`. -/
def okPairs (entries : List (ShardEntry String)) : List (UInt32 × String) :=
  entries.flatMap fun e => (e.2.filter (· ≠ unknownStatusTx)).map (e.1, ·)

/-! ## The two maps -/

/-- INTERNAL: one step of the loop of `GetTransactionStatus`. -/
theorem collectStatuses_cons (tp : TransactionProcessor) (txHash : String) (o : NodeData)
    (os : List NodeData) (m : ShardMap String) :
    tp.collectStatuses txHash (o :: os) m =
      tp.collectStatuses txHash os (match statusReply tp txHash o with
        | none => m
        | some status => m.appendTo o.shardId status) := by
  simp only [TransactionProcessor.collectStatuses, statusReply]
  split <;> simp_all

/-- INTERNAL: the loop of `GetTransactionStatus` appends the successful replies. -/
theorem collectStatuses_eq (tp : TransactionProcessor) (txHash : String) (observers : List NodeData)
    (m : ShardMap String) :
    tp.collectStatuses txHash observers m =
      m.appendAll (observers.filterMap fun o => (statusReply tp txHash o).map (o.shardId, ·)) := by
  induction observers generalizing m with
  | nil => rfl
  | cons o os ih =>
    rw [collectStatuses_cons, ih, List.filterMap_cons]
    cases statusReply tp txHash o <;> rfl

/-- INTERNAL: the inner filtering loop appends the known statuses of one shard. -/
theorem foldl_known_eq (k : UInt32) (responses : List String) (m : ShardMap String) :
    responses.foldl (fun ok response =>
        if response = unknownStatusTx then ok else ok.appendTo k response) m =
      m.appendAll ((responses.filter (· ≠ unknownStatusTx)).map (k, ·)) := by
  induction responses generalizing m with
  | nil => rfl
  | cons r rs ih =>
    by_cases h : r = unknownStatusTx <;> simp [h, ih, List.filter_cons]

/-- INTERNAL: the filtering loop of `parseTxStatusResponses` appends the known
statuses, entry by entry. -/
theorem collectOkResponses_eq (entries : List (ShardEntry String)) (m : ShardMap String) :
    collectOkResponses entries m = m.appendAll (okPairs entries) := by
  induction entries generalizing m with
  | nil => rfl
  | cons e es ih =>
    obtain ⟨k, rs⟩ := e
    simp only [collectOkResponses, ih, foldl_known_eq, okPairs, List.flatMap_cons]
    simp [appendAll, List.foldl_append]

/-- INTERNAL: whatever order the first `range` takes, the known statuses it
appends are the known replies, up to order. -/
theorem okPairs_perm (replies : List (UInt32 × String)) (entries : List (ShardEntry String))
    (h : entries.Perm ((∅ : ShardMap String).appendAll replies).entries) :
    (okPairs entries).Perm (knownReplies replies) := by
  have hg : (fun e : ShardEntry String => (e.2.filter (· ≠ unknownStatusTx)).map (e.1, ·)) =
      fun e => (e.2.map (e.1, ·)).filter (·.2 ≠ unknownStatusTx) := by
    funext e; simp [List.filter_map, Function.comp_def]
  rw [okPairs, hg, ← List.filter_flatMap]
  have := ((h.flatMap_right _).trans (ungroup_appendAll ∅ replies)).filter
    (fun p : UInt32 × String => decide (p.2 ≠ unknownStatusTx))
  simpa [ungroup, knownReplies] using this

/-! ## Maps with at most one key -/

/-- INTERNAL: a map with no key has no entry. -/
theorem entries_eq_nil {α : Type} {m : ShardMap α} (h : ∀ k, k ∉ m) : m.entries = [] := by
  cases hm : m.entries with
  | nil => rfl
  | cons e es => exact absurd (AList.mem_keys.mpr (by simp [AList.keys, hm])) (h e.1)

/-- INTERNAL: a map whose only key is `a` is the one entry under `a`. -/
theorem entries_eq_singleton {α : Type} {m : ShardMap α} {a : UInt32}
    (h : ∀ k, k ∈ m ↔ k = a) : m.entries = [⟨a, m.get a⟩] := by
  have hkeys : m.keys = [a] := by
    have hmem : ∀ k, k ∈ m.keys ↔ k = a := fun k => AList.mem_keys.symm.trans (h k)
    have hnd := m.keys_nodup
    rcases hk : m.keys with _ | ⟨b, _ | ⟨c, t⟩⟩
    · simpa [hk] using hmem a
    · simpa [hk] using (hmem b).mp (by simp [hk])
    · have hb := (hmem b).mp (by simp [hk])
      have hc := (hmem c).mp (by simp [hk])
      simp [hk, hb, hc] at hnd
  have hfst : m.entries.map Sigma.fst = [a] := hkeys
  rcases he : m.entries with _ | ⟨⟨k, v⟩, _ | ⟨e', t⟩⟩
  · simp [he] at hfst
  · simp only [he, List.map_cons, List.map_nil, List.cons.injEq, and_true] at hfst
    subst hfst
    have hv := snd_eq_get (m := m) (e := ⟨k, v⟩) (by simp [he])
    simp only at hv
    rw [hv]
  · simp [he] at hfst

/-- INTERNAL: two keys make at least two entries. -/
theorem two_le_length_entries {α : Type} {m : ShardMap α} {a b : UInt32}
    (ha : a ∈ m) (hb : b ∈ m) (hab : a ≠ b) : 2 ≤ m.entries.length := by
  rw [AList.mem_keys] at ha hb
  have hlen : m.keys.length = m.entries.length := by simp [AList.keys, List.keys]
  rw [← hlen]
  rcases hk : m.keys with _ | ⟨c, _ | ⟨d, t⟩⟩
  · simp [hk] at ha
  · simp only [hk, List.mem_singleton] at ha hb
    exact absurd (ha.trans hb.symm) hab
  · simp

/-- INTERNAL: a range order cannot reorder a list of at most one entry. -/
theorem RangeOrder.arrange_of_length_le_one {ε : Type} (order : RangeOrder ε) {l : List ε}
    (h : l.length ≤ 1) : order.arrange l = l := by
  rcases l with _ | ⟨a, _ | ⟨b, t⟩⟩
  · exact List.Perm.nil_eq (order.perm []).symm |>.symm
  · exact List.perm_singleton.mp (order.perm [a])
  · simp at h

/-- INTERNAL: the agreement loop accepts exactly when every response equals the
first. -/
theorem checkAgreement_eq (first : String) (responses : List String) :
    checkAgreement first responses =
      if responses.all (· = first) then (first, none)
      else ("", some .errCannotGetTransactionStatus) := by
  induction responses with
  | nil => rfl
  | cons r rs ih =>
    by_cases h : first = r
    · subst h; simp [checkAgreement, ih]
    · simp [checkAgreement, h, Ne.symm h]

/-- INTERNAL: a list whose tail all equals its head stays so under permutation,
with the same head. -/
theorem all_eq_head_of_perm {β : Type} [DecidableEq β] {a b : β} {l l' : List β}
    (h : (a :: l).Perm (b :: l')) (hall : l.all (· = a) = true) :
    l'.all (· = b) = true ∧ b = a := by
  have hall' : ∀ x ∈ a :: l, x = a := by simpa using hall
  have hb : b = a := hall' b (h.mem_iff.mpr (List.mem_cons_self b l'))
  refine ⟨?_, hb⟩
  simpa using fun x hx => (hall' x (h.mem_iff.mpr (List.mem_cons_of_mem b hx))).trans hb.symm

/-- INTERNAL: the agreement loop decides, up to order, whether the statuses of a
shard are all one. -/
theorem checkAgreement_perm {f s : String} {t l : List String} (h : (f :: t).Perm (s :: l)) :
    checkAgreement f (f :: t) =
      if l.all (· = s) then (s, none) else ("", some .errCannotGetTransactionStatus) := by
  rw [checkAgreement_eq, show (f :: t).all (· = f) = t.all (· = f) by simp]
  by_cases hl : l.all (· = s) = true
  · obtain ⟨ht, rfl⟩ := all_eq_head_of_perm h.symm hl
    rw [if_pos ht, if_pos hl]
  · have ht : t.all (· = f) = false :=
      Bool.eq_false_iff.mpr fun hc => hl (all_eq_head_of_perm h hc).1
    rw [if_neg (by simp [ht]), if_neg hl]

/-- INTERNAL: replies of one shard are all one exactly when their statuses are. -/
theorem all_eq_iff_statuses {first : UInt32 × String} {rest : List (UInt32 × String)}
    (hsame : ∀ r ∈ rest, r.1 = first.1) :
    rest.all (· = first) = (rest.map Prod.snd).all (· = first.2) := by
  rw [Bool.eq_iff_iff]
  simp only [List.all_eq_true, List.mem_map, decide_eq_true_eq, forall_exists_index, and_imp,
    forall_apply_eq_imp_iff₂]
  exact forall₂_congr fun r hr => by rw [Prod.ext_iff, hsame r hr]; simp

/-! ## The bridge -/

/-- `parseTxStatusResponses`, on a map built from `replies`, returns what
`reconcileStatus` decides from them, whatever order each `range` takes; in
particular it never panics. -/
theorem parseTxStatusResponses_appendAll (replies : List (UInt32 × String))
    (allOrder okOrder : RangeOrder (ShardEntry String)) :
    parseTxStatusResponses ((∅ : ShardMap String).appendAll replies) allOrder okOrder =
      some (reconcileStatus replies) := by
  have hperm := okPairs_perm replies _ (allOrder.perm _)
  unfold parseTxStatusResponses reconcileStatus
  rw [collectOkResponses_eq]
  set ok := (∅ : ShardMap String).appendAll
    (okPairs (((∅ : ShardMap String).appendAll replies).range allOrder))
  have hmem : ∀ k, k ∈ ok ↔ k ∈ (knownReplies replies).map Prod.fst := fun k => by
    rw [mem_appendAll]
    simpa [AList.not_mem_empty] using (hperm.map Prod.fst).mem_iff
  have hget : ∀ k, (ok.get k).Perm (((knownReplies replies).filter (·.1 = k)).map Prod.snd) :=
    fun k => by
      rw [get_appendAll, get_empty, List.nil_append]
      exact (hperm.filter _).map _
  rcases hK : knownReplies replies with _ | ⟨first, rest⟩
  · -- no known status
    have hnil : ok.entries = [] := entries_eq_nil fun k hk => by simpa [hK] using (hmem k).mp hk
    simp [hnil, ShardMap.range, RangeOrder.arrange_of_length_le_one]
  by_cases hsame : ∀ r ∈ rest, r.1 = first.1
  · -- one shard: its statuses must agree
    have hent : ok.entries = [⟨first.1, ok.get first.1⟩] := entries_eq_singleton fun k => by
      rw [hmem, hK]
      simp only [List.map_cons, List.mem_cons, List.mem_map]
      exact ⟨fun h => h.elim id fun ⟨r, hr, hrk⟩ => hrk ▸ hsame r hr, fun h => .inl h⟩
    have hvs : (ok.get first.1).Perm (first.2 :: rest.map Prod.snd) := by
      have := hget first.1
      rwa [hK, List.filter_eq_self.mpr (by simpa using hsame)] at this
    obtain ⟨f, t, hft⟩ : ∃ f t, ok.get first.1 = f :: t :=
      List.exists_cons_of_ne_nil fun h => by simp [h] at hvs
    have hord : okOrder.arrange ok.entries = ok.entries :=
      RangeOrder.arrange_of_length_le_one _ (by simp [hent])
    rw [hft] at hvs hent
    simp only [ShardMap.range, hord]
    simp only [hent, List.length_singleton, gt_iff_lt, lt_self_iff_false, if_false,
      Option.some.injEq]
    rw [checkAgreement_perm hvs, all_eq_iff_statuses hsame]
  · -- two shards: a conflict, even when they agree
    push_neg at hsame
    obtain ⟨r, hr, hne⟩ := hsame
    have hrk : r.1 ∈ ok := (hmem r.1).mpr (by
      rw [hK, List.map_cons]
      exact List.mem_cons_of_mem _ (List.mem_map_of_mem _ hr))
    have h2 : 2 ≤ ok.entries.length :=
      two_le_length_entries hrk ((hmem first.1).mpr (by simp [hK])) hne
    have hall : rest.all (· = first) = false := by
      simp only [List.all_eq_false]
      exact ⟨r, hr, by simpa using fun h => hne (congrArg Prod.fst h)⟩
    simp [show ok.entries.length > 1 by omega, hall]

/-- `GetTransactionStatus` returns what `reconcileStatus` decides from the
successful replies, for every pair of iteration orders. -/
theorem getTransactionStatus_eq_reconcileStatus (tp : TransactionProcessor) (txHash : String)
    (allOrder okOrder : RangeOrder (ShardEntry String)) :
    tp.getTransactionStatus txHash allOrder okOrder =
      some (reconcileStatus (statusReplies tp txHash)) := by
  rw [TransactionProcessor.getTransactionStatus, collectStatuses_eq]
  exact parseTxStatusResponses_appendAll _ allOrder okOrder

/-! ## Any map: `responses[0]` is in bounds -/

/-- INTERNAL: the filtering loop only appends, so it stores no empty slice,
whatever slices the map it ranges over holds. -/
theorem noEmptySlice_collectOkResponses (entries : List (ShardEntry String)) :
    NoEmptySlice (collectOkResponses entries ∅) := by
  rw [collectOkResponses_eq]
  exact noEmptySlice_empty.appendAll _

/-- `parseTxStatusResponses` returns on every map, empty slices and slices of
`UnknownStatusTx` only included, whatever order each `range` takes: every slice
of `okResponses` is non-empty, so the `responses[0]` it reads is in bounds. -/
theorem parseTxStatusResponses_never_panics (allResponses : ShardMap String)
    (allOrder okOrder : RangeOrder (ShardEntry String)) :
    NoEmptySlice (collectOkResponses (allResponses.range allOrder) ∅) ∧
      (parseTxStatusResponses allResponses allOrder okOrder).isSome := by
  have hne := noEmptySlice_collectOkResponses (allResponses.range allOrder)
  refine ⟨hne, ?_⟩
  simp only [parseTxStatusResponses]
  split_ifs
  · rfl
  rcases hr : (collectOkResponses (allResponses.range allOrder) ∅).range okOrder with
    _ | ⟨⟨k, responses⟩, rest⟩
  · rfl
  · -- the slice read is an entry of `okResponses`
    obtain ⟨first, t, rfl⟩ := List.exists_cons_of_ne_nil
      (hne _ ((okOrder.perm _).subset (hr ▸ List.mem_cons_self _ _)))
    rfl

/-- An empty slice and a slice of `UnknownStatusTx` alone leave no entry in
`okResponses`. -/
example : parseTxStatusResponses
    ((((∅ : ShardMap String).insert (0 : UInt32) ([] : List String)).insert (1 : UInt32)
      [unknownStatusTx]).insert (2 : UInt32) [unknownStatusTx, "executed"])
    .stored .stored = some ("executed", none) := by decide

/-! ## Reading off `reconcileStatus` -/

/-- INTERNAL: the known replies are the replies that are not `UnknownStatusTx`. -/
@[simp] theorem mem_knownReplies {replies : List (UInt32 × String)} {r : UInt32 × String} :
    r ∈ knownReplies replies ↔ r ∈ replies ∧ r.2 ≠ unknownStatusTx := by
  simp [knownReplies]

/-- INTERNAL: no known reply is `UnknownStatusTx`. -/
theorem reconcileStatus_of_knownReplies_eq_nil {replies : List (UInt32 × String)}
    (h : knownReplies replies = []) : reconcileStatus replies = (unknownStatusTx, none) := by
  simp [reconcileStatus, h]

/-- INTERNAL: two different known replies are a conflict. -/
theorem reconcileStatus_of_ne {replies : List (UInt32 × String)} {r₁ r₂ : UInt32 × String}
    (h₁ : r₁ ∈ knownReplies replies) (h₂ : r₂ ∈ knownReplies replies) (hne : r₁ ≠ r₂) :
    reconcileStatus replies = ("", some .errCannotGetTransactionStatus) := by
  unfold reconcileStatus
  rcases hK : knownReplies replies with _ | ⟨first, rest⟩
  · simp [hK] at h₁
  have hall : rest.all (· = first) = false := by
    by_contra hc
    simp only [Bool.not_eq_false, List.all_eq_true, decide_eq_true_eq] at hc
    have hfirst : ∀ r ∈ first :: rest, r = first := by simpa using hc
    rw [hK] at h₁ h₂
    exact hne ((hfirst r₁ h₁).trans (hfirst r₂ h₂).symm)
  simp [hall]

/-- INTERNAL: known replies that are all one pair give its status. -/
theorem reconcileStatus_of_forall_eq {replies : List (UInt32 × String)} {p : UInt32 × String}
    (hp : p ∈ knownReplies replies) (hall : ∀ r ∈ knownReplies replies, r = p) :
    reconcileStatus replies = (p.2, none) := by
  unfold reconcileStatus
  rcases hK : knownReplies replies with _ | ⟨first, rest⟩
  · simp [hK] at hp
  rw [hK] at hall
  obtain rfl := hall first (List.mem_cons_self _ _)
  have : rest.all (· = first) = true := by
    simpa using fun r hr => hall r (List.mem_cons_of_mem _ hr)
  simp [this]

/-- `reconcileStatus` looks at the replies only up to order. -/
theorem reconcileStatus_perm {replies replies' : List (UInt32 × String)}
    (h : replies.Perm replies') : reconcileStatus replies = reconcileStatus replies' := by
  have hmem : ∀ r, r ∈ knownReplies replies ↔ r ∈ knownReplies replies' := fun r => by
    simp [h.mem_iff]
  by_cases hnil : knownReplies replies = []
  · have hnil' : knownReplies replies' = [] :=
      List.eq_nil_iff_forall_not_mem.mpr fun r hr => by simp [← hmem r, hnil] at hr
    rw [reconcileStatus_of_knownReplies_eq_nil hnil, reconcileStatus_of_knownReplies_eq_nil hnil']
  obtain ⟨p, hp⟩ := List.exists_mem_of_ne_nil _ hnil
  by_cases hall : ∀ r ∈ knownReplies replies, r = p
  · rw [reconcileStatus_of_forall_eq hp hall,
      reconcileStatus_of_forall_eq ((hmem p).mp hp) fun r hr => hall r ((hmem r).mpr hr)]
  push_neg at hall
  obtain ⟨r, hr, hne⟩ := hall
  rw [reconcileStatus_of_ne hr hp hne, reconcileStatus_of_ne ((hmem r).mp hr) ((hmem p).mp hp) hne]

/-- Status reconciliation, as the code does it: whatever order each `range`
takes, no known status gives `"unknown"`; two known statuses that differ, or
that come from observers of two different shards, give
`ErrCannotGetTransactionStatus`; and known statuses that are all `s` from
observers of one shard give `s`. -/
theorem getTransactionStatus_reconciles (tp : TransactionProcessor) (txHash : String)
    (allOrder okOrder : RangeOrder (ShardEntry String)) :
    ((∀ r ∈ statusReplies tp txHash, r.2 = unknownStatusTx) →
      tp.getTransactionStatus txHash allOrder okOrder = some (unknownStatusTx, none)) ∧
    (∀ r₁ ∈ statusReplies tp txHash, ∀ r₂ ∈ statusReplies tp txHash,
      r₁.2 ≠ unknownStatusTx → r₂.2 ≠ unknownStatusTx → r₁.2 ≠ r₂.2 →
      tp.getTransactionStatus txHash allOrder okOrder =
        some ("", some .errCannotGetTransactionStatus)) ∧
    (∀ r₁ ∈ statusReplies tp txHash, ∀ r₂ ∈ statusReplies tp txHash,
      r₁.2 ≠ unknownStatusTx → r₂.2 ≠ unknownStatusTx → r₁.1 ≠ r₂.1 →
      tp.getTransactionStatus txHash allOrder okOrder =
        some ("", some .errCannotGetTransactionStatus)) ∧
    (∀ (shard : UInt32) (s : String), (shard, s) ∈ statusReplies tp txHash →
      s ≠ unknownStatusTx →
      (∀ r ∈ statusReplies tp txHash, r.2 ≠ unknownStatusTx → r = (shard, s)) →
      tp.getTransactionStatus txHash allOrder okOrder = some (s, none)) := by
  rw [getTransactionStatus_eq_reconcileStatus]
  refine ⟨fun h => ?_, fun r₁ h₁ r₂ h₂ k₁ k₂ hne => ?_, fun r₁ h₁ r₂ h₂ k₁ k₂ hne => ?_,
    fun shard s hp hs hall => ?_⟩
  · rw [reconcileStatus_of_knownReplies_eq_nil]
    exact List.eq_nil_iff_forall_not_mem.mpr fun r hr => (mem_knownReplies.mp hr).2 (h r
      (mem_knownReplies.mp hr).1)
  · rw [reconcileStatus_of_ne (mem_knownReplies.mpr ⟨h₁, k₁⟩) (mem_knownReplies.mpr ⟨h₂, k₂⟩)
      fun h => hne (congrArg Prod.snd h)]
  · rw [reconcileStatus_of_ne (mem_knownReplies.mpr ⟨h₁, k₁⟩) (mem_knownReplies.mpr ⟨h₂, k₂⟩)
      fun h => hne (congrArg Prod.fst h)]
  · rw [reconcileStatus_of_forall_eq (mem_knownReplies.mpr ⟨hp, hs⟩)
      fun r hr => hall r (mem_knownReplies.mp hr).1 (mem_knownReplies.mp hr).2]

/-- Two observers, of shards 0 and 1, that both report `executed`. -/
def agreeingShards : TransactionProcessor where
  proc :=
    { computeShardId := fun _ => .ok 0
      getObservers := fun _ => .ok []
      getAllObservers := [⟨"observer0", 0⟩, ⟨"observer1", 1⟩]
      callPostRestEndPoint := fun _ _ _ response => ⟨statusOK, none, response⟩
      callGetRestEndPoint := fun _ path response => match path, response with
        | .transaction _, response => ⟨none, response⟩
        | .transactionStatus _, _ => ⟨none, { status := "executed" }⟩ }
  pubKeyConverter := ⟨fun _ => .ok []⟩

/-- Two shards that agree on `executed` still get `ErrCannotGetTransactionStatus`. -/
theorem getTransactionStatus_agreeing_shards_conflict :
    statusReplies agreeingShards "txHash" = [(0, "executed"), (1, "executed")] ∧
    agreeingShards.getTransactionStatus "txHash" .stored .stored =
      some ("", some .errCannotGetTransactionStatus) :=
  ⟨rfl, by decide⟩

/-- The third case of `getTransactionStatus_reconciles` on two agreeing shards. -/
theorem getTransactionStatus_reconciles_two_shards :
    (0, "executed") ∈ statusReplies agreeingShards "txHash" ∧
    (1, "executed") ∈ statusReplies agreeingShards "txHash" ∧
    agreeingShards.getTransactionStatus "txHash" .stored .stored =
      some ("", some .errCannotGetTransactionStatus) :=
  ⟨by decide, by decide, (getTransactionStatus_reconciles agreeingShards "txHash" .stored .stored).2.2.1
    (0, "executed") (by decide) (1, "executed") (by decide) (by decide) (by decide) (by decide)⟩

/-- The same processor over another observer list. -/
def withAllObservers (tp : TransactionProcessor) (observers : List NodeData) :
    TransactionProcessor :=
  { tp with proc := { tp.proc with getAllObservers := observers } }

/-- `GetTransactionStatus` depends on the successful replies only as a multiset of
(shard, status) pairs: not on the order of the observer list, nor on the orders
the two `range` statements take. -/
theorem getTransactionStatus_order_independent (tp : TransactionProcessor) (txHash : String) :
    (∀ observers : List NodeData, observers.Perm tp.proc.getAllObservers →
      ∀ allOrder okOrder allOrder' okOrder' : RangeOrder (ShardEntry String),
        (withAllObservers tp observers).getTransactionStatus txHash allOrder okOrder =
          tp.getTransactionStatus txHash allOrder' okOrder') ∧
    (∀ tp' : TransactionProcessor, (statusReplies tp' txHash).Perm (statusReplies tp txHash) →
      ∀ allOrder okOrder allOrder' okOrder' : RangeOrder (ShardEntry String),
        tp'.getTransactionStatus txHash allOrder okOrder =
          tp.getTransactionStatus txHash allOrder' okOrder') := by
  have key : ∀ tp' : TransactionProcessor,
      (statusReplies tp' txHash).Perm (statusReplies tp txHash) →
      ∀ allOrder okOrder allOrder' okOrder' : RangeOrder (ShardEntry String),
        tp'.getTransactionStatus txHash allOrder okOrder =
          tp.getTransactionStatus txHash allOrder' okOrder' := fun tp' h _ _ _ _ => by
    rw [getTransactionStatus_eq_reconcileStatus, getTransactionStatus_eq_reconcileStatus,
      reconcileStatus_perm h]
  exact ⟨fun observers h => key (withAllObservers tp observers) (h.filterMap _), key⟩

/-- Reversing the observers of `agreeingShards` and both iteration orders changes
nothing. -/
theorem getTransactionStatus_order_independent_reversed :
    [⟨"observer1", 1⟩, ⟨"observer0", 0⟩].Perm agreeingShards.proc.getAllObservers ∧
    (withAllObservers agreeingShards [⟨"observer1", 1⟩, ⟨"observer0", 0⟩]).getTransactionStatus
        "txHash" ⟨List.reverse, List.reverse_perm⟩ ⟨List.reverse, List.reverse_perm⟩ =
      agreeingShards.getTransactionStatus "txHash" .stored .stored :=
  ⟨List.Perm.swap _ _ [],
    (getTransactionStatus_order_independent agreeingShards "txHash").1 _ (List.Perm.swap _ _ [])
      _ _ _ _⟩

end ChainProxy.Analysis
