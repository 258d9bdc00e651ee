import ChainProxy.Model.Data

/-!
# Maps built by `m[k] = append(m[k], x)`

Every Go map of the transaction processor is built by appending elements, one at
a time, to the slice of their shard: `getTxsByShardId`, the loop of
`GetTransactionStatus` and the filtering loop of `parseTxStatusResponses`.
`ShardMap.appendAll` is that build over a list of (shard, element) pairs, and this
file says what it gives: each slice is the elements of its shard in input order
(`get_appendAll`), the keys are the shards that occur (`mem_appendAll`), no slice
is empty (`NoEmptySlice`, an invariant every append keeps), and flattening the map
back gives the input up to order (`ungroup_appendAll`). The last is the one fact
about iteration: whatever order a `range` visits the entries in, it sees every
element exactly once.
-/

set_option autoImplicit false

namespace ChainProxy.ShardMap

variable {α : Type}

/-- Appending the pairs of `l` in turn. -/
def appendAll (m : ShardMap α) (l : List (UInt32 × α)) : ShardMap α :=
  l.foldl (fun m p => m.appendTo p.1 p.2) m

/-- INTERNAL: appending nothing. -/
@[simp] theorem appendAll_nil (m : ShardMap α) : m.appendAll [] = m := rfl

/-- INTERNAL: appending the first pair, then the rest. -/
@[simp] theorem appendAll_cons (m : ShardMap α) (p : UInt32 × α) (l : List (UInt32 × α)) :
    m.appendAll (p :: l) = (m.appendTo p.1 p.2).appendAll l := rfl

/-- Each slice is the old one followed by the elements appended under its key, in
order. -/
theorem get_appendAll (m : ShardMap α) (l : List (UInt32 × α)) (k : UInt32) :
    (m.appendAll l).get k = m.get k ++ (l.filter (·.1 = k)).map Prod.snd := by
  induction l generalizing m with
  | nil => simp
  | cons p l ih =>
    rw [appendAll_cons, ih, get_appendTo]
    by_cases h : p.1 = k
    · simp [h]
    · simp [h, Ne.symm h]

/-- The keys are the old ones and those appended under. -/
theorem mem_appendAll (m : ShardMap α) (l : List (UInt32 × α)) (k : UInt32) :
    k ∈ m.appendAll l ↔ k ∈ m ∨ k ∈ l.map Prod.fst := by
  induction l generalizing m with
  | nil => simp
  | cons p l ih =>
    rw [appendAll_cons, ih, mem_appendTo]
    simp only [List.map_cons, List.mem_cons]
    tauto

/-- INTERNAL: an entry of a map is its key with the slice `get` reads. -/
theorem snd_eq_get {m : ShardMap α} {e : ShardEntry α} (h : e ∈ m.entries) :
    e.2 = m.get e.1 := by
  have : m.lookup e.1 = some e.2 := AList.mem_lookup_iff.mpr h
  simp [get, this]

/-- No slice stored in the map is empty: what a map keeps when it is only ever
written by `m[k] = append(m[k], x)`. -/
def NoEmptySlice (m : ShardMap α) : Prop := ∀ e ∈ m.entries, e.2 ≠ []

instance [DecidableEq α] : DecidablePred (NoEmptySlice (α := α)) :=
  fun m => inferInstanceAs (Decidable (∀ e ∈ m.entries, e.2 ≠ []))

/-- INTERNAL: the empty map stores no slice. -/
theorem noEmptySlice_empty : NoEmptySlice (∅ : ShardMap α) := nofun

/-- One append keeps every slice non-empty: the slice it stores has just grown,
and the others are the old ones. -/
theorem NoEmptySlice.appendTo {m : ShardMap α} (h : NoEmptySlice m) (k : UInt32) (x : α) :
    NoEmptySlice (m.appendTo k x) := by
  intro e he
  rw [ShardMap.appendTo, AList.insert_entries, List.mem_cons] at he
  rcases he with rfl | he
  · simp
  · exact h e ((List.kerase_sublist _ _).subset he)

/-- A run of appends keeps every slice non-empty. -/
theorem NoEmptySlice.appendAll {m : ShardMap α} (h : NoEmptySlice m) (l : List (UInt32 × α)) :
    NoEmptySlice (m.appendAll l) := by
  induction l generalizing m with
  | nil => exact h
  | cons p l ih => exact ih (h.appendTo p.1 p.2)

/-- The elements of a map as (key, element) pairs, entry by entry. -/
def ungroup (m : ShardMap α) : List (UInt32 × α) :=
  m.entries.flatMap (fun e => e.2.map (e.1, ·))

/-- INTERNAL: one append adds one pair to the flattened map. -/
theorem ungroup_appendTo (m : ShardMap α) (k : UInt32) (x : α) :
    (m.appendTo k x).ungroup.Perm (m.ungroup ++ [(k, x)]) := by
  simp only [ungroup, appendTo, AList.insert_entries, List.flatMap_cons]
  by_cases hk : k ∈ m.entries.keys
  · obtain ⟨b, l₁, l₂, -, he, hker⟩ := List.exists_of_kerase hk
    have hget : m.get k = b := (snd_eq_get (e := ⟨k, b⟩) (by simp [he])).symm
    rw [hker, hget, he]
    classical
    simp only [List.flatMap_append, List.flatMap_cons, List.map_append, List.map_cons, List.map_nil,
      List.perm_iff_count, List.count_append]
    intro a
    omega
  · have hget : m.get k = [] := by
      simp [get, AList.lookup_eq_none.mpr (by simpa [AList.mem_keys] using hk)]
    rw [List.kerase_of_not_mem_keys hk, hget]
    exact List.perm_append_comm

/-- Flattening the map gives back what was appended, up to order. -/
theorem ungroup_appendAll (m : ShardMap α) (l : List (UInt32 × α)) :
    (m.appendAll l).ungroup.Perm (m.ungroup ++ l) := by
  induction l generalizing m with
  | nil => simp
  | cons p l ih =>
    rw [appendAll_cons]
    refine (ih _).trans ?_
    have := (ungroup_appendTo m p.1 p.2).append_right l
    simpa using this

end ChainProxy.ShardMap
