import Mathlib.Data.List.Nodup
import Mathlib.Data.Set.Card
import TierHeap.Proofs.BlockTable
import TierHeap.Proofs.Engine.Exactness
import TierHeap.Proofs.Word

/-!
# A sharded table is one map

Calls on a block table are carried out on the shard of their address; the same calls have a plain
meaning on one map from addresses to blocks, which knows of no shards (`TableCall.onMap`).  The
replies are the same, and the aggregates of the table, which walk all shards, are those of the map
(`BlockTable.refines_map`).
-/

namespace TierHeap

/-- A change of a block that leaves its address as it is, with a result. -/
structure BlockChange (ρ : Type) where
  apply : Block → ρ × Block
  addr_eq : ∀ block, (apply block).2.addr = block.addr

inductive TableCall (ρ : Type) where
  | insert (block : Block)
  | remove (addr : Nat)
  | get (addr : Nat)
  | contains (addr : Nat)
  | update (addr : Nat) (change : BlockChange ρ)

inductive TableReply (ρ : Type) where
  | block (found : Option Block)
  | present (found : Bool)
  | result (value : Option ρ)

/-- A plain map from addresses to blocks. -/
abbrev BlockMap : Type :=
  Nat → Option Block

variable {ρ : Type}

namespace TableCall

/-- What a call means on a plain map. -/
def onMap
    (map : BlockMap) : TableCall ρ → TableReply ρ × BlockMap
  | .insert block =>
      (.block (map block.addr), Function.update map block.addr (some block))
  | .remove addr => (.block (map addr), Function.update map addr none)
  | .get addr => (.block (map addr), map)
  | .contains addr => (.present (map addr).isSome, map)
  | .update addr change =>
      (.result ((map addr).map fun block => (change.apply block).1),
       Function.update map addr ((map addr).map fun block => (change.apply block).2))

def runOnMap
    (map : BlockMap) : List (TableCall ρ) → List (TableReply ρ) × BlockMap
  | [] => ([], map)
  | call :: rest =>
      let (reply, map) := call.onMap map
      let (replies, map) := runOnMap map rest
      (reply :: replies, map)

end TableCall

namespace BlockTable

/-- Run a change on the block at an address, if there is one. -/
def update
    (table : BlockTable)
    (addr : Nat)
    (change : BlockChange ρ) : Option ρ × BlockTable :=
  ((table.get? addr).map fun block => (change.apply block).1,
   table.modify addr fun block => (change.apply block).2)

def call
    (table : BlockTable) : TableCall ρ → TableReply ρ × BlockTable
  | .insert block =>
      let (displaced, table) := table.insert block
      (.block displaced, table)
  | .remove addr =>
      let (removed, table) := table.remove addr
      (.block removed, table)
  | .get addr => (.block (table.get? addr), table)
  | .contains addr => (.present (table.contains addr), table)
  | .update addr change =>
      let (value, table) := table.update addr change
      (.result value, table)

def run
    (table : BlockTable) : List (TableCall ρ) → List (TableReply ρ) × BlockTable
  | [] => ([], table)
  | call :: rest =>
      let (reply, table) := table.call call
      let (replies, table) := table.run rest
      (reply :: replies, table)

end BlockTable

/-- A tally is exact for a list of blocks, as far as the sums are words. -/
structure BlockTally.Exact
    (tally : BlockTally)
    (blocks : List Block) : Prop where
  count : tally.blocks = blocks.length
  requestedBytes : (blocks.map Block.size).sum < Word.bound →
    tally.requestedBytes = (blocks.map Block.size).sum
  reservedBytes : (blocks.map Block.reserved).sum < Word.bound →
    tally.reservedBytes = (blocks.map Block.reserved).sum

namespace BlockTable

/-- A table has the contents of a plain map. -/
structure Shows
    (table : BlockTable)
    (map : BlockMap) : Prop where
  get : ∀ addr, table.get? addr = map addr
  contains : ∀ addr, table.contains addr = (map addr).isSome
  size : table.size = {addr | (map addr).isSome = true}.ncard
  isEmpty : table.isEmpty = true ↔ ∀ addr, map addr = none
  /-- The snapshot lists the entries of the map, each under its own address. -/
  entries : ∀ addr block, map addr = some block ↔ block ∈ table.snapshot ∧ block.addr = addr
  ascending : table.snapshot.Pairwise fun first second => first.addr < second.addr
  tally : ∀ tier,
    (table.tally.get tier).Exact (table.snapshot.filter fun block => block.tier = tier)

variable {table : BlockTable} {map : BlockMap}

/-- Two shards have no address in common, and neither do two blocks of one shard. -/
theorem Filed.nodup_addrs (filed : table.Filed) : (table.blocks.map Block.addr).Nodup := by
  have shardAddrs : ∀ index : Fin shardCount,
      table.shards[index].values.map Block.addr = table.shards[index].keys := by
    intro index
    rw [NatMap.values, NatMap.keys, List.map_map]
    apply List.map_congr_left
    intro entry member
    exact (filed index entry member).1.symm
  have ofShard : ∀ index : Fin shardCount, ∀ addr ∈ table.shards[index].keys,
      shardOf addr = index := by
    intro index addr member
    obtain ⟨entry, entryMember, rfl⟩ := List.mem_map.mp member
    exact (filed index entry entryMember).2
  rw [blocks, List.map_flatMap, List.nodup_flatMap]
  constructor
  · intro shard member
    obtain ⟨place, inside, rfl⟩ := List.mem_iff_getElem.mp member
    have inRange : place < shardCount := by simpa using inside
    have addrs := shardAddrs ⟨place, inRange⟩
    simp only [Fin.getElem_fin, Vector.getElem_toList] at addrs ⊢
    rw [addrs]
    exact (List.pairwise_map.mpr table.shards[place].ascending).imp Nat.ne_of_lt
  · rw [List.pairwise_iff_getElem]
    intro place other inside otherInside before
    have inRange : place < shardCount := by simpa using inside
    have otherInRange : other < shardCount := by simpa using otherInside
    have addrs := shardAddrs ⟨place, inRange⟩
    have otherAddrs := shardAddrs ⟨other, otherInRange⟩
    have here := ofShard ⟨place, inRange⟩
    have there := ofShard ⟨other, otherInRange⟩
    simp only [Function.onFun, Fin.getElem_fin, Vector.getElem_toList] at *
    rw [addrs, otherAddrs]
    intro addr member otherMember
    have same := (here addr member).symm.trans (there addr otherMember)
    exact absurd (Fin.mk.inj same) (Nat.ne_of_lt before)

theorem Filed.snapshot_ascending (filed : table.Filed) :
    table.snapshot.Pairwise fun first second => first.addr < second.addr := by
  have distinct : table.snapshot.Pairwise fun first second => first.addr ≠ second.addr := by
    rw [← List.pairwise_map]
    exact ((Engine.snapshot_perm table).map Block.addr).nodup_iff.mpr filed.nodup_addrs
  exact (Engine.snapshot_sorted table).imp₂ (fun _ _ upTo other => Nat.lt_of_le_of_ne upTo other)
    distinct

theorem isEmpty_iff (table : BlockTable) : table.isEmpty = true ↔ table.blocks = [] := by
  rw [isEmpty, blocks, List.all_eq_true, List.flatMap_eq_nil_iff]
  refine forall₂_congr fun shard _ => ?_
  rw [NatMap.isEmpty, List.isEmpty_iff, NatMap.values, List.map_eq_nil_iff]

theorem tally_exact
    (table : BlockTable)
    (tier : Tier) :
    (table.tally.get tier).Exact (table.snapshot.filter fun block => block.tier = tier) := by
  have counted : table.tally.get tier =
      (table.blocks.filter fun block => block.tier = tier).foldl BlockTally.count .zero := by
    have summed := BlockTally.get_countAll tier table.blocks (.both .zero)
    cases tier <;> exact summed
  have same : (table.snapshot.filter fun block => block.tier = tier).Perm
      (table.blocks.filter fun block => block.tier = tier) :=
    (Engine.snapshot_perm table).filter _
  rw [counted, BlockTally.foldl_count]
  refine ⟨?_, fun fits => ?_, fun fits => ?_⟩
  · rw [same.length_eq]
    exact Nat.zero_add _
  · have sums := (same.map Block.size).sum_eq
    rw [sums] at fits ⊢
    exact Word.sum_eq fits
  · have sums := (same.map Block.reserved).sum_eq
    rw [sums] at fits ⊢
    exact Word.sum_eq fits

/-- A table whose look-ups are those of a map has the contents of the map. -/
theorem Filed.shows
    (filed : table.Filed)
    (get : ∀ addr, table.get? addr = map addr) :
    table.Shows map := by
  have permutation := Engine.snapshot_perm table
  have entries : ∀ addr block,
      map addr = some block ↔ block ∈ table.snapshot ∧ block.addr = addr := by
    intro addr block
    rw [← get, permutation.mem_iff, filed.mem_blocks_iff]
    constructor
    · intro found
      have own := filed.get?_addr found
      exact ⟨own.symm ▸ found, own⟩
    · rintro ⟨found, rfl⟩
      exact found
  refine ⟨get, fun addr => ?_, ?_, ?_, entries, filed.snapshot_ascending, tally_exact table⟩
  · rw [contains, get]
  · have addrs : {addr | (map addr).isSome = true} =
        ((table.blocks.map Block.addr).toFinset : Set Nat) := by
      ext addr
      simp only [Set.mem_ofPred_eq, Option.isSome_iff_exists, entries, permutation.mem_iff,
        List.coe_toFinset, List.mem_map]
    rw [addrs, Set.ncard_coe_finset, List.toFinset_card_of_nodup filed.nodup_addrs,
      List.length_map, size_eq_length]
  · rw [isEmpty_iff]
    constructor
    · intro nothing addr
      rw [← get, Option.eq_none_iff_forall_ne_some]
      intro block found
      have own := filed.get?_addr found
      have member := filed.mem_blocks_iff.mpr (own.symm ▸ found)
      rw [nothing] at member
      cases member
    · intro nothing
      rw [List.eq_nil_iff_forall_not_mem]
      intro block member
      have found := filed.mem_blocks_iff.mp member
      rw [get, nothing] at found
      cases found

/-- A call does to a table what it does to a map with the same look-ups. -/
theorem Filed.call
    (filed : table.Filed)
    (get : ∀ addr, table.get? addr = map addr)
    (call : TableCall ρ) :
    (table.call call).1 = (call.onMap map).1 ∧ (table.call call).2.Filed ∧
      ∀ addr, (table.call call).2.get? addr = (call.onMap map).2 addr := by
  cases call with
  | insert block =>
      refine ⟨congrArg TableReply.block (get block.addr), filed.insert block, fun wanted => ?_⟩
      simp only [BlockTable.call, TableCall.onMap, get?_insert, Function.update_apply, get]
  | remove addr =>
      refine ⟨congrArg TableReply.block (get addr), filed.remove addr, fun wanted => ?_⟩
      simp only [BlockTable.call, TableCall.onMap, get?_remove, Function.update_apply, get]
  | get addr =>
      exact ⟨congrArg TableReply.block (get addr), filed, get⟩
  | contains addr =>
      refine ⟨?_, filed, get⟩
      simp only [BlockTable.call, TableCall.onMap, contains, get]
  | update addr change =>
      refine ⟨?_, filed.modify change.addr_eq, fun wanted => ?_⟩
      · simp only [BlockTable.call, TableCall.onMap, update, get]
      · simp only [BlockTable.call, TableCall.onMap, update, get?_modify, Function.update_apply]
        split
        · rename_i own
          rw [own, get]
        · exact get wanted

theorem Filed.run
    (filed : table.Filed)
    (get : ∀ addr, table.get? addr = map addr)
    (calls : List (TableCall ρ)) :
    (table.run calls).1 = (TableCall.runOnMap map calls).1 ∧
      (table.run calls).2.Shows (TableCall.runOnMap map calls).2 := by
  induction calls generalizing table map with
  | nil =>
      exact ⟨rfl, filed.shows get⟩
  | cons call rest inductionHypothesis =>
      obtain ⟨reply, filedAfter, getAfter⟩ := filed.call get call
      obtain ⟨replies, shown⟩ := inductionHypothesis filedAfter getAfter
      exact ⟨congrArg₂ List.cons reply replies, shown⟩

/-- Calls on a table that was empty return what they return on an empty map, and leave the
table with the contents of that map. -/
theorem refines_map (calls : List (TableCall ρ)) :
    (empty.run calls).1 = (TableCall.runOnMap (fun _ => none) calls).1 ∧
      (empty.run calls).2.Shows (TableCall.runOnMap (fun _ => none) calls).2 :=
  filed_empty.run get?_empty calls

end BlockTable

end TierHeap
