import Mathlib.Data.List.Perm.Basic
import TierHeap.BlockTable
import TierHeap.Proofs.Ordered.Entries

/-!
# The blocks of a table

The shards of a block table together hold one collection of blocks.  Each operation is
described by the collection it leaves; look-ups and the collection say the same as long as
every block is filed under its address in the shard of that address.
-/

namespace TierHeap.BlockTable

/-- Every block is filed under its address, in the shard of that address. -/
def Filed (table : BlockTable) : Prop :=
  ∀ index : Fin shardCount, ∀ entry ∈ table.shards[index].entries,
    entry.1 = entry.2.addr ∧ shardOf entry.1 = index

/-- The blocks in other shards than that of an address. -/
def elsewhere
    (table : BlockTable)
    (addr : Nat) : List Block :=
  (table.shards.toList.eraseIdx (shardOf addr)).flatMap NatMap.values

theorem filed_empty : empty.Filed := by
  intro index entry member
  simp [empty, NatMap.empty] at member

theorem blocks_empty : empty.blocks = [] := by
  decide

variable {table : BlockTable}

theorem blocks_perm
    (table : BlockTable)
    (addr : Nat) :
    table.blocks.Perm ((table.shard addr).values ++ table.elsewhere addr) := by
  have inside : (shardOf addr).val < table.shards.toList.length := by simp
  have picked :=
    (List.getElem_cons_eraseIdx_perm inside).symm.flatMap_right NatMap.values
  rw [List.flatMap_cons] at picked
  exact picked

theorem blocks_setShard_perm
    (table : BlockTable)
    (addr : Nat)
    (shard : NatMap Block) :
    (table.setShard addr shard).blocks.Perm (shard.values ++ table.elsewhere addr) := by
  have inside : (shardOf addr).val < table.shards.toList.length := by simp
  have changed :=
    (List.set_perm_cons_eraseIdx inside shard).flatMap_right NatMap.values
  rw [List.flatMap_cons] at changed
  rw [blocks, setShard, Vector.toList_set]
  exact changed

theorem Filed.setShard
    (filed : table.Filed)
    {addr : Nat}
    {shard : NatMap Block}
    (filedShard : ∀ entry ∈ shard.entries,
      entry.1 = entry.2.addr ∧ shardOf entry.1 = shardOf addr) :
    (table.setShard addr shard).Filed := by
  intro index entry member
  by_cases same : index = shardOf addr
  · subst same
    simp only [BlockTable.setShard, Fin.getElem_fin, Vector.getElem_set_self] at member
    exact filedShard entry member
  · have other : (shardOf addr).val ≠ index.val := fun equal => same (Fin.ext equal.symm)
    simp only [BlockTable.setShard, Fin.getElem_fin, Vector.getElem_set_ne _ _ other] at member
    exact filed index entry member

theorem Filed.get?_addr
    (filed : table.Filed)
    {addr : Nat}
    {block : Block}
    (found : table.get? addr = some block) :
    block.addr = addr :=
  (filed (shardOf addr) (addr, block) (NatMap.find?_eq_some_iff _ |>.mp found)).1.symm

/-- A block is in the table if it is found under its address. -/
theorem Filed.mem_blocks_iff
    (filed : table.Filed)
    {block : Block} :
    block ∈ table.blocks ↔ table.get? block.addr = some block := by
  constructor
  · intro member
    obtain ⟨shard, shardMember, valueMember⟩ := List.mem_flatMap.mp member
    obtain ⟨index, inside, rfl⟩ := List.mem_iff_getElem.mp shardMember
    obtain ⟨entry, entryMember, rfl⟩ := List.mem_map.mp valueMember
    have inRange : index < shardCount := by simpa using inside
    obtain ⟨key, atIndex⟩ := filed ⟨index, inRange⟩ entry entryMember
    rw [key] at atIndex
    have sameShard : table.shard entry.2.addr = table.shards.toList[index] := by
      simp only [BlockTable.shard, atIndex, Fin.getElem_fin, Vector.getElem_toList]
    rw [get?, sameShard, NatMap.find?_eq_some_iff, ← key]
    exact entryMember
  · intro found
    refine (table.blocks_perm block.addr).mem_iff.mpr (List.mem_append_left _ ?_)
    exact List.mem_map.mpr ⟨(block.addr, block), (NatMap.find?_eq_some_iff _).mp found, rfl⟩

theorem size_eq_length (table : BlockTable) : table.size = table.blocks.length := by
  have counted : ∀ (shards : List (NatMap Block)) (start : Nat),
      shards.foldl (fun count shard => count + shard.size) start =
        start + (shards.flatMap NatMap.values).length := by
    intro shards
    induction shards with
    | nil =>
        intro start
        rfl
    | cons shard rest inductionHypothesis =>
        intro start
        have values : shard.values.length = shard.size := List.length_map _
        rw [List.foldl_cons, inductionHypothesis, List.flatMap_cons, List.length_append, values,
          Nat.add_assoc]
  rw [size, counted, Nat.zero_add]
  rfl

theorem insert_perm
    {block : Block}
    (absent : table.get? block.addr = none) :
    (table.insert block).2.blocks.Perm (block :: table.blocks) := by
  have entries := NatMap.entries_insert_perm absent block
  apply (table.blocks_setShard_perm block.addr _).trans
  apply ((entries.map Prod.snd).append_right _).trans
  exact (table.blocks_perm block.addr).symm.cons block

theorem Filed.insert
    (filed : table.Filed)
    (block : Block) :
    (table.insert block).2.Filed := by
  apply filed.setShard
  intro entry member
  rcases NatMap.mem_insertEntry member with rfl | old
  · exact ⟨rfl, rfl⟩
  · exact filed (shardOf block.addr) entry old

theorem remove_perm
    {addr : Nat}
    {block : Block}
    (found : table.get? addr = some block) :
    table.blocks.Perm (block :: (table.remove addr).2.blocks) := by
  have entries := NatMap.entries_erase_perm found
  apply (table.blocks_perm addr).trans
  apply ((entries.map Prod.snd).append_right _).trans
  exact (table.blocks_setShard_perm addr _).symm.cons block

theorem Filed.remove
    (filed : table.Filed)
    (addr : Nat) :
    (table.remove addr).2.Filed := by
  apply filed.setShard
  intro entry member
  exact filed (shardOf addr) entry (List.mem_filter.mp member).1

theorem setShard_self
    (table : BlockTable)
    (addr : Nat) :
    table.setShard addr (table.shard addr) = table := by
  obtain ⟨shards⟩ := table
  simp [setShard, shard]

theorem remove_of_absent
    {addr : Nat}
    (absent : table.get? addr = none) :
    (table.remove addr).2 = table := by
  rw [remove, NatMap.erase_of_absent absent]
  exact table.setShard_self addr

/-- A change puts one block in the place of another. -/
theorem modify_perm
    {addr : Nat}
    {block : Block}
    (found : table.get? addr = some block)
    (change : Block → Block) :
    (table.modify addr change).blocks.Perm (change block :: (table.remove addr).2.blocks) := by
  have entries := NatMap.entries_modify_perm found change
  apply (table.blocks_setShard_perm addr _).trans
  apply ((entries.map Prod.snd).append_right _).trans
  exact (table.blocks_setShard_perm addr _).symm.cons (change block)

theorem Filed.modify
    (filed : table.Filed)
    {addr : Nat}
    {change : Block → Block}
    (keeps : ∀ block, (change block).addr = block.addr) :
    (table.modify addr change).Filed := by
  apply filed.setShard
  intro entry member
  obtain ⟨old, oldMember, rfl⟩ := List.mem_map.mp member
  have before := filed (shardOf addr) old oldMember
  split
  · exact ⟨before.1.trans (keeps old.2).symm, before.2⟩
  · exact before

theorem size_insert
    {block : Block}
    (absent : table.get? block.addr = none) :
    (table.insert block).2.size = table.size + 1 := by
  rw [size_eq_length, size_eq_length, (insert_perm absent).length_eq, List.length_cons]

theorem size_remove
    {addr : Nat}
    {block : Block}
    (found : table.get? addr = some block) :
    (table.remove addr).2.size + 1 = table.size := by
  rw [size_eq_length, size_eq_length, (remove_perm found).length_eq, List.length_cons]

theorem size_modify
    {addr : Nat}
    {block : Block}
    (found : table.get? addr = some block)
    (change : Block → Block) :
    (table.modify addr change).size = table.size := by
  rw [← size_remove found, size_eq_length, size_eq_length, (modify_perm found change).length_eq,
    List.length_cons]

end TierHeap.BlockTable
