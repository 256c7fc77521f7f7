import TierHeap.Granularity
import TierHeap.Ordered.NatMap
import TierHeap.Tier

/-!
# The block table

The table records every live block under its address.  It is split into shards by address,
so that neighbouring blocks are kept apart; which shard holds a block shows in no answer.
-/

namespace TierHeap

/-- A live allocation.  Its tier never changes. -/
structure Block where
  addr : Nat
  /-- The bytes the caller asked for. -/
  size : Nat
  /-- The bytes set aside for it. -/
  reserved : Nat
  tier : Tier
  deriving DecidableEq, Repr, Inhabited

/-- Totals over the blocks of one tier. -/
structure BlockTally where
  blocks : Nat
  requestedBytes : Nat
  reservedBytes : Nat
  deriving DecidableEq, Repr, Inhabited

namespace BlockTally

def zero : BlockTally :=
  ⟨0, 0, 0⟩

def count
    (tally : BlockTally)
    (block : Block) : BlockTally where
  blocks := tally.blocks + 1
  requestedBytes := Word.add tally.requestedBytes block.size
  reservedBytes := Word.add tally.reservedBytes block.reserved

end BlockTally

abbrev shardCount : Nat := 16

/-- The live blocks, each in the shard of its address. -/
structure BlockTable where
  shards : Vector (NatMap Block) shardCount
  deriving DecidableEq

namespace BlockTable

/-- The shard of an address: consecutive granules go to consecutive shards. -/
def shardOf (addr : Nat) : Fin shardCount :=
  ⟨addr / granule % shardCount, Nat.mod_lt _ (by decide)⟩

def empty : BlockTable :=
  ⟨Vector.replicate shardCount .empty⟩

instance : Inhabited BlockTable :=
  ⟨empty⟩

def shard
    (table : BlockTable)
    (addr : Nat) : NatMap Block :=
  table.shards[shardOf addr]

def setShard
    (table : BlockTable)
    (addr : Nat)
    (shard : NatMap Block) : BlockTable :=
  ⟨table.shards.set (shardOf addr).val shard (shardOf addr).isLt⟩

def get?
    (table : BlockTable)
    (addr : Nat) : Option Block :=
  (table.shard addr).find? addr

def contains
    (table : BlockTable)
    (addr : Nat) : Bool :=
  (table.get? addr).isSome

/-- Record a block; the first result is the block it displaced, if any. -/
def insert
    (table : BlockTable)
    (block : Block) : Option Block × BlockTable :=
  (table.get? block.addr,
   table.setShard block.addr ((table.shard block.addr).insert block.addr block))

/-- Remove the block at an address; the first result is that block, if any. -/
def remove
    (table : BlockTable)
    (addr : Nat) : Option Block × BlockTable :=
  (table.get? addr, table.setShard addr ((table.shard addr).erase addr))

def modify
    (table : BlockTable)
    (addr : Nat)
    (change : Block → Block) : BlockTable :=
  table.setShard addr ((table.shard addr).modify addr change)

def size (table : BlockTable) : Nat :=
  table.shards.toList.foldl (fun count shard => count + shard.size) 0

def isEmpty (table : BlockTable) : Bool :=
  table.shards.toList.all NatMap.isEmpty

def blocks (table : BlockTable) : List Block :=
  table.shards.toList.flatMap NatMap.values

def snapshot (table : BlockTable) : List Block :=
  table.blocks.mergeSort fun first second => first.addr ≤ second.addr

def tally (table : BlockTable) : PerTier BlockTally :=
  table.blocks.foldl (fun tallies block => tallies.modify block.tier (·.count block))
    (.both .zero)

@[simp]
theorem get?_empty (addr : Nat) : empty.get? addr = none := by
  simp [get?, shard, empty]

theorem shard_setShard
    (table : BlockTable)
    (addr wanted : Nat)
    (changed : NatMap Block) :
    (table.setShard addr changed).shard wanted =
      if shardOf wanted = shardOf addr then changed else table.shard wanted := by
  by_cases same : shardOf wanted = shardOf addr
  · simp [shard, setShard, same]
  · have differs : (shardOf addr).val ≠ (shardOf wanted).val := fun equal =>
      same (Fin.ext equal.symm)
    simp [shard, setShard, same, differs]

/-- Recording a block changes the look-up of its address and no other. -/
@[simp]
theorem get?_insert
    (table : BlockTable)
    (block : Block)
    (wanted : Nat) :
    (table.insert block).2.get? wanted =
      if wanted = block.addr then some block else table.get? wanted := by
  simp only [insert, get?, shard_setShard]
  split
  · rename_i sameShard
    simp [shard, sameShard]
  · rename_i otherShard
    have differs : wanted ≠ block.addr := fun equal => otherShard (congrArg shardOf equal)
    simp [differs]

/-- Removing a block changes the look-up of its address and no other. -/
@[simp]
theorem get?_remove
    (table : BlockTable)
    (addr wanted : Nat) :
    (table.remove addr).2.get? wanted = if wanted = addr then none else table.get? wanted := by
  simp only [remove, get?, shard_setShard]
  split
  · rename_i sameShard
    simp [shard, sameShard]
  · rename_i otherShard
    have differs : wanted ≠ addr := fun equal => otherShard (congrArg shardOf equal)
    simp [differs]

/-- Changing a block changes the look-up of its address and no other. -/
@[simp]
theorem get?_modify
    (table : BlockTable)
    (addr : Nat)
    (change : Block → Block)
    (wanted : Nat) :
    (table.modify addr change).get? wanted =
      if wanted = addr then (table.get? wanted).map change else table.get? wanted := by
  simp only [modify, get?, shard_setShard]
  split
  · rename_i sameShard
    simp [shard, sameShard]
  · rename_i otherShard
    have differs : wanted ≠ addr := fun equal => otherShard (congrArg shardOf equal)
    simp [differs]

end BlockTable

end TierHeap
