import TierHeap.Engine.Session
import TierHeap.Proofs.BlockTable
import TierHeap.Proofs.Engine.Backing

/-!
# The books of an engine

An engine accounts for its blocks when the tiers back those in the table and those in flight:
carved but not yet entered, or taken out but not yet returned.  Each step of a call moves one
block between the tiers, the flight and the table; a whole call leaves nothing in flight.

An address fresh from a tier is in no table entry (`Accounted.fresh`), so entering a block
displaces none.
-/

namespace TierHeap

namespace Engine

variable {β : Type}

/-- The tiers back the blocks in the table and the ones in flight. -/
structure Accounted
    (engine : Engine (Recorder β))
    (flight : List Block) : Prop where
  filed : engine.table.Filed
  backed : Backed engine.tiers (engine.table.blocks ++ flight)

section

variable (engine : Engine β)

@[simp]
theorem tiers_note
    (level : Log.Level)
    (event : Log.Event) :
    (engine.note level event).tiers = engine.tiers :=
  rfl

@[simp]
theorem table_note
    (level : Log.Level)
    (event : Log.Event) :
    (engine.note level event).table = engine.table :=
  rfl

@[simp]
theorem tiers_count (change : Metrics → Metrics) :
    (engine.count change).tiers = engine.tiers :=
  rfl

@[simp]
theorem table_count (change : Metrics → Metrics) :
    (engine.count change).table = engine.table :=
  rfl

@[simp]
theorem tiers_noteDisplaced
    (symbol : String)
    (displaced : Option Block) :
    (engine.noteDisplaced symbol displaced).tiers = engine.tiers := by
  cases displaced <;> rfl

@[simp]
theorem table_noteDisplaced
    (symbol : String)
    (displaced : Option Block) :
    (engine.noteDisplaced symbol displaced).table = engine.table := by
  cases displaced <;> rfl

theorem tiers_settle
    (symbol : String)
    (tier : Tier)
    (size : Nat)
    (carve : Carve) :
    (engine.settle symbol tier size carve).tiers = engine.tiers := by
  simp only [settle, noteGrowth, noteAllocation, publish]
  split <;> simp

theorem table_settle
    (symbol : String)
    (tier : Tier)
    (size : Nat)
    (carve : Carve) :
    (engine.settle symbol tier size carve).table =
      (engine.publish ⟨carve.addr, size, carve.reserved, tier⟩).2.table := by
  simp only [settle, noteGrowth, noteAllocation, publish]
  split <;> simp

end

/-- Carving asks the allocator of the tier and changes nothing else. -/
theorem carve_cases
    [Backend β]
    {engine after : Engine β}
    {tier : Tier}
    {reserved align : Nat}
    {answer : Except GrowError Carve}
    (carved : engine.carve tier reserved align = (answer, after)) :
    ∃ allocator, (engine.tiers.get tier).allocate depth reserved align = (answer, allocator) ∧
      after = { engine with tiers := engine.tiers.set tier allocator } := by
  cases carved
  exact ⟨_, rfl, rfl⟩

namespace Accounted

variable {engine : Engine (Recorder β)} {flight : List Block}

theorem perm
    (accounted : engine.Accounted flight)
    {reordered : List Block}
    (same : flight.Perm reordered) :
    engine.Accounted reordered :=
  ⟨accounted.filed, accounted.backed.perm (same.append_left _)⟩

/-- The books are those of the tiers and the table. -/
theorem transport
    (accounted : engine.Accounted flight)
    {changed : Engine (Recorder β)}
    (tiers : changed.tiers = engine.tiers)
    (table : changed.table = engine.table) :
    changed.Accounted flight := by
  refine ⟨?_, ?_⟩
  · rw [table]
    exact accounted.filed
  · rw [tiers, table]
    exact accounted.backed

/-- No block in the table is found at the address of a block in flight. -/
theorem fresh
    {block : Block}
    (accounted : engine.Accounted (block :: flight))
    (abiding : Dealing.Abiding engine.tiers.dealings) :
    engine.table.get? block.addr = none := by
  by_contra present
  obtain ⟨other, found⟩ := Option.ne_none_iff_exists'.mp present
  have sameAddr := accounted.filed.get?_addr found
  rw [← sameAddr] at found
  have member := accounted.filed.mem_blocks_iff.mpr found
  have apart :=
    (List.pairwise_append.mp (accounted.backed.pairwise_apart abiding)).2.2 other member block
      List.mem_cons_self
  have nonempty := (accounted.backed.holds (List.mem_append_left _ member)).nonempty
  have blockNonempty :=
    (accounted.backed.holds (List.mem_append_right _ List.mem_cons_self)).nonempty
  simp only [Span.Apart, Span.stop, Block.span] at *
  omega

theorem publish
    {block : Block}
    (accounted : engine.Accounted (block :: flight))
    (absent : engine.table.get? block.addr = none) :
    (engine.publish block).2.Accounted flight := by
  refine ⟨accounted.filed.insert block, accounted.backed.perm ?_⟩
  apply List.perm_middle.trans
  exact ((BlockTable.insert_perm absent).append_right flight).symm

theorem withdraw
    (accounted : engine.Accounted flight)
    {addr : Nat}
    {block : Block}
    (found : engine.table.get? addr = some block) :
    (engine.withdraw addr).2.Accounted (block :: flight) := by
  refine ⟨accounted.filed.remove addr, accounted.backed.perm ?_⟩
  exact ((BlockTable.remove_perm found).append_right flight).trans List.perm_middle.symm

theorem giveBack
    {block : Block}
    (accounted : engine.Accounted (block :: flight)) :
    (engine.giveBack block).Accounted flight :=
  ⟨accounted.filed, (accounted.backed.perm List.perm_middle).free⟩

theorem resizeBlock?
    (accounted : engine.Accounted flight)
    {addr newSize newReserved : Nat}
    {block : Block}
    (found : engine.table.get? addr = some block)
    (rounded : reserve newSize = .ok newReserved)
    {after : Engine (Recorder β)}
    (resized : engine.resizeBlock? block newSize newReserved = some after) :
    after.Accounted flight := by
  obtain ⟨allocator, resizedTier, rfl⟩ := Option.map_eq_some_iff.mp resized
  have sameAddr := accounted.filed.get?_addr found
  rw [← sameAddr] at found
  have before := (BlockTable.remove_perm found).append_right flight
  have after := (BlockTable.modify_perm found fun held =>
    { held with size := newSize, reserved := newReserved }).append_right flight
  refine ⟨accounted.filed.modify fun _ => rfl, ?_⟩
  exact ((accounted.backed.perm before).resize? rounded resizedTier).perm after.symm

section

variable [Backend β]

/-- Carving a block, which is in flight then. -/
theorem carve_ok
    (accounted : engine.Accounted flight)
    {tier : Tier}
    {size reserved align : Nat}
    (rounded : reserveAligned size align = .ok reserved)
    {carve : Carve}
    {after : Engine (Recorder β)}
    (carved : engine.carve tier reserved align = (.ok carve, after))
    (honest : Dealing.Honest (after.tiers.get tier).backend.dealings) :
    after.Accounted (⟨carve.addr, size, carve.reserved, tier⟩ :: flight) := by
  obtain ⟨allocator, allocated, rfl⟩ := carve_cases carved
  rw [PerTier.get_set_self] at honest
  have backed := accounted.backed.allocate_ok rounded allocated honest
  exact ⟨accounted.filed, backed.perm List.perm_middle.symm⟩

theorem carve_error
    (accounted : engine.Accounted flight)
    {tier : Tier}
    {size reserved align : Nat}
    (rounded : reserveAligned size align = .ok reserved)
    {err : GrowError}
    {after : Engine (Recorder β)}
    (carved : engine.carve tier reserved align = (.error err, after))
    (honest : Dealing.Honest (after.tiers.get tier).backend.dealings) :
    after.Accounted flight := by
  obtain ⟨allocator, allocated, rfl⟩ := carve_cases carved
  rw [PerTier.get_set_self] at honest
  exact ⟨accounted.filed, accounted.backed.allocate_error rounded allocated honest⟩

theorem trimTier
    (accounted : engine.Accounted flight)
    (tier : Tier) :
    (engine.trimTier tier).2.Accounted flight := by
  have backed := accounted.backed.trim tier depth
  simp only [Engine.trimTier]
  split
  · exact ⟨accounted.filed, backed⟩
  · exact ⟨accounted.filed, backed⟩

end

end Accounted

end Engine

end TierHeap
