import TierHeap.Proofs.Engine.Building
import TierHeap.Proofs.Engine.Refusals
import TierHeap.Proofs.Engine.Verification

/-!
# What changes keep

A task ends in one change of tiers, table and counters (`Task.Ends`).  Whichever change that is,
the books are kept and the gauges show the table as before, and a block that enters the table
displaces none.
-/

namespace TierHeap

namespace Engine

variable {β : Type}

/-- The gauges show the table. -/
def Gauged (engine : Engine β) : Prop :=
  engine.metrics.Gauged [] engine.table.blocks

end Engine

namespace Task.Ends

variable {β : Type} [Backend β] {engine : Engine (Recorder β)} {flight : List Block} {task : Task}
  {reply : Reply} {change : Change (Recorder β)}

/-- The block of a carved range is in flight before it enters the table. -/
theorem inFlight
    (accounted : engine.Accounted flight)
    {tier : Tier}
    {size align reserved : Nat}
    (valid : Engine.reserveAligned size align = .ok reserved)
    {carve : Carve}
    {allocator : Allocator (Recorder β)}
    (tried : (engine.tiers.get tier).allocate Engine.depth reserved align = (.ok carve, allocator))
    (abiding : Dealing.Abiding (engine.tiers.set tier allocator).dealings) :
    Engine.Accounted { engine with tiers := engine.tiers.set tier allocator }
      (⟨carve.addr, size, carve.reserved, tier⟩ :: flight) := by
  apply accounted.carve_ok valid
  · rw [Engine.carve, tried]
  · exact abiding.honest_tier tier

/-- A request that fails has not made its tier grow. -/
theorem growths_exhausted
    (accounted : engine.Accounted flight)
    {tier : Tier}
    {size align reserved : Nat}
    (valid : Engine.reserveAligned size align = .ok reserved)
    {cause : GrowError}
    {allocator : Allocator (Recorder β)}
    (tried :
      (engine.tiers.get tier).allocate Engine.depth reserved align = (.error cause, allocator))
    (abiding : Dealing.Abiding (engine.tiers.set tier allocator).dealings) :
    allocator.arena.growths = (engine.tiers.get tier).arena.growths := by
  have honest := abiding.honest_tier tier
  rw [PerTier.get_set_self] at honest
  obtain ⟨power, small, exact⟩ := Engine.reserveAligned_eq_ok valid
  have positive := (Engine.reserve_bounds exact).1
  have unmoved :=
    (accounted.backed.consistent tier).unmoved_of_allocate_error positive power small tried honest
  have growths := congrArg Arena.growths unmoved.arena
  exact growths

/-- No block is found at the address of a new one. -/
theorem fresh
    {block : Block}
    {grew : Bool}
    {allocator : Allocator (Recorder β)}
    (ends : task.Ends engine.tiers engine.table reply (.allocated block grew allocator))
    (accounted : engine.Accounted flight)
    (abiding : Dealing.Abiding (engine.tiers.set block.tier allocator).dealings) :
    engine.table.get? block.addr = none := by
  cases ends with
  | allocated valid tried =>
      exact (inFlight accounted valid tried abiding).fresh abiding

theorem accounted
    (ends : task.Ends engine.tiers engine.table reply change)
    (accounted : engine.Accounted flight)
    (abiding : Dealing.Abiding (change.apply engine).tiers.dealings) :
    (change.apply engine).Accounted flight := by
  cases ends with
  | exhausted valid tried =>
      have kept : Engine.Accounted { engine with tiers := engine.tiers.set _ _ } flight :=
        accounted.carve_error valid (by rw [Engine.carve, tried]) (abiding.honest_tier _)
      exact kept.transport rfl rfl
  | allocated valid tried =>
      have carved := inFlight accounted valid tried abiding
      exact (carved.publish (carved.fresh abiding)).transport rfl rfl
  | freed found =>
      exact (accounted.withdraw found).giveBack.transport rfl rfl
  | resized valid found tried =>
      exact (accounted.resizeBlock? found valid
        (Option.map_eq_some_iff.mpr ⟨_, tried, rfl⟩)).transport rfl rfl
  | trimmed =>
      have trimmed := (accounted.backed.trim .host Engine.depth).trim .cxl Engine.depth
      exact ⟨accounted.filed, trimmed⟩
  | _ =>
      exact accounted.transport rfl rfl

theorem gauged
    (ends : task.Ends engine.tiers engine.table reply change)
    (accounted : engine.Accounted flight)
    (abiding : Dealing.Abiding (change.apply engine).tiers.dealings)
    (gauged : engine.Gauged) :
    (change.apply engine).Gauged := by
  cases ends with
  | exhausted valid tried =>
      exact Metrics.Gauged.onOutOfMemory gauged _
  | allocated valid tried =>
      have absent := (inFlight accounted valid tried abiding).fresh abiding
      exact ((Metrics.Gauged.enter gauged _).onAllocate _).perm (.refl _)
        (BlockTable.insert_perm absent).symm
  | freed found =>
      exact (Metrics.Gauged.perm gauged (.refl _) (BlockTable.remove_perm found)).onFree
  | resized valid found tried =>
      rename_i addr size reserved block allocator
      have sameAddr := accounted.filed.get?_addr found
      rw [← sameAddr] at found
      -- The block as it is now is on its way in, in the place of the block as it was.
      have before := BlockTable.remove_perm found
      have now := BlockTable.modify_perm found fun held =>
        { held with size := size, reserved := reserved }
      have entered : engine.metrics.Gauged [{ block with size := size, reserved := reserved }]
          (block :: { block with size := size, reserved := reserved } ::
            (engine.table.remove block.addr).2.blocks) :=
        (Metrics.Gauged.enter (Metrics.Gauged.perm gauged (.refl _) before) _).perm (.refl _)
          (.swap _ _ _)
      have member := List.mem_append_left flight (before.mem_iff.mpr List.mem_cons_self)
      have small := (Engine.reserve_eq_ok (accounted.backed.reserved block member)).2.1
      have fits : block.size ≤ Word.bound := Nat.le_trans small (by decide)
      exact (entered.onResize rfl fits).perm (.refl _) now.symm
  | _ =>
      exact Metrics.Gauged.transport gauged (fun _ => rfl) (fun _ => rfl)

end Task.Ends

/-- A new engine shows an empty table. -/
theorem Session.Unused.gauged
    {β : Type}
    {session : Session (Recorder β)}
    (unused : session.Unused) :
    session.engine.Gauged := by
  rw [Engine.Gauged, unused.metrics, unused.table, BlockTable.blocks_empty]
  exact Metrics.gauged_zero

end TierHeap
