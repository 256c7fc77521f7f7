import TierHeap.Engine.Session

/-!
# What calls record

Every call records events of its own kinds.  Only an allocation whose block displaces another
one records `invariant_stale_block`; where none does, the log never holds such a record.
-/

namespace TierHeap

namespace Log.Lifecycle

theorem mem_snapshot_append
    {log : Lifecycle}
    {entry record : Record}
    (member : record ∈ (log.append entry).snapshot) :
    record ∈ log.snapshot ∨ record = entry := by
  rw [snapshot, append] at member
  split at member
  · rw [Fifo.toList_push, Fifo.toList_dropOldest] at member
    rcases List.mem_append.mp member with kept | new
    · exact .inl (List.mem_of_mem_drop kept)
    · exact .inr (List.mem_singleton.mp new)
  · rw [Fifo.toList_push] at member
    rcases List.mem_append.mp member with kept | new
    · exact .inl kept
    · exact .inr (List.mem_singleton.mp new)

theorem mem_snapshot_record
    {log : Lifecycle}
    {level : Level}
    {event : Event}
    {liveBlocks outstandingBytes : Nat}
    {record : Record}
    (member : record ∈ (log.record level event liveBlocks outstandingBytes).2.snapshot) :
    record ∈ log.snapshot ∨ record.event = event := by
  rw [Lifecycle.record] at member
  split at member
  · rcases mem_snapshot_append member with kept | rfl
    · exact .inl kept
    · exact .inr rfl
  · exact .inl member

end Log.Lifecycle

namespace Engine

variable {β : Type} {engine : Engine β}

/-- The kind of event that a displaced block is. -/
def staleEvent : String :=
  "invariant_stale_block"

/-- No record tells of a displaced block. -/
def Undisturbed (engine : Engine β) : Prop :=
  ∀ record ∈ engine.log.snapshot, record.event.event ≠ staleEvent

namespace Undisturbed

/-- Only the log counts. -/
theorem transport
    (undisturbed : engine.Undisturbed)
    {changed : Engine β}
    (log : changed.log = engine.log) :
    changed.Undisturbed := by
  rw [Undisturbed, log]
  exact undisturbed

theorem note
    (undisturbed : engine.Undisturbed)
    {changed : Engine β}
    (log : changed.log = engine.log)
    {level : Log.Level}
    {event : Log.Event}
    (other : event.event ≠ staleEvent) :
    (changed.note level event).Undisturbed := by
  intro record member
  rcases Log.Lifecycle.mem_snapshot_record member with kept | new
  · rw [log] at kept
    exact undisturbed record kept
  · rw [new]
    exact other

theorem reject
    (undisturbed : engine.Undisturbed)
    (symbol : String)
    (err : RequestError) :
    (engine.reject symbol err).Undisturbed := by
  apply undisturbed.note (by rfl)
  cases err <;> simp [rejectionEvent, Log.Event.new, Log.Event.withDetails, staleEvent]

theorem exhausted
    (undisturbed : engine.Undisturbed)
    (symbol : String)
    (tier : Tier)
    (size : Nat)
    (cause : GrowError) :
    (engine.exhausted symbol tier size cause).Undisturbed := by
  apply undisturbed.note (by rfl)
  change "tier_exhausted" ≠ staleEvent
  decide

theorem settle
    (undisturbed : engine.Undisturbed)
    (symbol : String)
    (tier : Tier)
    (size : Nat)
    {carve : Carve}
    (absent : engine.table.get? carve.addr = none) :
    (engine.settle symbol tier size carve).Undisturbed := by
  have grown : ∀ kept : Engine β, kept.Undisturbed →
      (if carve.grew = true then kept.noteGrowth symbol tier else kept).Undisturbed := by
    intro kept keptUndisturbed
    split
    · apply keptUndisturbed.note (by rfl)
      change "arena_grow" ≠ staleEvent
      decide
    · exact keptUndisturbed
  have published :
      (engine.publish ⟨carve.addr, size, carve.reserved, tier⟩).1 = none := absent
  have counted :
      ((engine.publish ⟨carve.addr, size, carve.reserved, tier⟩).2.count
        (·.onAllocate tier size carve.grew)).Undisturbed := undisturbed.transport rfl
  simp only [Engine.settle, published, noteDisplaced, noteAllocation]
  apply (grown _ counted).note (by rfl)
  change "alloc" ≠ staleEvent
  decide

theorem noteUnknownFree
    (undisturbed : engine.Undisturbed)
    (addr : Nat) :
    (engine.noteUnknownFree addr).Undisturbed := by
  apply undisturbed.note (by rfl)
  change "unknown_address" ≠ staleEvent
  decide

theorem noteFree
    (undisturbed : engine.Undisturbed)
    (active : Tier)
    (block : Block) :
    (engine.noteFree active block).Undisturbed := by
  apply undisturbed.note (by rfl)
  change "free" ≠ staleEvent
  decide

theorem enableIndicator
    (undisturbed : engine.Undisturbed)
    (active : Tier) :
    (engine.enableIndicator active).Undisturbed := by
  simp only [Engine.enableIndicator]
  split
  · apply undisturbed.note (by rfl)
    change "indicator_enabled" ≠ staleEvent
    decide
  · exact undisturbed.transport rfl

theorem setMode
    (undisturbed : engine.Undisturbed)
    (bank : RegisterBank)
    (thread : Nat)
    (tier : Tier) :
    (engine.setMode bank thread tier).2.1.Undisturbed := by
  simp only [Engine.setMode]
  split
  · exact undisturbed.transport rfl
  · apply undisturbed.note (by rfl)
    change "mode_switch" ≠ staleEvent
    decide

theorem free
    (undisturbed : engine.Undisturbed)
    (active : Tier)
    (addr : Nat) :
    (engine.free active addr).2.Undisturbed := by
  simp only [Engine.free]
  split
  · rename_i after withdrawn
    have log : after.log = engine.log := congrArg (fun result => result.2.log) withdrawn.symm
    exact (undisturbed.transport log).noteUnknownFree addr
  · rename_i block after withdrawn
    have log : (after.giveBack block).log = engine.log :=
      congrArg (fun result => result.2.log) withdrawn.symm
    exact (undisturbed.transport log).noteFree active block

theorem resizeInPlace
    (undisturbed : engine.Undisturbed)
    (addr newSize : Nat) :
    (engine.resizeInPlace addr newSize).2.Undisturbed := by
  simp only [Engine.resizeInPlace]
  split
  · exact undisturbed.reject _ _
  · split
    · apply undisturbed.note (by rfl)
      change "unknown_address" ≠ staleEvent
      decide
    · split
      · apply undisturbed.note (by rfl)
        change "resize_blocked" ≠ staleEvent
        decide
      · rename_i after resized
        obtain ⟨allocator, -, rfl⟩ := Option.map_eq_some_iff.mp resized
        apply undisturbed.note (by rfl)
        change "resize" ≠ staleEvent
        decide

variable [Backend β]

/-- An allocation records nothing stale if its address is new to the table. -/
theorem route
    (undisturbed : engine.Undisturbed)
    {tier : Tier}
    {size align : Nat}
    {symbol : String}
    (absent : ∀ addr, (engine.route tier size align symbol).1 = .ok addr →
      engine.table.get? addr = none) :
    (engine.route tier size align symbol).2.Undisturbed := by
  simp only [Engine.route] at absent ⊢
  split
  · exact undisturbed.reject _ _
  · rename_i reserved rounded
    simp only [rounded] at absent
    split
    · rename_i cause after carved
      have log : after.log = engine.log := congrArg (fun result => result.2.log) carved.symm
      exact (undisturbed.transport log).exhausted symbol tier size cause
    · rename_i carve after carved
      have log : after.log = engine.log := congrArg (fun result => result.2.log) carved.symm
      have table : after.table = engine.table :=
        congrArg (fun result => result.2.table) carved.symm
      rw [carved] at absent
      have fresh := absent carve.addr rfl
      rw [← table] at fresh
      exact (undisturbed.transport log).settle symbol tier size fresh

theorem trimTier
    (undisturbed : engine.Undisturbed)
    (tier : Tier) :
    (engine.trimTier tier).2.Undisturbed := by
  simp only [Engine.trimTier]
  split
  · exact undisturbed.transport rfl
  · apply undisturbed.note (by rfl)
    change "release_failed" ≠ staleEvent
    decide

theorem trim (undisturbed : engine.Undisturbed) : engine.trim.2.Undisturbed := by
  have counted : (engine.count Metrics.onTrim).Undisturbed := undisturbed.transport rfl
  simp only [Engine.trim]
  apply ((counted.trimTier .host).trimTier .cxl).note (by rfl)
  change "trim" ≠ staleEvent
  decide

end Undisturbed

end Engine

end TierHeap
