import TierHeap.Proofs.Engine.Building
import TierHeap.Proofs.Engine.Tasks
import TierHeap.Proofs.Log.Replay

/-!
# What calls report

A call that makes a block come, go or change reports it in its last record, with the gauges
after the change; the records before that one, and all records of other calls, tell of no block
(`Session.reports_call`).
-/

namespace TierHeap

def Change.tale?
    {β : Type} : Change β → Option Log.Tale
  | .allocated block _ _ => some (.alloc block.addr block.size block.tier)
  | .freed _ block => some (.free block.addr block.size block.tier)
  | .resized block newSize _ _ => some (.resize block.addr newSize block.tier)
  | _ => none

/-- The record tells this, and its gauges are those of the counters. -/
structure Log.Record.Shows
    (record : Log.Record)
    (tale : Log.Tale)
    (metrics : Metrics) : Prop where
  tale : record.tale? = some tale
  tells : record.Tells
  liveBlocks : record.liveBlocks = metrics.liveBlocks
  outstandingBytes : record.outstandingBytes = metrics.outstandingBytes

namespace Engine

variable {β : Type}

/-- From a log to that of an engine, records have been appended of which only the last one may
tell of a block: this tale, if any, with the gauges of the engine. -/
def Reports
    (before : Log.Lifecycle)
    (after : Engine β) : Option Log.Tale → Prop
  | none => before.Quiet after.log
  | some tale =>
      ∃ middle record,
        before.Quiet middle ∧ middle.Appended after.log [record] ∧
          record.Shows tale after.metrics

/-- A last note tells the tale that its event tells. -/
theorem reports_note
    {before : Log.Lifecycle}
    {engine : Engine β}
    (quiet : before.Quiet engine.log)
    (threshold : before.threshold = some .trace)
    {level : Log.Level}
    {event : Log.Event}
    {tale : Log.Tale}
    (telling : event.event ∈ Log.tellingKinds)
    (tells : ∀ id liveBlocks outstandingBytes,
      (Log.Record.mk id level event liveBlocks outstandingBytes).tale? = some tale) :
    Reports before (engine.note level event) (some tale) := by
  obtain ⟨records, appended, silent⟩ := quiet
  have enabled : engine.log.enabled level = true :=
    Log.Lifecycle.enabled_of_trace (appended.threshold.trans threshold) level
  exact
    ⟨engine.log, _, ⟨records, appended, silent⟩,
     Log.Lifecycle.appended_record_of_enabled enabled event _ _,
     ⟨tells _ _ _, telling, rfl, rfl⟩⟩

section

variable {before : Log.Lifecycle} {engine : Engine β}

theorem quiet_note
    (quiet : before.Quiet engine.log)
    {level : Log.Level}
    {event : Log.Event}
    (silent : event.event ∉ Log.tellingKinds) :
    before.Quiet (engine.note level event).log :=
  quiet.trans (engine.noted_note level silent).1

theorem quiet_reject
    (quiet : before.Quiet engine.log)
    (symbol : String)
    (err : RequestError) :
    before.Quiet (engine.reject symbol err).log := by
  have silent : rejectionEvent err ∉ Log.tellingKinds := by
    cases err with
    | invalidAlignment align =>
        exact (by decide : "invalid_alignment" ∉ Log.tellingKinds)
    | _ =>
        exact (by decide : "invalid_size" ∉ Log.tellingKinds)
  exact quiet_note quiet silent

theorem quiet_noteDisplaced
    (quiet : before.Quiet engine.log)
    (symbol : String)
    (displaced : Option Block) :
    before.Quiet (engine.noteDisplaced symbol displaced).log := by
  cases displaced with
  | none =>
      exact quiet
  | some stale =>
      apply quiet_note quiet
      exact (by decide : "invariant_stale_block" ∉ Log.tellingKinds)

theorem quiet_noteGrowth
    (quiet : before.Quiet engine.log)
    (symbol : String)
    (tier : Tier) :
    before.Quiet (engine.noteGrowth symbol tier).log := by
  apply quiet_note quiet
  exact (by decide : "arena_grow" ∉ Log.tellingKinds)

theorem quiet_trimTier
    [Backend β]
    (quiet : before.Quiet engine.log)
    (tier : Tier) :
    before.Quiet (engine.trimTier tier).2.log := by
  simp only [trimTier]
  split
  · exact quiet
  · refine quiet_note ?_ (by decide : "release_failed" ∉ Log.tellingKinds)
    exact quiet

end

variable (engine : Engine β)

theorem quiet_enableIndicator (active : Tier) :
    engine.log.Quiet (engine.enableIndicator active).log := by
  simp only [enableIndicator]
  split
  · refine quiet_note ?_ (by decide : "indicator_enabled" ∉ Log.tellingKinds)
    exact .refl engine.log
  · exact .refl engine.log

theorem quiet_setMode
    (bank : RegisterBank)
    (thread : Nat)
    (tier : Tier) :
    engine.log.Quiet (engine.setMode bank thread tier).2.1.log := by
  simp only [setMode]
  split
  · exact .refl engine.log
  · refine quiet_note ?_ (by decide : "mode_switch" ∉ Log.tellingKinds)
    exact .refl engine.log

theorem quiet_trim [Backend β] : engine.log.Quiet engine.trim.2.log := by
  have counted : engine.log.Quiet (engine.count Metrics.onTrim).log := .refl engine.log
  simp only [trim]
  refine quiet_note ?_ (by decide : "trim" ∉ Log.tellingKinds)
  exact quiet_trimTier (quiet_trimTier counted .host) .cxl

variable {engine}

theorem reports_settle
    {before : Log.Lifecycle}
    (quiet : before.Quiet engine.log)
    (threshold : before.threshold = some .trace)
    (symbol : String)
    (tier : Tier)
    (size : Nat)
    (carve : Carve) :
    Reports before (engine.settle symbol tier size carve)
      (some (.alloc carve.addr size tier)) := by
  have published :
      before.Quiet (engine.publish ⟨carve.addr, size, carve.reserved, tier⟩).2.log := quiet
  have displaced :=
    quiet_noteDisplaced published symbol
      (engine.publish ⟨carve.addr, size, carve.reserved, tier⟩).1
  simp only [settle]
  apply reports_note _ threshold (by decide : "alloc" ∈ Log.tellingKinds)
  · intro id liveBlocks outstandingBytes
    rfl
  · split
    · apply quiet_noteGrowth
      exact displaced
    · exact displaced

theorem reports_route
    [Backend β]
    (threshold : engine.log.threshold = some .trace)
    (tier : Tier)
    (size align : Nat)
    (symbol : String) :
    Reports engine.log (engine.route tier size align symbol).2
      (Task.allocation engine.tiers tier size align).2.tale? := by
  simp only [Task.allocation, route]
  cases reserveAligned size align with
  | error err =>
      exact quiet_reject (.refl engine.log) symbol err
  | ok reserved =>
      simp only [carve]
      cases (engine.tiers.get tier).allocate depth reserved align with
      | mk answer allocator =>
          cases answer with
          | error cause =>
              refine quiet_note ?_ (by decide : "tier_exhausted" ∉ Log.tellingKinds)
              exact .refl engine.log
          | ok carve =>
              apply reports_settle _ threshold
              exact .refl engine.log

theorem reports_free
    (threshold : engine.log.threshold = some .trace)
    (active : Tier)
    (addr : Nat) :
    Reports engine.log (engine.free active addr).2
      (Task.release (β := β) engine.table addr).2.tale? := by
  simp only [Task.release]
  cases found : engine.table.get? addr with
  | none =>
      have withdrawn : engine.table.remove addr = (none, (engine.table.remove addr).2) :=
        Prod.ext found rfl
      rw [free, withdraw, withdrawn]
      refine quiet_note ?_ (by decide : "unknown_address" ∉ Log.tellingKinds)
      exact .refl engine.log
  | some block =>
      have withdrawn : engine.table.remove addr = (some block, (engine.table.remove addr).2) :=
        Prod.ext found rfl
      rw [free, withdraw, withdrawn]
      apply reports_note _ threshold (by decide : "free" ∈ Log.tellingKinds)
      · intro id liveBlocks outstandingBytes
        rfl
      · exact .refl engine.log

theorem reports_resizeInPlace
    [Backend β]
    (filed : engine.table.Filed)
    (threshold : engine.log.threshold = some .trace)
    (addr size : Nat) :
    Reports engine.log (engine.resizeInPlace addr size).2
      (Task.resizing engine.tiers engine.table addr size).2.tale? := by
  simp only [Task.resizing, resizeInPlace, resizeBlock?]
  cases reserve size with
  | error err =>
      exact quiet_reject (.refl engine.log) "resize_in_place" err
  | ok reserved =>
      dsimp only
      cases found : engine.table.get? addr with
      | none =>
          exact quiet_note (.refl engine.log) (by decide : "unknown_address" ∉ Log.tellingKinds)
      | some block =>
          dsimp only
          cases (engine.tiers.get block.tier).resize? block.addr block.reserved reserved with
          | none =>
              exact quiet_note (.refl engine.log)
                (by decide : "resize_blocked" ∉ Log.tellingKinds)
          | some allocator =>
              -- The event names the address that was asked for, which is the block's.
              obtain rfl := filed.get?_addr found
              apply reports_note _ threshold (by decide : "resize" ∈ Log.tellingKinds)
              · intro id liveBlocks outstandingBytes
                rfl
              · exact .refl engine.log

end Engine

namespace Session

variable {β : Type} [Backend β] {session : Session β} {thread : Nat} {call : Call}

theorem quiet_call_of_no_task
    (none : call.task? (session.active thread) = none) :
    session.engine.log.Quiet (session.call thread call).2.engine.log := by
  cases call with
  | enable =>
      exact session.engine.quiet_enableIndicator _
  | setMode tier =>
      exact session.engine.quiet_setMode _ _ _
  | _ =>
      cases none

/-- A call reports the change that its task ends in. -/
theorem reports_call
    (filed : session.engine.table.Filed)
    (threshold : session.engine.log.threshold = some .trace)
    {task : Task}
    (asked : call.task? (session.active thread) = some task) :
    Engine.Reports session.engine.log (session.call thread call).2.engine
      (task.outcome session.engine.tiers session.engine.table).2.tale? := by
  cases call with
  | enable =>
      cases asked
  | setMode tier =>
      cases asked
  | free addr =>
      cases asked
      exact Engine.reports_free threshold _ addr
  | resize addr size =>
      cases asked
      exact Engine.reports_resizeInPlace filed threshold addr size
  | trim =>
      cases asked
      exact session.engine.quiet_trim
  | _ =>
      cases asked
      exact Engine.reports_route threshold _ _ _ _

end Session

end TierHeap
