import TierHeap.Engine.Session
import TierHeap.Proofs.Log.Retention

/-!
# What calls do not record

How an engine was made is noted while it is made.  No call records an event of these kinds, so
what the log shows of them after a run is what it showed before it (`Session.works_run`).
-/

namespace TierHeap

namespace Engine

variable {β : Type}

/-- The kinds of events that tell how an engine was made. -/
def makingKinds : List String :=
  ["engine_ready", "cxl_node_unset", "config_rejected", "cxl_fenced"]

/-- From one engine to another, nothing has been recorded of how an engine is made. -/
def Works (before after : Engine β) : Prop :=
  before.log.Avoids makingKinds after.log

theorem Works.refl (engine : Engine β) : engine.Works engine :=
  Log.Lifecycle.Avoids.refl engine.log

theorem Works.trans
    {first second third : Engine β}
    (left : first.Works second)
    (right : second.Works third) :
    first.Works third :=
  Log.Lifecycle.Avoids.trans left right

/-- Only the log counts. -/
theorem works_of_log
    {before after : Engine β}
    (log : after.log = before.log) :
    before.Works after := by
  rw [Works, log]
  exact .refl before.log

variable (engine : Engine β)

theorem works_note
    (level : Log.Level)
    {event : Log.Event}
    (other : event.event ∉ makingKinds) :
    engine.Works (engine.note level event) :=
  engine.log.avoids_record level other _ _

theorem works_reject
    (symbol : String)
    (err : RequestError) :
    engine.Works (engine.reject symbol err) := by
  apply works_note (engine.count Metrics.onInvalidRequest)
  cases err with
  | invalidAlignment align =>
      exact (by decide : "invalid_alignment" ∉ makingKinds)
  | _ =>
      exact (by decide : "invalid_size" ∉ makingKinds)

theorem works_exhausted
    (symbol : String)
    (tier : Tier)
    (size : Nat)
    (cause : GrowError) :
    engine.Works (engine.exhausted symbol tier size cause) :=
  works_note (engine.count _) _ (by decide : "tier_exhausted" ∉ makingKinds)

theorem works_settle
    (symbol : String)
    (tier : Tier)
    (size : Nat)
    (carve : Carve) :
    engine.Works (engine.settle symbol tier size carve) := by
  let block : Block := ⟨carve.addr, size, carve.reserved, tier⟩
  have displaced (kept : Engine β) (stale : Option Block) :
      kept.Works (kept.noteDisplaced symbol stale) := by
    cases stale with
    | none =>
        exact .refl kept
    | some stale =>
        exact kept.works_note _ (by decide : "invariant_stale_block" ∉ makingKinds)
  have grown (kept : Engine β) :
      kept.Works (if carve.grew = true then kept.noteGrowth symbol tier else kept) := by
    split
    · exact kept.works_note _ (by decide : "arena_grow" ∉ makingKinds)
    · exact .refl kept
  have published : engine.Works (engine.publish block).2 := works_of_log rfl
  have counted :
      engine.Works
        (((engine.publish block).2.noteDisplaced symbol (engine.publish block).1).count
          (·.onAllocate tier size carve.grew)) :=
    (published.trans (displaced _ (engine.publish block).1)).trans (works_of_log rfl)
  exact (counted.trans (grown _)).trans (works_note _ _ (by decide : "alloc" ∉ makingKinds))

theorem works_enableIndicator (active : Tier) : engine.Works (engine.enableIndicator active) := by
  simp only [enableIndicator]
  split
  · exact works_note { engine with mode := engine.mode.enable.2 } _
      (by decide : "indicator_enabled" ∉ makingKinds)
  · exact works_of_log rfl

theorem works_setMode
    (bank : RegisterBank)
    (thread : Nat)
    (tier : Tier) :
    engine.Works (engine.setMode bank thread tier).2.1 := by
  simp only [setMode]
  split
  · exact works_of_log rfl
  · exact works_note { engine with mode := (engine.mode.set bank thread tier).2.1 } _
      (by decide : "mode_switch" ∉ makingKinds)

theorem works_free
    (active : Tier)
    (addr : Nat) :
    engine.Works (engine.free active addr).2 := by
  simp only [free]
  split
  · rename_i after withdrawn
    have log : after.log = engine.log := congrArg (fun result => result.2.log) withdrawn.symm
    exact (works_of_log log).trans
      (works_note (after.count _) _ (by decide : "unknown_address" ∉ makingKinds))
  · rename_i block after withdrawn
    have log : (after.giveBack block).log = engine.log :=
      congrArg (fun result => result.2.log) withdrawn.symm
    exact (works_of_log log).trans
      (works_note ((after.giveBack block).count _) _ (by decide : "free" ∉ makingKinds))

theorem works_resizeInPlace (addr newSize : Nat) :
    engine.Works (engine.resizeInPlace addr newSize).2 := by
  simp only [resizeInPlace]
  split
  · exact engine.works_reject _ _
  · split
    · exact engine.works_note _ (by decide : "unknown_address" ∉ makingKinds)
    · split
      · exact engine.works_note _ (by decide : "resize_blocked" ∉ makingKinds)
      · rename_i after resized
        have log : after.log = engine.log := by
          obtain ⟨allocator, -, rfl⟩ := Option.map_eq_some_iff.mp resized
          rfl
        exact (works_of_log log).trans
          (works_note (after.count _) _ (by decide : "resize" ∉ makingKinds))

variable [Backend β]

theorem works_route
    (tier : Tier)
    (size align : Nat)
    (symbol : String) :
    engine.Works (engine.route tier size align symbol).2 := by
  simp only [route]
  split
  · exact engine.works_reject _ _
  · split
    · rename_i cause after carved
      have log : after.log = engine.log := congrArg (fun result => result.2.log) carved.symm
      exact (works_of_log log).trans (after.works_exhausted _ _ _ _)
    · rename_i carve after carved
      have log : after.log = engine.log := congrArg (fun result => result.2.log) carved.symm
      exact (works_of_log log).trans (after.works_settle _ _ _ _)

theorem works_trimTier (tier : Tier) : engine.Works (engine.trimTier tier).2 := by
  simp only [trimTier]
  split
  · exact works_of_log rfl
  · exact works_note { engine with tiers := engine.tiers.set tier _ } _
      (by decide : "release_failed" ∉ makingKinds)

theorem works_trim : engine.Works engine.trim.2 := by
  have counted : engine.Works (engine.count Metrics.onTrim) := works_of_log rfl
  simp only [trim]
  exact ((counted.trans (works_trimTier _ .host)).trans (works_trimTier _ .cxl)).trans
    (works_note _ _ (by decide : "trim" ∉ makingKinds))

end Engine

namespace Session

variable {β : Type} [Backend β]

theorem works_call
    (session : Session β)
    (thread : Nat)
    (call : Call) :
    session.engine.Works (session.call thread call).2.engine := by
  cases call with
  | enable =>
      exact session.engine.works_enableIndicator _
  | setMode tier =>
      exact session.engine.works_setMode _ _ _
  | free addr =>
      exact session.engine.works_free _ _
  | resize addr size =>
      exact session.engine.works_resizeInPlace _ _
  | trim =>
      exact session.engine.works_trim
  | _ =>
      exact session.engine.works_route _ _ _ _

/-- A run records nothing of how an engine is made. -/
theorem works_run
    (session : Session β)
    (calls : List (Nat × Call)) :
    session.engine.Works (session.run calls).engine := by
  induction calls generalizing session with
  | nil =>
      exact .refl session.engine
  | cons first rest inductionHypothesis =>
      obtain ⟨thread, call⟩ := first
      exact (session.works_call thread call).trans (inductionHypothesis _)

end Session

end TierHeap
