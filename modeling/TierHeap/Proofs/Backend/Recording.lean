import TierHeap.Engine.Session
import TierHeap.Proofs.Backend.Dealings

/-!
# Recording changes nothing

A session over recorders makes the same moves as the session over the backends themselves:
forgetting the records before a run or after it gives the same session
(`Session.unrecorded_run`).
-/

namespace TierHeap

variable {β : Type}

namespace PerTier

variable {α γ : Type}

@[simp]
theorem get_map
    (f : α → γ)
    (values : PerTier α)
    (tier : Tier) :
    (values.map f).get tier = f (values.get tier) := by
  cases tier <;> rfl

theorem get_modify_self
    (values : PerTier α)
    (tier : Tier)
    (change : α → α) :
    (values.modify tier change).get tier = change (values.get tier) :=
  get_set_self _ _ _

theorem get_modify_other
    (values : PerTier α)
    {tier changed : Tier}
    (different : tier ≠ changed)
    (change : α → α) :
    (values.modify changed change).get tier = values.get tier :=
  get_set_other _ different _

theorem map_set
    (f : α → γ)
    (values : PerTier α)
    (tier : Tier)
    (value : α) :
    (values.set tier value).map f = (values.map f).set tier (f value) := by
  cases tier <;> rfl

end PerTier

namespace Allocator

def unrecorded (allocator : Allocator (Recorder β)) : Allocator β where
  tier := allocator.tier
  capacity := allocator.capacity
  growthUnit := allocator.growthUnit
  backend := allocator.backend.backend
  arena := allocator.arena

theorem unrecorded_new
    (tier : Tier)
    (backend : β)
    (capacity : Option Nat)
    (segmentSize : Nat) :
    (new tier (Recorder.start backend) capacity segmentSize).unrecorded =
      new tier backend capacity segmentSize := by
  simp only [new, unrecorded, Recorder.start]

theorem unrecorded_carve?
    (allocator : Allocator (Recorder β))
    (reserved align : Nat) :
    allocator.unrecorded.carve? reserved align =
      (allocator.carve? reserved align).map (Prod.map id unrecorded) := by
  rw [carve?, carve?, Option.map_map]
  rfl

theorem unrecorded_free
    (allocator : Allocator (Recorder β))
    (addr reserved : Nat) :
    (allocator.free addr reserved).unrecorded = allocator.unrecorded.free addr reserved :=
  rfl

theorem unrecorded_resize?
    (allocator : Allocator (Recorder β))
    (addr oldReserved newReserved : Nat) :
    allocator.unrecorded.resize? addr oldReserved newReserved =
      (allocator.resize? addr oldReserved newReserved).map unrecorded := by
  rw [resize?, resize?, Option.map_map]
  rfl

variable [Backend β]

theorem unrecorded_commit
    (allocator : Allocator (Recorder β))
    (depth len : Nat) :
    allocator.unrecorded.commit depth len =
      Prod.map id unrecorded (allocator.commit depth len) := by
  obtain ⟨tier, capacity, growthUnit, ⟨backend, dealings⟩, arena⟩ := allocator
  simp only [unrecorded, commit, Backend.commit]
  cases Backend.commit backend depth len with
  | mk answer changed =>
      cases answer <;> rfl

theorem unrecorded_grow
    (allocator : Allocator (Recorder β))
    (depth reserved : Nat) :
    allocator.unrecorded.grow depth reserved =
      Prod.map id unrecorded (allocator.grow depth reserved) := by
  unfold grow
  cases pageAlign? reserved with
  | none =>
      rfl
  | some minimum =>
      have length :
          allocator.unrecorded.growthLength? minimum = allocator.growthLength? minimum := rfl
      simp only [length, unrecorded_commit]
      cases allocator.growthLength? minimum <;> rfl

theorem unrecorded_allocate
    (allocator : Allocator (Recorder β))
    (depth reserved align : Nat) :
    allocator.unrecorded.allocate depth reserved align =
      Prod.map id unrecorded (allocator.allocate depth reserved align) := by
  simp only [allocate, unrecorded_carve?, unrecorded_grow]
  cases allocator.carve? reserved (max align granule) with
  | some carved =>
      rfl
  | none =>
      cases allocator.grow depth reserved with
      | mk answer grown =>
          cases answer with
          | error err =>
              rfl
          | ok done =>
              simp only [Option.map_none, Prod.map, id_eq, unrecorded_carve?]
              cases grown.carve? reserved (max align granule) <;> rfl

theorem unrecorded_releaseAll
    (depth released : Nat)
    (segments : List Segment)
    (allocator : Allocator (Recorder β)) :
    releaseAll depth released segments allocator.unrecorded =
      Prod.map id unrecorded (releaseAll depth released segments allocator) := by
  induction segments generalizing released allocator with
  | nil =>
      rfl
  | cons segment rest inductionHypothesis =>
      obtain ⟨tier, capacity, growthUnit, ⟨backend, dealings⟩, arena⟩ := allocator
      simp only [unrecorded, releaseAll, Backend.release]
      cases Backend.release backend depth segment with
      | mk answer changed =>
          cases answer with
          | error err =>
              rfl
          | ok done =>
              let recorder : Recorder β := ⟨changed, .release segment true :: dealings⟩
              exact inductionHypothesis (Word.add released segment.len)
                ⟨tier, capacity, growthUnit, recorder, arena.letGo segment⟩

theorem unrecorded_trim
    (allocator : Allocator (Recorder β))
    (depth : Nat) :
    allocator.unrecorded.trim depth = Prod.map id unrecorded (allocator.trim depth) :=
  unrecorded_releaseAll depth 0 _ allocator

end Allocator

/-! ## Engines -/

namespace Engine

def unrecorded (engine : Engine (Recorder β)) : Engine β where
  config := engine.config
  mode := engine.mode
  tiers := engine.tiers.map Allocator.unrecorded
  table := engine.table
  metrics := engine.metrics
  log := engine.log

theorem get_unrecorded
    (engine : Engine (Recorder β))
    (tier : Tier) :
    engine.unrecorded.tiers.get tier = (engine.tiers.get tier).unrecorded :=
  PerTier.get_map _ _ _

theorem unrecorded_count
    (engine : Engine (Recorder β))
    (change : Metrics → Metrics) :
    engine.unrecorded.count change = (engine.count change).unrecorded :=
  rfl

theorem unrecorded_note
    (engine : Engine (Recorder β))
    (level : Log.Level)
    (event : Log.Event) :
    engine.unrecorded.note level event = (engine.note level event).unrecorded :=
  rfl

theorem unrecorded_giveBack
    (engine : Engine (Recorder β))
    (block : Block) :
    engine.unrecorded.giveBack block = (engine.giveBack block).unrecorded := by
  simp only [giveBack, unrecorded, PerTier.modify, PerTier.map_set, PerTier.get_map]
  rfl

theorem unrecorded_publish
    (engine : Engine (Recorder β))
    (block : Block) :
    engine.unrecorded.publish block = Prod.map id unrecorded (engine.publish block) :=
  rfl

theorem unrecorded_withdraw
    (engine : Engine (Recorder β))
    (addr : Nat) :
    engine.unrecorded.withdraw addr = Prod.map id unrecorded (engine.withdraw addr) :=
  rfl

theorem unrecorded_noteDisplaced
    (engine : Engine (Recorder β))
    (symbol : String)
    (displaced : Option Block) :
    engine.unrecorded.noteDisplaced symbol displaced =
      (engine.noteDisplaced symbol displaced).unrecorded := by
  cases displaced <;> rfl

theorem unrecorded_noteGrowth
    (engine : Engine (Recorder β))
    (symbol : String)
    (tier : Tier) :
    engine.unrecorded.noteGrowth symbol tier = (engine.noteGrowth symbol tier).unrecorded := by
  cases tier <;> rfl

theorem unrecorded_settle
    (engine : Engine (Recorder β))
    (symbol : String)
    (tier : Tier)
    (size : Nat)
    (carve : Carve) :
    engine.unrecorded.settle symbol tier size carve =
      (engine.settle symbol tier size carve).unrecorded := by
  simp only [settle, unrecorded_publish, Prod.map, id_eq, unrecorded_noteDisplaced,
    unrecorded_count, unrecorded_noteGrowth]
  split <;> rfl

theorem unrecorded_resizeBlock?
    (engine : Engine (Recorder β))
    (block : Block)
    (newSize newReserved : Nat) :
    engine.unrecorded.resizeBlock? block newSize newReserved =
      (engine.resizeBlock? block newSize newReserved).map unrecorded := by
  simp only [resizeBlock?, get_unrecorded, Allocator.unrecorded_resize?, Option.map_map]
  congr 1
  funext allocator
  simp only [Function.comp_apply, unrecorded, PerTier.map_set]

theorem unrecorded_tierStats
    (engine : Engine (Recorder β))
    (tier : Tier) :
    engine.unrecorded.tierStats tier = engine.tierStats tier := by
  rw [tierStats, get_unrecorded]
  rfl

theorem unrecorded_verifyBlocks
    (engine : Engine (Recorder β))
    (previous : Option Block)
    (tallies : PerTier BlockTally)
    (blocks : List Block) :
    engine.unrecorded.verifyBlocks previous tallies blocks =
      engine.verifyBlocks previous tallies blocks := by
  have inside (block : Block) :
      engine.unrecorded.insideArena block = engine.insideArena block := by
    rw [insideArena, get_unrecorded]
    rfl
  induction blocks generalizing previous tallies with
  | nil =>
      rfl
  | cons block rest inductionHypothesis =>
      simp only [verifyBlocks, inside, inductionHypothesis]

theorem unrecorded_verify (engine : Engine (Recorder β)) :
    engine.unrecorded.verify = engine.verify := by
  have table : engine.unrecorded.table = engine.table := rfl
  simp only [verify, table, unrecorded_verifyBlocks, verifyTier, unrecorded_tierStats]

theorem unrecorded_enableIndicator
    (engine : Engine (Recorder β))
    (active : Tier) :
    engine.unrecorded.enableIndicator active = (engine.enableIndicator active).unrecorded := by
  have mode : engine.unrecorded.mode = engine.mode := rfl
  simp only [enableIndicator, mode]
  by_cases first : engine.mode.enable.1 = true
  · simp only [first, if_true]
    rfl
  · simp only [first]
    rfl

theorem unrecorded_setMode
    (engine : Engine (Recorder β))
    (bank : RegisterBank)
    (thread : Nat)
    (tier : Tier) :
    engine.unrecorded.setMode bank thread tier =
      Prod.map id (Prod.map unrecorded id) (engine.setMode bank thread tier) := by
  have mode : engine.unrecorded.mode = engine.mode := rfl
  simp only [setMode, mode]
  by_cases same : (engine.mode.set bank thread tier).1 = tier
  · simp only [same, if_true]
    rfl
  · simp only [same, if_false]
    rfl

theorem unrecorded_free
    (engine : Engine (Recorder β))
    (active : Tier)
    (addr : Nat) :
    engine.unrecorded.free active addr = Prod.map id unrecorded (engine.free active addr) := by
  simp only [free, unrecorded_withdraw]
  cases engine.withdraw addr with
  | mk found changed =>
      cases found with
      | none =>
          rfl
      | some block =>
          simp only [Prod.map, id_eq, unrecorded_giveBack]
          rfl

theorem unrecorded_resizeInPlace
    (engine : Engine (Recorder β))
    (addr newSize : Nat) :
    engine.unrecorded.resizeInPlace addr newSize =
      Prod.map id unrecorded (engine.resizeInPlace addr newSize) := by
  have table : engine.unrecorded.table = engine.table := rfl
  unfold resizeInPlace
  cases reserve newSize with
  | error err =>
      rfl
  | ok newReserved =>
      simp only [table]
      cases engine.table.get? addr with
      | none =>
          rfl
      | some block =>
          simp only [unrecorded_resizeBlock?]
          cases engine.resizeBlock? block newSize newReserved <;> rfl

variable [Backend β]

theorem unrecorded_carve
    (engine : Engine (Recorder β))
    (tier : Tier)
    (reserved align : Nat) :
    engine.unrecorded.carve tier reserved align =
      Prod.map id unrecorded (engine.carve tier reserved align) := by
  simp only [carve, get_unrecorded, Allocator.unrecorded_allocate, Prod.map, id_eq]
  simp only [unrecorded, PerTier.map_set]

theorem unrecorded_route
    (engine : Engine (Recorder β))
    (tier : Tier)
    (size align : Nat)
    (symbol : String) :
    engine.unrecorded.route tier size align symbol =
      Prod.map id unrecorded (engine.route tier size align symbol) := by
  unfold route
  cases reserveAligned size align with
  | error err =>
      rfl
  | ok reserved =>
      simp only [unrecorded_carve]
      cases engine.carve tier reserved align with
      | mk answer carved =>
          cases answer with
          | error cause =>
              rfl
          | ok carve =>
              simp only [Prod.map, id_eq, unrecorded_settle]

theorem unrecorded_trimTier
    (engine : Engine (Recorder β))
    (tier : Tier) :
    engine.unrecorded.trimTier tier = Prod.map id unrecorded (engine.trimTier tier) := by
  simp only [trimTier, get_unrecorded, Allocator.unrecorded_trim]
  cases (engine.tiers.get tier).trim depth with
  | mk answer trimmed =>
      cases answer <;> simp only [Prod.map, id_eq, unrecorded, note, PerTier.map_set]

theorem unrecorded_trim (engine : Engine (Recorder β)) :
    engine.unrecorded.trim = Prod.map id unrecorded engine.trim := by
  rw [trim, trim, unrecorded_count, unrecorded_trimTier]
  simp only [Prod.map_fst, Prod.map_snd, id_eq, unrecorded_trimTier, unrecorded_note]
  rfl

theorem unrecorded_withBackends
    (config : Config)
    (bank : RegisterBank)
    (backends : PerTier β) :
    withBackends config bank backends =
      Prod.map unrecorded id (withBackends config bank (backends.map Recorder.start)) := by
  have description (backend : β) :
      Backend.describe (Recorder.start backend) = Backend.describe backend := rfl
  obtain ⟨host, cxl⟩ := backends
  simp only [withBackends, Prod.map, ← unrecorded_note]
  simp only [unrecorded, PerTier.map, PerTier.ofFn, PerTier.get, Allocator.unrecorded_new,
    description, id_eq]

end Engine

namespace Session

def unrecorded (session : Session (Recorder β)) : Session β :=
  ⟨session.engine.unrecorded, session.bank⟩

variable [Backend β]

theorem unrecorded_call
    (session : Session (Recorder β))
    (thread : Nat)
    (call : Call) :
    session.unrecorded.call thread call =
      Prod.map id unrecorded (session.call thread call) := by
  have active : session.unrecorded.active thread = session.active thread := rfl
  have engine : session.unrecorded.engine = session.engine.unrecorded := rfl
  cases call with
  | enable =>
      simp only [Session.call, active, engine, Engine.unrecorded_enableIndicator]
      rfl
  | setMode tier =>
      simp only [Session.call, engine, Engine.unrecorded_setMode]
      rfl
  | allocate size =>
      simp only [Session.call, Engine.allocate, active, engine, Engine.unrecorded_route]
      rfl
  | allocateAligned size align =>
      simp only [Session.call, Engine.allocateAligned, active, engine, Engine.unrecorded_route]
      rfl
  | allocateOn tier size =>
      simp only [Session.call, Engine.allocateOn, engine, Engine.unrecorded_route]
      rfl
  | allocateOnAligned tier size align =>
      simp only [Session.call, Engine.allocateOnAligned, engine, Engine.unrecorded_route]
      rfl
  | free addr =>
      simp only [Session.call, active, engine, Engine.unrecorded_free]
      rfl
  | resize addr size =>
      simp only [Session.call, engine, Engine.unrecorded_resizeInPlace]
      rfl
  | trim =>
      simp only [Session.call, engine, Engine.unrecorded_trim]
      rfl

/-- A run with records is the run without them, seen by its answers. -/
theorem unrecorded_run
    (session : Session (Recorder β))
    (calls : List (Nat × Call)) :
    session.unrecorded.run calls = (session.run calls).unrecorded := by
  induction calls generalizing session with
  | nil =>
      rfl
  | cons call rest inductionHypothesis =>
      simp only [run, List.foldl_cons, unrecorded_call, Prod.map] at *
      exact inductionHypothesis (session.call call.1 call.2).2

end Session

end TierHeap
