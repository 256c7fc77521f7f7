import TierHeap.ProcessHeap
import TierHeap.Proofs.Engine.Runs
import TierHeap.Proofs.Log.Appending

/-!
# New engines

An engine is made over given backends, or over those that a configuration or a reading of the
environment selects.  In each case it holds nothing and has counted nothing; it may have noted
how it was made.
-/

namespace TierHeap

namespace Engine

variable {β : Type}

/-- From one engine to another, records have been appended that tell of no block, and nothing
else has changed. -/
def Noted (before after : Engine β) : Prop :=
  before.log.Quiet after.log ∧ after = { before with log := after.log }

theorem Noted.refl (engine : Engine β) : engine.Noted engine :=
  ⟨.refl engine.log, rfl⟩

theorem Noted.trans
    {first second third : Engine β}
    (left : first.Noted second)
    (right : second.Noted third) :
    first.Noted third := by
  refine ⟨left.1.trans right.1, ?_⟩
  rw [right.2, left.2]

theorem noted_note
    (engine : Engine β)
    (level : Log.Level)
    {event : Log.Event}
    (silent : event.event ∉ Log.tellingKinds) :
    engine.Noted (engine.note level event) :=
  ⟨engine.log.quiet_record level silent _ _, rfl⟩

theorem noted_noteRejected
    (engine : Engine β)
    (err : SettingError) :
    engine.Noted (engine.noteRejected err) := by
  apply noted_note
  cases err.tier? <;>
    exact (by decide : "config_rejected" ∉ Log.tellingKinds)

theorem noted_foldl_noteRejected
    (errs : List SettingError)
    (engine : Engine β) :
    engine.Noted (errs.foldl noteRejected engine) := by
  induction errs generalizing engine with
  | nil =>
      exact .refl engine
  | cons err rest inductionHypothesis =>
      exact (engine.noted_noteRejected err).trans (inductionHypothesis (engine.noteRejected err))

section

variable [Backend β]

theorem noted_ofConfig
    (source : Config → Tier → β)
    (config : Config)
    (bank : RegisterBank) :
    (withBackends config bank (.ofFn (source config))).1.Noted (ofConfig source config bank).1 := by
  rw [ofConfig]
  dsimp only
  split
  · apply noted_note
    exact (by decide : "cxl_node_unset" ∉ Log.tellingKinds)
  · exact .refl _

theorem noted_ofReading
    (source : Config → Tier → β)
    (reading : Config.Reading)
    (bank : RegisterBank) :
    (withBackends reading.config bank (.ofFn (source reading.config))).1.Noted
      (ofReading source reading bank).1 := by
  rw [ofReading]
  dsimp only
  have noted :=
    (noted_ofConfig source reading.config bank).trans
      (noted_foldl_noteRejected reading.rejected _)
  split
  · apply noted.trans
    apply noted_note
    exact (by decide : "cxl_fenced" ∉ Log.tellingKinds)
  · exact noted

end

end Engine

namespace Session

variable {β : Type}

def starting (made : Engine β × RegisterBank) : Session β :=
  ⟨made.1, made.2⟩

/-- Nothing has happened yet in a session over the backends of a configuration. -/
structure Fresh
    (source : Config → Tier → β)
    (config : Config)
    (bank : RegisterBank)
    (session : Session β) : Prop where
  config_eq : session.engine.config = config
  allocator : ∀ tier, session.engine.tiers.get tier =
    .new tier (source config tier) (config.tiers.get tier).capacity config.segmentSize
  table : session.engine.table = .empty
  metrics : session.engine.metrics = .zero
  mode : session.engine.mode = (bank.create config.scope).1
  bank_eq : session.bank = (bank.create config.scope).2

/-- Only the log of a new engine may be different. -/
theorem fresh_of_noted
    [Backend β]
    {source : Config → Tier → β}
    {config : Config}
    {bank : RegisterBank}
    {session : Session β}
    (noted : (Engine.withBackends config bank (.ofFn (source config))).1.Noted session.engine)
    (sameBank : session.bank = (bank.create config.scope).2) :
    session.Fresh source config bank := by
  refine ⟨?_, fun tier => ?_, ?_, ?_, ?_, sameBank⟩ <;> rw [noted.2]
  · rfl
  · cases tier <;> rfl
  · rfl
  · rfl
  · rfl

theorem fresh_ofConfig
    [Backend β]
    (source : Config → Tier → β)
    (config : Config)
    (bank : RegisterBank) :
    (starting (Engine.ofConfig source config bank)).Fresh source config bank := by
  apply fresh_of_noted (Engine.noted_ofConfig source config bank)
  rw [starting, Engine.ofConfig]
  dsimp only
  split <;> rfl

theorem fresh_ofReading
    [Backend β]
    (source : Config → Tier → β)
    (reading : Config.Reading)
    (bank : RegisterBank) :
    (starting (Engine.ofReading source reading bank)).Fresh source reading.config bank := by
  apply fresh_of_noted (Engine.noted_ofReading source reading bank)
  exact (fresh_ofConfig source reading.config bank).bank_eq

/-- Nothing is held and nothing is counted. -/
structure Unused (session : Session (Recorder β)) : Prop where
  accounted : session.engine.Accounted []
  table : session.engine.table = .empty
  metrics : session.engine.metrics = .zero
  arena : ∀ tier, (session.engine.tiers.get tier).arena = .empty
  dealings : ∀ tier, (session.engine.tiers.get tier).backend.dealings = []

variable [Backend β]

/-- A session with a new engine over recorded backends, however the engine was made. -/
inductive Built : Session (Recorder β) → Prop where
  | withBackends
      (config : Config)
      (bank : RegisterBank)
      (backends : PerTier β) :
      Built (opening config bank (backends.map Recorder.start))
  | ofConfig
      (source : Config → Tier → β)
      (config : Config)
      (bank : RegisterBank) :
      Built
        (starting
          (Engine.ofConfig (fun config tier => Recorder.start (source config tier)) config bank))
  | ofReading
      (source : Config → Tier → β)
      (reading : Config.Reading)
      (bank : RegisterBank) :
      Built
        (starting
          (Engine.ofReading (fun config tier => Recorder.start (source config tier)) reading
            bank))

/-- It is an engine over given backends, but for what it has noted. -/
theorem Built.noted
    {session : Session (Recorder β)}
    (built : session.Built) :
    ∃ config bank, ∃ backends : PerTier β,
      (Engine.withBackends config bank (backends.map Recorder.start)).1.Noted session.engine := by
  cases built with
  | withBackends config bank backends =>
      exact ⟨config, bank, backends, .refl _⟩
  | ofConfig source config bank =>
      have noted :=
        Engine.noted_ofConfig (fun config tier => Recorder.start (source config tier)) config
          bank
      exact ⟨config, bank, .ofFn (source config), noted⟩
  | ofReading source reading bank =>
      have noted :=
        Engine.noted_ofReading (fun config tier => Recorder.start (source config tier)) reading
          bank
      exact ⟨reading.config, bank, .ofFn (source reading.config), noted⟩

theorem Built.fresh
    {session : Session (Recorder β)}
    (built : session.Built) :
    ∃ source config bank, session.Fresh source config bank := by
  cases built with
  | withBackends config bank backends =>
      refine ⟨fun _ tier => (backends.map Recorder.start).get tier, config, bank, ?_⟩
      exact fresh_of_noted (.refl _) rfl
  | ofConfig source config bank =>
      exact ⟨_, config, bank, fresh_ofConfig _ config bank⟩
  | ofReading source reading bank =>
      exact ⟨_, reading.config, bank, fresh_ofReading _ reading bank⟩

/-- Its log tells of no block. -/
theorem Built.quiet
    {session : Session (Recorder β)}
    (built : session.Built) :
    ∃ threshold capacity,
      (Log.Lifecycle.new threshold capacity).Quiet session.engine.log := by
  obtain ⟨config, bank, backends, quiet, -⟩ := built.noted
  refine ⟨config.threshold, config.logCapacity, Log.Lifecycle.Quiet.trans ?_ quiet⟩
  exact
    Log.Lifecycle.quiet_record _ .info (by decide : "engine_ready" ∉ Log.tellingKinds) _ _

theorem Built.unused
    {session : Session (Recorder β)}
    (built : session.Built) :
    session.Unused := by
  obtain ⟨config, bank, backends, -, same⟩ := built.noted
  have accounted := Engine.accounted_withBackends config bank backends
  refine ⟨?_, ?_, ?_, fun tier => ?_, fun tier => ?_⟩ <;> rw [same]
  · exact accounted.transport rfl rfl
  · rfl
  · rfl
  · cases tier <;> rfl
  · cases tier <;> rfl

end Session

end TierHeap
