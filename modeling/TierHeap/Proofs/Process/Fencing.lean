import TierHeap.Backend.System
import TierHeap.Proofs.Config.Reading
import TierHeap.Proofs.Engine.Building
import TierHeap.Proofs.Engine.Kinds
import TierHeap.Proofs.Interleaving.Barring

/-!
# Fenced engines

An engine that is built from the environment stays off CXL memory if a CXL key is malformed: the
tier is barred, so its backend is never asked for anything and every valid request for it fails,
whatever the other keys hold (`Session.fencing`).  The log tells which values were refused, and
that the tier is fenced.  On the HOST tier nothing is different from an engine built without the
CXL keys.  If no CXL key is malformed, the tier has the ceiling and the node that the keys give,
and nothing tells of a fence.
-/

namespace TierHeap

variable {β : Type}

/-- The backends of a configuration: which one a tier gets depends on the kind of backends and
on the node of the tier. -/
def Config.tierSource
    (make : Tier → BackendKind → Option Nat → β)
    (config : Config)
    (tier : Tier) : β :=
  make tier config.backend (config.tiers.get tier).node

/-- The backends of the operating system are selected in that way. -/
theorem SystemBackend.ofConfig_eq_tierSource :
    ofConfig =
      Config.tierSource fun tier kind node =>
        SystemBackend.mk tier kind (if kind = .mmap then node else none) (ceiling tier) [] := by
  funext config tier
  rw [ofConfig, Config.tierSource]
  cases config.backend <;> rfl

namespace Engine

open Log (Event Level)

def refusalEvent (err : SettingError) : Event :=
  let event := (Event.new "init" "config_rejected" "default_kept").withDetails err.message
  match err.tier? with
  | some tier => event.withTier tier
  | none => event

def fenceEvent : Event :=
  ((Event.new "init" "cxl_fenced" "capacity_zero").withTier .cxl).withDetails
    "cxl settings rejected; cxl requests fail until reconfigured"

theorem event_refusalEvent (err : SettingError) : (refusalEvent err).event = "config_rejected" := by
  rw [refusalEvent]
  cases err.tier? <;> rfl

/-- The kinds of events that tell that an engine is ready and how its tiers are bound. -/
def readyKinds : List String :=
  ["engine_ready", "cxl_node_unset"]

def acceptedErrors
    (threshold : Option Level)
    (errors : List Event) : List (Level × Event) :=
  if threshold = none then [] else errors.map fun event => (.error, event)

theorem acceptedErrors_nil (threshold : Option Level) : acceptedErrors threshold [] = [] := by
  rw [acceptedErrors]
  split <;> rfl

theorem mem_acceptedErrors
    {threshold : Option Level}
    {errors : List Event}
    {note : Level × Event}
    (member : note ∈ acceptedErrors threshold errors) :
    note.2 ∈ errors := by
  rw [acceptedErrors] at member
  split at member
  · cases member
  · obtain ⟨event, isError, rfl⟩ := List.mem_map.mp member
    exact isError

/-- The log has the settings of a configuration; it shows that the engine is ready and then
these errors. -/
def Tells
    (engine : Engine β)
    (config : Config)
    (errors : List Event) : Prop :=
  engine.log.threshold = config.threshold ∧ engine.log.capacity = max config.logCapacity 1 ∧
    ∃ earlier, (∀ note ∈ earlier, note.2.event ∈ readyKinds) ∧
      engine.log.Shows (earlier ++ acceptedErrors config.threshold errors)

variable {engine : Engine β} {config : Config} {errors : List Event}

/-- An error is refused only if the log is off. -/
theorem Tells.note
    (tells : engine.Tells config errors)
    (event : Event) :
    (engine.note .error event).Tells config (errors ++ [event]) := by
  obtain ⟨threshold, capacity, earlier, ready, shows⟩ := tells
  obtain ⟨sameThreshold, sameCapacity⟩ :=
    engine.log.record_settings .error event engine.metrics.liveBlocks
      engine.metrics.outstandingBytes
  refine ⟨sameThreshold.trans threshold, sameCapacity.trans capacity, earlier, ready, ?_⟩
  have shown := shows.record .error event engine.metrics.liveBlocks
    engine.metrics.outstandingBytes
  have accepted : acceptedErrors config.threshold (errors ++ [event]) =
      acceptedErrors config.threshold errors ++ engine.log.admitted [(.error, event)] := by
    rw [Log.Lifecycle.admitted, ← threshold, acceptedErrors, acceptedErrors]
    cases least : engine.log.threshold with
    | none =>
        simp [Log.Lifecycle.enabled, least]
    | some lowest =>
        -- No level is above that of errors.
        have passes : engine.log.enabled .error = true := by
          rw [Log.Lifecycle.enabled, least]
          cases lowest <;> rfl
        simp [passes]
  rw [accepted, ← List.append_assoc]
  exact shown

/-- That an engine is ready is no error. -/
theorem Tells.ready
    (tells : engine.Tells config [])
    (level : Level)
    {event : Event}
    (kind : event.event ∈ readyKinds) :
    (engine.note level event).Tells config [] := by
  obtain ⟨threshold, capacity, earlier, ready, shows⟩ := tells
  obtain ⟨sameThreshold, sameCapacity⟩ :=
    engine.log.record_settings level event engine.metrics.liveBlocks
      engine.metrics.outstandingBytes
  have shown := shows.record level event engine.metrics.liveBlocks
    engine.metrics.outstandingBytes
  rw [acceptedErrors_nil, List.append_nil] at shown
  refine ⟨sameThreshold.trans threshold, sameCapacity.trans capacity,
    earlier ++ engine.log.admitted [(level, event)], ?_, ?_⟩
  · intro note member
    rcases List.mem_append.mp member with isEarlier | isNew
    · exact ready note isEarlier
    · obtain rfl := List.mem_singleton.mp (List.mem_filter.mp isNew).1
      exact kind
  · rw [acceptedErrors_nil, List.append_nil]
    exact shown

theorem Tells.foldl_noteRejected
    (tells : engine.Tells config errors)
    (errs : List SettingError) :
    (errs.foldl noteRejected engine).Tells config (errors ++ errs.map refusalEvent) := by
  induction errs generalizing engine errors with
  | nil =>
      rw [List.map_nil, List.append_nil]
      exact tells
  | cons err rest inductionHypothesis =>
      -- Each refusal is one more error, so the induction is on any list of errors before it.
      have noted : (engine.noteRejected err).Tells config (errors ++ [refusalEvent err]) :=
        tells.note (refusalEvent err)
      rw [List.map_cons, List.append_cons]
      exact inductionHypothesis noted

section

variable [Backend β]

theorem tells_withBackends
    (config : Config)
    (bank : RegisterBank)
    (backends : PerTier β) :
    (withBackends config bank backends).1.Tells config [] := by
  let blank : Engine β :=
    { config := config
      mode := (bank.create config.scope).1
      tiers := .ofFn fun tier =>
        .new tier (backends.get tier) (config.tiers.get tier).capacity config.segmentSize
      table := .empty
      metrics := .zero
      log := .new config.threshold config.logCapacity }
  have silent : blank.Tells config [] := by
    refine ⟨rfl, rfl, [], fun note member => absurd member List.not_mem_nil, ?_⟩
    rw [acceptedErrors_nil]
    exact Log.Lifecycle.shows_new config.threshold config.logCapacity
  exact silent.ready .info (by decide : "engine_ready" ∈ readyKinds)

theorem tells_ofConfig
    (source : Config → Tier → β)
    (config : Config)
    (bank : RegisterBank) :
    (ofConfig source config bank).1.Tells config [] := by
  have tells := tells_withBackends config bank (.ofFn (source config))
  rw [ofConfig]
  dsimp only
  split
  · exact tells.ready .warn (by decide : "cxl_node_unset" ∈ readyKinds)
  · exact tells

theorem tells_ofReading
    (source : Config → Tier → β)
    (reading : Config.Reading)
    (bank : RegisterBank) :
    (ofReading source reading bank).1.Tells reading.config
      (reading.rejected.map refusalEvent ++ if isFenced reading then [fenceEvent] else []) := by
  have noted := (tells_ofConfig source reading.config bank).foldl_noteRejected reading.rejected
  rw [List.nil_append] at noted
  rw [ofReading]
  dsimp only
  split
  · exact noted.note fenceEvent
  · rw [List.append_nil]
    exact noted

end

/-- Everything that a new engine has noted tells how it was made. -/
theorem Tells.making
    (tells : engine.Tells config errors)
    (kinds : ∀ event ∈ errors, event.event ∈ makingKinds) :
    ∀ record ∈ engine.log.snapshot, record.event.event ∈ makingKinds := by
  obtain ⟨-, -, earlier, ready, shows⟩ := tells
  intro record member
  have noted := List.mem_map_of_mem (f := Log.Record.note) member
  rw [shows.snapshot] at noted
  rcases List.mem_append.mp (List.mem_of_mem_drop noted) with isEarlier | isError
  · exact List.mem_append_left ["config_rejected", "cxl_fenced"] (ready _ isEarlier)
  · exact kinds _ (mem_acceptedErrors isError)

end Engine

namespace Session

open Interleaving (Machine)
open Log (Event)

/-- A tier does not depend on the settings of the other one. -/
theorem Fresh.agreeOn
    {make : Tier → BackendKind → Option Nat → β}
    {config other : Config}
    {bank : RegisterBank}
    {first second : Session β}
    (fresh : first.Fresh (Config.tierSource make) config bank)
    (freshOther : second.Fresh (Config.tierSource make) other bank)
    {tier : Tier}
    (scope : other.scope = config.scope)
    (kind : other.backend = config.backend)
    (segments : other.segmentSize = config.segmentSize)
    (settings : other.tiers.get tier = config.tiers.get tier) :
    AgreeOn tier first second := by
  refine ⟨?_, fun addr => ?_, ?_, ?_, ?_⟩
  · rw [fresh.allocator, freshOther.allocator, Config.tierSource, Config.tierSource, kind,
      segments, settings]
  · rw [ownBlock?, fresh.table, freshOther.table, BlockTable.get?_empty]
    rfl
  · rw [fresh.metrics, freshOther.metrics]
  · rw [fresh.mode, freshOther.mode, scope]
  · rw [fresh.bank_eq, freshOther.bank_eq, scope]

variable [Backend β]

/-- A session whose engine is built from the environment, over recorded backends. -/
def ofEnvironment
    (make : Tier → BackendKind → Option Nat → β)
    (lookup : Lookup)
    (bank : RegisterBank) : Session (Recorder β) :=
  starting
    (Engine.ofReading (Config.tierSource fun tier kind node => Recorder.start (make tier kind node))
      (Config.ofLookupLenient lookup) bank)

/-- Whatever calls are made, the log has room for the last records of these: that the engine is
ready, then an error for each of these events if the log is on, then what the calls record. -/
def Reports
    (session : Session β)
    (config : Config)
    (errors : List Event) : Prop :=
  ∀ calls, ∃ earlier later,
    (session.run calls).engine.log.snapshot.map Log.Record.note =
        (earlier ++ Engine.acceptedErrors config.threshold errors ++ later).rtake
          (max config.logCapacity 1) ∧
      (∀ note ∈ earlier, note.2.event ∈ Engine.readyKinds) ∧
        ∀ note ∈ later, note.2.event ∉ Engine.makingKinds

theorem reports_of_tells
    {session : Session β}
    {config : Config}
    {errors : List Event}
    (tells : session.engine.Tells config errors) :
    session.Reports config errors := by
  intro calls
  obtain ⟨-, capacity, earlier, ready, shows⟩ := tells
  have works := session.works_run calls
  obtain ⟨later, shown, others⟩ := works.shows _ shows
  refine ⟨earlier, later, ?_, ready, others⟩
  rw [shown.snapshot, works.capacity, capacity]

/-! ## The fence -/

variable (make : Tier → BackendKind → Option Nat → β) (lookup : Lookup) (bank : RegisterBank)

/-- The CXL tier is out of use in every run, the log tells why, and the HOST tier does what it
does without the CXL keys. -/
structure Fenced : Prop where
  /-- The CXL backend is asked for nothing. -/
  silent : ∀ calls, ((ofEnvironment make lookup bank).run calls).dealings.cxl = []
  /-- Nothing is committed, and nothing ever was. -/
  empty : ∀ calls,
    (((ofEnvironment make lookup bank).run calls).engine.tierStats .cxl).committedBytes = 0 ∧
      (((ofEnvironment make lookup bank).run calls).engine.tierStats .cxl).peakCommittedBytes =
        0
  /-- Every valid request for the tier fails, however it came to ask for it. -/
  refuses : ∀ calls thread call size align reserved,
    call.task? (((ofEnvironment make lookup bank).run calls).active thread) =
        some (.allocate .cxl size align) →
      Engine.reserveAligned size align = .ok reserved →
        (((ofEnvironment make lookup bank).run calls).call thread call).1 =
          .refused (.outOfMemory .cxl size)
  /-- So it is with threads that make their calls at the same time, whatever the schedule. -/
  concurrent : ∀ programs schedule,
    ((Machine.opening (ofEnvironment make lookup bank) programs).run
        schedule).session.dealings.cxl = [] ∧
      (((Machine.opening (ofEnvironment make lookup bank) programs).run
        schedule).session.engine.tierStats .cxl).committedBytes = 0
  /-- There a valid request for the tier is refused at the step that asks for the memory. -/
  concurrentRefuses : ∀ programs schedule number (thread : Interleaving.Thread) symbol size
      reserved align,
    ((Machine.opening (ofEnvironment make lookup bank) programs).run schedule).threads[number]? =
        some thread →
      thread.phase = .routed symbol .cxl size reserved align →
        ∃ cause,
          (thread.turn
            ((Machine.opening (ofEnvironment make lookup bank) programs).run schedule).session
            number).2.1.phase = .concluding (.exhausted symbol .cxl size cause)
  /-- There is one error for each refused value and one for the fence. -/
  reports :
    (ofEnvironment make lookup bank).Reports (Config.configured lookup)
      ((Config.refusals lookup).map Engine.refusalEvent ++ [Engine.fenceEvent])
  /-- The HOST tier does the same as without the CXL keys, if that engine never puts a CXL
  block in the place of a HOST block. -/
  host : ∀ calls, Unmixed .host (ofEnvironment make lookup.withoutCxl bank) calls →
    Matches .host (ofEnvironment make lookup.withoutCxl bank) (ofEnvironment make lookup bank)
      calls
  /-- Over backends that owe their dealings it does not. -/
  unmixed : ∀ calls,
    (∀ before, before <+: calls →
      Dealing.Abiding ((ofEnvironment make lookup.withoutCxl bank).run before).dealings) →
        Unmixed .host (ofEnvironment make lookup.withoutCxl bank) calls

/-- The CXL tier has the settings that the keys give, and nothing tells of a fence. -/
structure Unfenced : Prop where
  /-- The settings are those that are given, and none where nothing is given. -/
  settings :
    (ofEnvironment make lookup bank).engine.config.tiers.cxl =
      { capacity := (lookup.value? .cxlCapacity).bind parseSize?
        node := (lookup.value? .cxlNode).bind EnvKey.parseNode? }
  /-- The ceiling stays in force. -/
  ceiling : ∀ calls,
    (((ofEnvironment make lookup bank).run calls).engine.tierStats .cxl).capacity =
      (lookup.value? .cxlCapacity).bind parseSize?
  /-- The backend is the one of that node. -/
  node :
    (ofEnvironment make lookup bank).engine.tiers.cxl.backend =
      Recorder.start
        (make .cxl (Config.configured lookup).backend
          ((lookup.value? .cxlNode).bind EnvKey.parseNode?))
  /-- There is one error for each refused value. -/
  reports :
    (ofEnvironment make lookup bank).Reports (Config.configured lookup)
      ((Config.refusals lookup).map Engine.refusalEvent)
  noFence : ∀ calls, ∀ record ∈ ((ofEnvironment make lookup bank).run calls).engine.log.snapshot,
    record.event.event ≠ "cxl_fenced"

theorem tells_ofEnvironment :
    (ofEnvironment make lookup bank).engine.Tells (Config.ofLookupLenient lookup).config
      ((Config.ofLookupLenient lookup).rejected.map Engine.refusalEvent ++
        if Engine.isFenced (Config.ofLookupLenient lookup) then [Engine.fenceEvent] else []) :=
  Engine.tells_ofReading _ _ _

theorem fresh_ofEnvironment :
    (ofEnvironment make lookup bank).Fresh
      (Config.tierSource fun tier kind node => Recorder.start (make tier kind node))
      (Config.ofLookupLenient lookup).config bank :=
  fresh_ofReading _ _ _

theorem barred_of_malformed (malformed : lookup.CxlMalformed) :
    (ofEnvironment make lookup bank).Barred .cxl
      (Recorder.start
        (make .cxl (Config.configured lookup).backend
          ((lookup.value? .cxlNode).bind EnvKey.parseNode?))) := by
  have fresh := fresh_ofEnvironment make lookup bank
  rw [(Config.ofLookupLenient_eq lookup).1 malformed] at fresh
  refine ⟨?_, fun addr block found => ?_⟩
  · rw [fresh.allocator]
    exact Allocator.shut_new _ _ _
  · rw [fresh.table, BlockTable.get?_empty] at found
    cases found

variable {make} {lookup} {bank}

theorem built_ofEnvironment : (ofEnvironment make lookup bank).Built :=
  .ofReading (Config.tierSource make) (Config.ofLookupLenient lookup) bank

theorem undisturbed_ofEnvironment : (ofEnvironment make lookup bank).engine.Undisturbed := by
  intro record member stale
  have making := (tells_ofEnvironment make lookup bank).making ?_ record member
  · rw [stale] at making
    exact absurd making (by decide : Engine.staleEvent ∉ Engine.makingKinds)
  · intro event isError
    rcases List.mem_append.mp isError with isRefusal | isFence
    · obtain ⟨err, -, rfl⟩ := List.mem_map.mp isRefusal
      rw [Engine.event_refusalEvent]
      decide
    · split at isFence
      · obtain rfl := List.mem_singleton.mp isFence
        decide
      · cases isFence

/-- The fence changes nothing but the ceiling of the CXL tier. -/
theorem agreeOn_of_malformed (malformed : lookup.CxlMalformed) :
    AgreeOn .host (ofEnvironment make lookup.withoutCxl bank)
      (ofEnvironment make lookup bank) := by
  have fresh := fresh_ofEnvironment make lookup bank
  have freshUnset := fresh_ofEnvironment make lookup.withoutCxl bank
  rw [(Config.ofLookupLenient_eq lookup).1 malformed] at fresh
  rw [(Config.ofLookupLenient_eq lookup.withoutCxl).2
    (Config.not_cxlMalformed_withoutCxl lookup), Config.configured_withoutCxl] at freshUnset
  exact freshUnset.agreeOn fresh rfl rfl rfl rfl

theorem fenced_of_malformed (malformed : lookup.CxlMalformed) : Fenced make lookup bank := by
  have barred := barred_of_malformed make lookup bank malformed
  have table : (ofEnvironment make lookup.withoutCxl bank).engine.table = .empty :=
    (fresh_ofEnvironment make lookup.withoutCxl bank).table
  have threadsBarred (programs : List (List Call)) (schedule : List Nat) :=
    (Interleaving.Machine.barred_opening barred programs).run schedule
  refine ⟨fun calls => ?_, fun calls => ?_, ?_, fun programs schedule => ?_, ?_, ?_, ?_, ?_⟩
  · exact congrArg Recorder.dealings (barred.run calls).shut.backend_eq
  · obtain ⟨committed, peak, -⟩ := (barred.run calls).shut.committed
    exact ⟨committed, peak⟩
  · intro calls thread call size align reserved asked valid
    exact (barred.run calls).refuses asked valid
  · have shut := (threadsBarred programs schedule).session.shut
    exact ⟨congrArg Recorder.dealings shut.backend_eq, shut.committed.1⟩
  · intro programs schedule number thread symbol size reserved align found asks
    exact (threadsBarred programs schedule).refuses found asks
  · have tells := tells_ofEnvironment make lookup bank
    have rejected := (Config.cxlRejected_iff lookup
      ((Config.configured lookup).withCapacity .cxl (some 0))).mpr malformed
    rw [(Config.ofLookupLenient_eq lookup).1 malformed] at tells
    rw [Engine.isFenced, rejected] at tells
    exact reports_of_tells tells
  · intro calls unmixed
    have filed : (ofEnvironment make lookup.withoutCxl bank).engine.table.Filed := by
      rw [table]
      exact BlockTable.filed_empty
    exact (agreeOn_of_malformed malformed).matches_barred filed (by decide) barred unmixed
  · intro calls abiding
    exact unmixed_of_abiding built_ofEnvironment.unused.accounted undisturbed_ofEnvironment
      abiding .host

theorem unfenced_of_wellFormed (wellFormed : ¬lookup.CxlMalformed) :
    Unfenced make lookup bank := by
  have reading := (Config.ofLookupLenient_eq lookup).2 wellFormed
  have fresh := fresh_ofEnvironment make lookup bank
  have reports : (ofEnvironment make lookup bank).Reports (Config.configured lookup)
      ((Config.refusals lookup).map Engine.refusalEvent) := by
    have tells := tells_ofEnvironment make lookup bank
    have rejected := mt (Config.cxlRejected_iff lookup (Config.configured lookup)).mp wellFormed
    rw [reading, Engine.isFenced, Bool.eq_false_of_not_eq_true rejected, Bool.and_false] at tells
    simp only [Bool.false_eq_true, if_false, List.append_nil] at tells
    exact reports_of_tells tells
  rw [reading] at fresh
  refine ⟨?_, fun calls => ?_, ?_, reports, ?_⟩
  · rw [fresh.config_eq]
    rfl
  · have same := (sameSettings_run (ofEnvironment make lookup bank) calls .cxl).capacity
    rw [fresh.allocator] at same
    exact same
  · have allocator := fresh.allocator .cxl
    exact congrArg Allocator.backend allocator
  · intro calls record member fence
    obtain ⟨earlier, later, shown, ready, others⟩ := reports calls
    have noted := List.mem_map_of_mem (f := Log.Record.note) member
    rw [shown] at noted
    rcases List.mem_append.mp (List.mem_of_mem_drop noted) with made | isLater
    · rcases List.mem_append.mp made with isReady | isError
      · have kind := ready _ isReady
        rw [Log.Record.note, fence] at kind
        exact absurd kind (by decide)
      · obtain ⟨err, -, same⟩ := List.mem_map.mp (Engine.mem_acceptedErrors isError)
        have kind : record.event.event = "config_rejected" := by
          rw [← Engine.event_refusalEvent err, same]
          rfl
        rw [fence] at kind
        exact absurd kind (by decide)
    · have kind := others _ isLater
      rw [Log.Record.note, fence] at kind
      exact kind (by decide)

/-- An engine that is built from the environment stays off CXL memory exactly if a CXL key is
malformed, whatever the other keys hold. -/
theorem fencing
    (make : Tier → BackendKind → Option Nat → β)
    (lookup : Lookup)
    (bank : RegisterBank) :
    (lookup.CxlMalformed → Fenced make lookup bank) ∧
      (¬lookup.CxlMalformed → Unfenced make lookup bank) :=
  ⟨fenced_of_malformed, unfenced_of_wellFormed⟩

def halfMalformed : Lookup := fun name =>
  if name = "TIERMEM_CXL_CAPACITY" then some "64m"
  else if name = "TIERMEM_CXL_NODE" then some "one"
  else none

/-- A blank node beside a valid capacity, and a malformed key of the other tier. -/
def blankNode : Lookup := fun name =>
  if name = "TIERMEM_CXL_CAPACITY" then some " 64 MiB"
  else if name = "TIERMEM_CXL_NODE" then some " "
  else if name = "TIERMEM_HOST_NODE" then some "zero"
  else none

/-- A valid node without a capacity, and malformed keys of the other tier. -/
def keptNode : Lookup := fun name =>
  if name = "TIERMEM_CXL_NODE" then some " 1"
  else if name = "TIERMEM_HOST_NODE" then some "-1"
  else if name = "TIERMEM_HOST_CAPACITY" then some "much"
  else none

theorem fencing_halfMalformed :
    halfMalformed.CxlMalformed ∧
      Matches .host
        (ofEnvironment (fun tier _ _ => distantBackends.get tier) halfMalformed.withoutCxl
          .initial)
        (ofEnvironment (fun tier _ _ => distantBackends.get tier) halfMalformed .initial)
        mixedCalls ∧
      ((ofEnvironment (fun tier _ _ => distantBackends.get tier) halfMalformed .initial).call 0
        (.allocateOn .cxl 64)).1 = .refused (.outOfMemory .cxl 64) ∧
      ¬blankNode.CxlMalformed ∧
      (ofEnvironment (fun tier _ _ => distantBackends.get tier) blankNode
        .initial).engine.config.tiers.cxl = ⟨some 67108864, none⟩ ∧
      ¬keptNode.CxlMalformed ∧
      (ofEnvironment (fun tier _ _ => distantBackends.get tier) keptNode
        .initial).engine.config.tiers.cxl = ⟨none, some 1⟩ := by
  let make := fun (tier : Tier) (_ : BackendKind) (_ : Option Nat) => distantBackends.get tier
  have malformed : halfMalformed.CxlMalformed :=
    .inl ⟨"one", by decide +kernel, by decide +kernel, by decide +kernel⟩
  have wellFormed : ¬blankNode.CxlMalformed := by
    rw [Lookup.cxlMalformed_iff]
    decide +kernel
  have abiding : ∀ before, before <+: mixedCalls →
      Dealing.Abiding
        ((ofEnvironment make halfMalformed.withoutCxl .initial).run before).dealings := by
    simp only [← List.mem_inits]
    decide +kernel
  have fenced := (fencing make halfMalformed .initial).1 malformed
  have unfenced := (fencing make blankNode .initial).2 wellFormed
  have settings :
      TierSettings.mk ((blankNode.value? .cxlCapacity).bind parseSize?)
          ((blankNode.value? .cxlNode).bind EnvKey.parseNode?) =
        ⟨some 67108864, none⟩ := by decide +kernel
  have alsoWellFormed : ¬keptNode.CxlMalformed := by
    rw [Lookup.cxlMalformed_iff]
    decide +kernel
  have alsoUnfenced := (fencing make keptNode .initial).2 alsoWellFormed
  have keptSettings :
      TierSettings.mk ((keptNode.value? .cxlCapacity).bind parseSize?)
          ((keptNode.value? .cxlNode).bind EnvKey.parseNode?) =
        ⟨none, some 1⟩ := by decide +kernel
  refine ⟨malformed, fenced.host mixedCalls (fenced.unmixed mixedCalls abiding), ?_, wellFormed,
    unfenced.settings.trans settings, alsoWellFormed, alsoUnfenced.settings.trans keptSettings⟩
  exact fenced.refuses [] 0 (.allocateOn .cxl 64) 64 granule 64 rfl (by decide)

end Session

end TierHeap
