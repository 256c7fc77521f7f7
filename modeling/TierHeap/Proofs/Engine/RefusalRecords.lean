import TierHeap.Proofs.Engine.Refusals

/-!
# Records of refusals

A call that is refused leaves one record in the log, a warning, or an error if its backend could
not commit (`Session.records_refusal`).  The question for the usable size of an address can be
refused as well and leaves none (`Session.usableSize_unrecorded`).
-/

namespace TierHeap

/-- What is asked of an engine that it can refuse. -/
inductive Demand where
  | change (call : Call)
  | usableSize (addr : Nat)
  deriving DecidableEq, Repr

/-- Why the call was refused, if it was. -/
def Reply.refusal? : Reply → Option RequestError
  | .refused err => some err
  | _ => none

/-- Meet a demand of a thread; the first result is why it was refused, if it was. -/
def Session.serve
    {β : Type}
    [Backend β]
    (session : Session β)
    (thread : Nat) : Demand → Option RequestError × Session β
  | .change call => ((session.call thread call).1.refusal?, (session.call thread call).2)
  | .usableSize addr =>
      match session.engine.usableSize addr with
      | .ok _ => (none, session)
      | .error err => (some err, session)

theorem Log.Lifecycle.enabled_error
    {log : Lifecycle}
    (enabled : log.enabled .warn = true) :
    log.enabled .error = true := by
  rw [Lifecycle.enabled] at *
  split at enabled
  · cases enabled
  · rename_i least threshold
    exact decide_eq_true (Nat.le_succ_of_le (of_decide_eq_true enabled))

namespace Allocator

variable {β : Type} [Backend β] {allocator after : Allocator (Recorder β)}

/-- A failed allocation is the backend's failure exactly if a commit has come to nothing. -/
theorem backend_iff_of_allocate_error
    {depth reserved align : Nat}
    {cause : GrowError}
    (allocated : allocator.allocate depth reserved align = (.error cause, after)) :
    (∃ err, cause = .backend err) ↔
      ∃ len, after.backend.dealings = .commit len none :: allocator.backend.dealings := by
  have ceiling {capacity committed wanted : Nat} {dealings : List Dealing}
      (same : cause = .capacityExceeded capacity committed wanted)
      (kept : after.backend.dealings = dealings)
      (other : ∀ len, dealings ≠ .commit len none :: allocator.backend.dealings) :
      (∃ err, cause = .backend err) ↔
        ∃ len, after.backend.dealings = .commit len none :: allocator.backend.dealings := by
    rw [same, kept]
    exact ⟨nofun, fun ⟨len, same⟩ => absurd same (other len)⟩
  have longer (len : Nat) :
      allocator.backend.dealings ≠ .commit len none :: allocator.backend.dealings :=
    (List.cons_ne_self _ _).symm
  rcases allocate_cases allocated with
    ⟨addr, -, same⟩ |
      ⟨-, ⟨err, failed, same⟩ | ⟨grown, succeeded, ⟨addr, -, same⟩ | ⟨-, rfl, same⟩⟩⟩
  · cases same
  · cases same
    rcases grow_cases failed with
      ⟨-, rfl, same⟩ | ⟨minimum, -, ⟨-, rfl, same⟩ | ⟨len, -, committed⟩⟩
    · exact ceiling (Except.error.inj same) rfl longer
    · exact ceiling (Except.error.inj same) rfl longer
    · rcases commit_cases committed with ⟨err, backend, same, rfl⟩ | ⟨segment, backend, same, -⟩
      · exact ⟨fun _ => ⟨len, rfl⟩, fun _ => ⟨err, Except.error.inj same⟩⟩
      · cases same
  · cases same
  · rcases grow_cases succeeded with
      ⟨-, -, same⟩ | ⟨minimum, -, ⟨-, -, same⟩ | ⟨len, -, committed⟩⟩
    · cases same
    · cases same
    · rcases commit_cases committed with ⟨err, backend, same, -⟩ | ⟨segment, backend, -, rfl⟩
      · cases same
      · refine ceiling (Except.error.inj same) rfl fun other impossible => ?_
        cases List.cons_eq_cons.mp impossible |>.1

end Allocator

/-! ## Calls -/

namespace Engine

variable {β : Type} {before after : Engine (Recorder β)}

/-- A backend was asked to commit a segment, and could not. -/
def CommitFailed (before after : Engine (Recorder β)) : Prop :=
  ∃ tier len, (after.tiers.get tier).backend.dealings =
    .commit len none :: (before.tiers.get tier).backend.dealings

/-- From one engine to another, the log has gone on by this record of a refusal. -/
structure RecordsRefusal
    (before after : Engine (Recorder β))
    (symbol : String)
    (record : Log.Record) : Prop where
  log : after.log = { before.log with nextId := before.log.nextId + 1 }.append record
  number : record.decisionId = before.log.nextId
  symbol : record.event.symbol = symbol
  level : record.level = .warn ∨ record.level = .error
  error_iff : record.level = .error ↔ CommitFailed before after

theorem RecordsRefusal.nextId
    {symbol : String}
    {record : Log.Record}
    (recorded : RecordsRefusal before after symbol record) :
    after.log.nextId = before.log.nextId + 1 := by
  rw [recorded.log, Log.Lifecycle.append]
  split <;> rfl

theorem recordsRefusal_note
    {changed : Engine (Recorder β)}
    (enabled : before.log.enabled .warn = true)
    (log : changed.log = before.log)
    {level : Log.Level}
    {event : Log.Event}
    (isLevel : level = .warn ∨ level = .error)
    (error_iff : level = .error ↔ CommitFailed before changed) :
    ∃ record, RecordsRefusal before (changed.note level event) event.symbol record := by
  have passes : before.log.enabled level = true := by
    rcases isLevel with rfl | rfl
    · exact enabled
    · exact Log.Lifecycle.enabled_error enabled
  refine ⟨⟨before.log.nextId, level, event, changed.metrics.liveBlocks,
    changed.metrics.outstandingBytes⟩, ?_, rfl, rfl, isLevel, error_iff⟩
  rw [note, log, Log.Lifecycle.record, if_pos passes]

theorem recordsRefusal_warning
    {changed : Engine (Recorder β)}
    (enabled : before.log.enabled .warn = true)
    (log : changed.log = before.log)
    (tiers : changed.tiers = before.tiers)
    (event : Log.Event) :
    ∃ record, RecordsRefusal before (changed.note .warn event) event.symbol record := by
  refine recordsRefusal_note enabled log (.inl rfl) ⟨nofun, ?_⟩
  rintro ⟨tier, len, grown⟩
  rw [tiers] at grown
  exact absurd grown (List.cons_ne_self _ _).symm

theorem recordsRefusal_reject
    (enabled : before.log.enabled .warn = true)
    (symbol : String)
    (err : RequestError) :
    ∃ record, RecordsRefusal before (before.reject symbol err) symbol record :=
  recordsRefusal_warning enabled
    (rfl : (before.count Metrics.onInvalidRequest).log = before.log) rfl
    ((Log.Event.new symbol (rejectionEvent err) "rejected").withDetails err.message)

theorem commitFailed_iff_of_set
    {tier : Tier}
    {allocator : Allocator (Recorder β)}
    (tiers : after.tiers = before.tiers.set tier allocator) :
    CommitFailed before after ↔
      ∃ len, allocator.backend.dealings =
        .commit len none :: (before.tiers.get tier).backend.dealings := by
  rw [CommitFailed, tiers]
  constructor
  · rintro ⟨other, len, grown⟩
    by_cases same : other = tier
    · subst same
      rw [PerTier.get_set_self] at grown
      exact ⟨len, grown⟩
    · rw [PerTier.get_set_other _ same] at grown
      exact absurd grown (List.cons_ne_self _ _).symm
  · rintro ⟨len, grown⟩
    exact ⟨tier, len, by rwa [PerTier.get_set_self]⟩

theorem recordsRefusal_exhausted
    {changed : Engine (Recorder β)}
    (enabled : before.log.enabled .warn = true)
    (log : changed.log = before.log)
    {cause : GrowError}
    (failed : CommitFailed before changed ↔ ∃ err, cause = .backend err)
    (symbol : String)
    (tier : Tier)
    (size : Nat) :
    ∃ record, RecordsRefusal before (changed.exhausted symbol tier size cause) symbol record := by
  have isLevel : exhaustionLevel cause = .warn ∨ exhaustionLevel cause = .error := by
    cases cause with
    | capacityExceeded capacity committed wanted =>
        exact .inl rfl
    | backend err =>
        exact .inr rfl
  have error_iff : exhaustionLevel cause = .error ↔ CommitFailed before changed := by
    rw [failed]
    cases cause with
    | capacityExceeded capacity committed wanted =>
        exact ⟨nofun, nofun⟩
    | backend err =>
        exact ⟨fun _ => ⟨err, rfl⟩, fun _ => rfl⟩
  have counted : (changed.count (·.onOutOfMemory tier)).log = before.log := log
  exact recordsRefusal_note enabled counted isLevel error_iff

variable [Backend β]

theorem recordsRefusal_route
    (enabled : before.log.enabled .warn = true)
    {tier : Tier}
    {size align : Nat}
    {symbol : String}
    {err : RequestError}
    (refused : before.route tier size align symbol = (.error err, after)) :
    ∃ record, RecordsRefusal before after symbol record := by
  unfold route at refused
  split at refused
  · cases refused
    exact recordsRefusal_reject enabled symbol _
  · rename_i reserved valid
    simp only [carve] at refused
    generalize allocated :
      (before.tiers.get tier).allocate depth reserved align = result at refused
    obtain ⟨answer, allocator⟩ := result
    cases answer with
    | error cause =>
        obtain ⟨asked, asked_eq⟩ :
            ∃ asked, asked = { before with tiers := before.tiers.set tier allocator } := ⟨_, rfl⟩
        rw [← asked_eq] at refused
        have log : asked.log = before.log := by rw [asked_eq]
        have tiers : asked.tiers = before.tiers.set tier allocator := by rw [asked_eq]
        have failed := Allocator.backend_iff_of_allocate_error allocated
        cases refused
        exact recordsRefusal_exhausted enabled log
          ((commitFailed_iff_of_set tiers).trans failed.symm) symbol tier size
    | ok carve =>
        cases refused

omit [Backend β] in
theorem recordsRefusal_free
    (enabled : before.log.enabled .warn = true)
    {active : Tier}
    {addr : Nat}
    {err : RequestError}
    (refused : before.free active addr = (.error err, after)) :
    ∃ record, RecordsRefusal before after "free" record := by
  unfold free at refused
  split at refused
  · rename_i kept withdrawn
    cases refused
    obtain ⟨-, rfl⟩ := Prod.mk.inj withdrawn
    exact recordsRefusal_warning enabled
      (rfl : (((before.withdraw addr).2).count Metrics.onUnknownFree).log = before.log) rfl _
  · cases refused

omit [Backend β] in
theorem recordsRefusal_resizeInPlace
    (enabled : before.log.enabled .warn = true)
    {addr newSize : Nat}
    {err : RequestError}
    (refused : before.resizeInPlace addr newSize = (.error err, after)) :
    ∃ record, RecordsRefusal before after "resize_in_place" record := by
  unfold resizeInPlace at refused
  split at refused
  · cases refused
    exact recordsRefusal_reject enabled "resize_in_place" _
  · split at refused
    · cases refused
      exact recordsRefusal_warning enabled rfl rfl _
    · split at refused <;> cases refused

end Engine

namespace Demand

def symbol : Demand → String
  | .change (.allocate _) => "allocate"
  | .change (.allocateAligned _ _) => "allocate_aligned"
  | .change (.allocateOn _ _) => "allocate_on"
  | .change (.allocateOnAligned _ _ _) => "allocate_on"
  | .change (.free _) => "free"
  | .change (.resize _ _) => "resize_in_place"
  | _ => ""

end Demand

namespace Session

open Engine

variable {β : Type} [Backend β] {session : Session (Recorder β)} {thread : Nat}

omit [Backend β] in
theorem ofAllocation_eq_refused
    {answer : Except RequestError Nat}
    {err : RequestError}
    (refused : Reply.ofAllocation answer = .refused err) :
    answer = .error err := by
  cases answer with
  | error other =>
      cases refused
      rfl
  | ok addr =>
      cases refused

theorem recordsRefusal_call
    (enabled : session.engine.log.enabled .warn = true)
    {call : Call}
    {err : RequestError}
    (refused : (session.call thread call).1 = .refused err) :
    ∃ record, RecordsRefusal session.engine (session.call thread call).2.engine
      (Demand.change call).symbol record := by
  cases call with
  | enable | setMode tier | trim =>
      cases refused
  | allocate size | allocateAligned size align | allocateOn tier size
  | allocateOnAligned tier size align =>
      exact recordsRefusal_route enabled (Prod.ext (ofAllocation_eq_refused refused) rfl)
  | free addr =>
      simp only [call] at refused ⊢
      cases answer : (session.engine.free (session.active thread) addr).1 with
      | error other =>
          exact recordsRefusal_free enabled (Prod.ext answer rfl)
      | ok tier =>
          rw [answer] at refused
          cases refused
  | resize addr size =>
      simp only [call] at refused ⊢
      cases answer : (session.engine.resizeInPlace addr size).1 with
      | error other =>
          exact recordsRefusal_resizeInPlace enabled (Prod.ext answer rfl)
      | ok inPlace =>
          rw [answer] at refused
          cases refused

/-- A call that is refused while warnings are recorded leaves one record: a warning, or an
error if its backend could not commit.  The question for the usable size of an address leaves
none, whether it is refused or not. -/
theorem records_refusal
    (enabled : session.engine.log.enabled .warn = true)
    {demand : Demand}
    {err : RequestError}
    (refused : (session.serve thread demand).1 = some err) :
    (∀ call, demand = .change call →
      ∃ record, RecordsRefusal session.engine (session.serve thread demand).2.engine demand.symbol
        record) ∧
    ∀ addr, demand = .usableSize addr →
      err = .unknownAddress addr ∧ (session.serve thread demand).2 = session := by
  constructor
  · rintro call rfl
    rw [serve] at refused
    cases reply : (session.call thread call).1 with
    | refused other =>
        exact recordsRefusal_call enabled reply
    | _ =>
        rw [reply] at refused
        cases refused
  · rintro addr rfl
    rw [serve, usableSize] at refused
    rw [serve, usableSize]
    cases found : session.engine.block? addr with
    | none =>
        rw [found] at refused
        cases refused
        exact ⟨rfl, rfl⟩
    | some block =>
        rw [found] at refused
        cases refused

/-- A backend that cannot commit makes the record an error. -/
theorem records_refusal_stingySession :
    ∃ record, record.level = .error ∧
      RecordsRefusal stingySession.engine
        (stingySession.serve 1 (.change (.allocateOnAligned .host 20000 64))).2.engine
        "allocate_on" record := by
  have enabled : stingySession.engine.log.enabled .warn = true := by decide +kernel
  have refused :
      (stingySession.serve 1 (.change (.allocateOnAligned .host 20000 64))).1 =
        some (.outOfMemory .host 20000) := by
    decide +kernel
  obtain ⟨record, recorded⟩ := (records_refusal enabled refused).1 _ rfl
  have failed : CommitFailed stingySession.engine
      (stingySession.serve 1 (.change (.allocateOnAligned .host 20000 64))).2.engine :=
    ⟨.host, 20480, by decide +kernel⟩
  exact ⟨record, recorded.error_iff.mpr failed, recorded⟩

/-- The question for the usable size of an address without a block is refused and recorded
nowhere. -/
theorem usableSize_unrecorded :
    ¬∀ (session : Session (Recorder SimulatedBackend)) (thread : Nat) (demand : Demand)
        (err : RequestError),
      Reached .standard .initial distantBackends session →
      session.engine.log.enabled .warn = true →
      (session.serve thread demand).1 = some err →
      ∃ record symbol,
        RecordsRefusal session.engine (session.serve thread demand).2.engine symbol record := by
  intro recorded
  have abiding : ∀ before, before <+: ([] : List (Nat × Call)) →
      Dealing.Abiding
        ((opening .standard .initial (distantBackends.map Recorder.start)).run
          before).dealings := by
    simp only [← List.mem_inits]
    decide +kernel
  obtain ⟨record, symbol, recorded⟩ :=
    recorded _ 1 (.usableSize 4096) (.unknownAddress 4096) (.calls [] abiding)
      (by decide +kernel) (by decide +kernel)
  exact absurd recorded.nextId (by decide +kernel)

end Session

end TierHeap
