import TierHeap.Proofs.Allocator.Figures
import TierHeap.Proofs.Engine.Tasks
import TierHeap.Proofs.Interleaving.Lending
import TierHeap.Proofs.Interleaving.Reached

/-!
# How often an arena tries to grow

Every allocation makes its tier grow at most once, or be refused to at most once, and nothing else
touches the counters of growths and refusals.  A segment that is let go was taken in by a growth.
So no counter is beyond the number of calls that were made (`Session.counted_run`), or of steps
that threads have made (`Interleaving.Machine.counted_run`).
-/

namespace TierHeap

namespace Allocator

variable {β : Type}

/-- The growths that were made and those that the ceiling has refused. -/
def attempts (allocator : Allocator β) : Nat :=
  allocator.arena.growths + allocator.arena.capacityFailures

theorem attempts_free
    (allocator : Allocator β)
    (addr reserved : Nat) :
    (allocator.free addr reserved).attempts = allocator.attempts := by
  obtain ⟨growths, failures⟩ := figures_free allocator addr reserved
  rw [attempts, growths, failures, attempts]

theorem attempts_resize?
    {allocator after : Allocator β}
    {addr oldReserved newReserved : Nat}
    (resized : allocator.resize? addr oldReserved newReserved = some after) :
    after.attempts = allocator.attempts := by
  obtain ⟨growths, failures⟩ := figures_resize? resized
  rw [attempts, growths, failures, attempts]

theorem attempts_trim
    [Backend β]
    (allocator : Allocator β)
    (depth : Nat) :
    (allocator.trim depth).2.attempts = allocator.attempts := by
  obtain ⟨growths, failures⟩ := figures_releaseAll depth 0 (allocator.arena.idle.drop 1) allocator
  rw [attempts, trim, growths, failures, attempts]

theorem attempts_allocate
    [Backend β]
    {allocator after : Allocator (Recorder β)}
    {depth reserved align : Nat}
    {answer : Except GrowError Carve}
    (allocated : allocator.allocate depth reserved align = (answer, after)) :
    after.attempts ≤ allocator.attempts + 1 := by
  have unchanged {before carved : Allocator (Recorder β)} {addr : Nat}
      (found : before.carve? reserved (max align granule) = some (addr, carved)) :
      carved.attempts = before.attempts := by
    obtain ⟨growths, -, failures⟩ := figures_carve? found
    rw [attempts, growths, failures, attempts]
  have once {grown : Allocator (Recorder β)}
      (succeeded : allocator.grow depth reserved = (.ok (), grown)) :
      grown.attempts = allocator.attempts + 1 := by
    obtain ⟨⟨segment, enlarged⟩, failures⟩ := grow_ok succeeded
    rw [attempts, enlarged.growths, failures, attempts]
    omega
  rcases allocate_cases allocated with
    ⟨addr, carved, -⟩ |
    ⟨-, ⟨err, failed, -⟩ | ⟨grown, succeeded, ⟨addr, carved, -⟩ | ⟨-, rfl, -⟩⟩⟩
  · rw [unchanged carved]
    exact Nat.le_succ _
  · obtain ⟨growths, failures⟩ := grow_error failed
    rw [attempts, growths, attempts]
    omega
  · rw [unchanged carved, once succeeded]
  · rw [once succeeded]

/-- No counter of growths, of refused growths or of segments let go is beyond a limit. -/
structure Counted
    (allocator : Allocator β)
    (limit : Nat) : Prop where
  growths : allocator.arena.growths ≤ limit
  capacityFailures : allocator.arena.capacityFailures ≤ limit
  releasedSegments : allocator.arena.releasedSegments ≤ limit

theorem Consistent.counted
    {allocator : Allocator (Recorder β)}
    {outstanding : List Span}
    (consistent : allocator.Consistent outstanding)
    {limit : Nat}
    (few : allocator.attempts ≤ limit) :
    allocator.Counted limit := by
  have growths := consistent.arena.growths
  rw [attempts] at few
  exact ⟨by omega, by omega, by omega⟩

end Allocator

namespace Engine

variable {β : Type}

/-- From one engine to another, each tier has tried to grow at most once. -/
def Attempted (before after : Engine β) : Prop :=
  ∀ tier, (after.tiers.get tier).attempts ≤ (before.tiers.get tier).attempts + 1

theorem attempted_of_same
    {before after : Engine β}
    (same : after.tiers = before.tiers) :
    before.Attempted after := by
  intro tier
  rw [same]
  exact Nat.le_succ _

theorem attempted_of_set
    {before after : Engine β}
    {changed : Tier}
    {allocator : Allocator β}
    (set : after.tiers = before.tiers.set changed allocator)
    (once : allocator.attempts ≤ (before.tiers.get changed).attempts + 1) :
    before.Attempted after := by
  intro tier
  rw [set]
  by_cases same : tier = changed
  · subst same
    rw [PerTier.get_set_self]
    exact once
  · rw [PerTier.get_set_other _ same]
    exact Nat.le_succ _

end Engine

namespace Session

variable {β : Type} [Backend β]

theorem attempted_call
    (session : Session (Recorder β))
    (thread : Nat)
    (call : Call) :
    session.engine.Attempted (session.call thread call).2.engine := by
  cases asked : call.task? (session.active thread) with
  | none =>
      obtain ⟨log, same⟩ := call_of_no_task asked
      rw [same]
      exact Engine.attempted_of_same rfl
  | some task =>
      obtain ⟨reply, change, log, made, ends⟩ := call_ends asked
      rw [made]
      cases ends with
      | exhausted valid tried | allocated valid tried =>
          exact Engine.attempted_of_set rfl (Allocator.attempts_allocate tried)
      | freed found =>
          exact Engine.attempted_of_set rfl
            ((Allocator.attempts_free _ _ _).trans_le (Nat.le_succ _))
      | resized valid found tried =>
          exact Engine.attempted_of_set rfl
            ((Allocator.attempts_resize? tried).trans_le (Nat.le_succ _))
      | trimmed =>
          intro tier
          simp only [changed, withEngine, Change.apply, PerTier.get_map, Allocator.attempts_trim]
          exact Nat.le_succ _
      | _ =>
          exact Engine.attempted_of_same rfl

theorem attempts_run
    (session : Session (Recorder β))
    (calls : List (Nat × Call))
    (tier : Tier) :
    ((session.run calls).engine.tiers.get tier).attempts ≤
      (session.engine.tiers.get tier).attempts + calls.length := by
  induction calls generalizing session with
  | nil =>
      exact Nat.le_refl _
  | cons first rest inductionHypothesis =>
      have once := session.attempted_call first.1 first.2 tier
      have later := inductionHypothesis (session.call first.1 first.2).2
      rw [List.length_cons]
      exact later.trans (by omega)

/-- After calls made one at a time, no counter of a tier is beyond their number. -/
theorem counted_run
    (config : Config)
    (bank : RegisterBank)
    (backends : PerTier β)
    {calls : List (Nat × Call)}
    (abiding : ∀ before, before <+: calls →
      Dealing.Abiding
        ((opening config bank (backends.map Recorder.start)).run before).dealings)
    (tier : Tier) :
    (((opening config bank (backends.map Recorder.start)).run calls).engine.tiers.get
      tier).Counted calls.length := by
  have accounted :=
    (accounted_run (Engine.accounted_withBackends config bank backends)
      (Engine.undisturbed_withBackends config bank (backends.map Recorder.start)) abiding).1
  have none :
      ((opening config bank (backends.map Recorder.start)).engine.tiers.get tier).attempts = 0 := by
    cases tier <;> rfl
  have few :=
    attempts_run (opening config bank (backends.map Recorder.start)) calls tier
  rw [none, Nat.zero_add] at few
  exact (accounted.backed.consistent tier).counted few

end Session

namespace Interleaving

variable {β : Type} [Backend β]

theorem attempted_trimTier
    (engine : Engine (Recorder β))
    (tier : Tier) :
    engine.Attempted (engine.trimTier tier).2 := by
  obtain ⟨log, trimmed⟩ := engine.trimTier_eq tier
  rw [trimmed]
  exact Engine.attempted_of_set rfl ((Allocator.attempts_trim _ _).trans_le (Nat.le_succ _))

variable {session : Session (Recorder β)}

theorem attempted_carve
    (symbol : String)
    (tier : Tier)
    (size reserved align : Nat) :
    session.engine.Attempted (carve session symbol tier size reserved align).1.engine := by
  unfold carve
  split
  · rename_i cause engine carved
    obtain ⟨allocator, allocated, rfl⟩ := Engine.carve_cases carved
    exact Engine.attempted_of_set rfl (Allocator.attempts_allocate allocated)
  · rename_i found engine carved
    obtain ⟨allocator, allocated, rfl⟩ := Engine.carve_cases carved
    exact Engine.attempted_of_set rfl (Allocator.attempts_allocate allocated)

theorem attempted_start
    (number : Nat)
    (call : Call) :
    session.engine.Attempted (start session number call).1.engine := by
  cases call with
  | enable =>
      exact session.attempted_call number .enable
  | setMode tier =>
      exact session.attempted_call number (.setMode tier)
  | free addr =>
      exact Engine.attempted_of_same (tiers_withdraw session addr)
  | resize addr newSize =>
      simp only [start]
      unfold resize
      split
      · exact Engine.attempted_of_same rfl
      · split
        · exact Engine.attempted_of_same rfl
        · split
          · exact Engine.attempted_of_same rfl
          · rename_i engine resized
            obtain ⟨allocator, resizedTier, rfl⟩ := Option.map_eq_some_iff.mp resized
            exact Engine.attempted_of_set rfl
              ((Allocator.attempts_resize? resizedTier).trans_le (Nat.le_succ _))
  | _ =>
      exact Engine.attempted_of_same rfl

theorem attempted_turn
    (thread : Thread)
    (session : Session (Recorder β))
    (number : Nat) :
    session.engine.Attempted (thread.turn session number).1.engine := by
  obtain ⟨phase, program, replies⟩ := thread
  cases phase with
  | idle =>
      cases program with
      | nil =>
          exact Engine.attempted_of_same rfl
      | cons call rest =>
          exact attempted_start number call
  | routed symbol tier size reserved align =>
      exact attempted_carve symbol tier size reserved align
  | carved symbol block grew =>
      exact Engine.attempted_of_same rfl
  | removed block =>
      exact Engine.attempted_of_set rfl
        ((Allocator.attempts_free _ _ _).trans_le (Nat.le_succ _))
  | trimmingHost =>
      exact attempted_trimTier session.engine .host
  | trimmingCxl hostBytes =>
      exact attempted_trimTier session.engine .cxl
  | concluding aftermath =>
      exact Engine.attempted_of_same (Kept.tiers_conclude _ _ _)

namespace Machine

theorem attempted_step
    (machine : Machine (Recorder β))
    (number : Nat) :
    machine.session.engine.Attempted (machine.step number).session.engine := by
  cases found : machine.threads[number]? with
  | none =>
      rw [step_of_none found]
      exact Engine.attempted_of_same rfl
  | some thread =>
      rw [step_of_some found]
      exact attempted_turn thread machine.session number

theorem attempts_run
    (machine : Machine (Recorder β))
    (schedule : List Nat)
    (tier : Tier) :
    ((machine.run schedule).session.engine.tiers.get tier).attempts ≤
      (machine.session.engine.tiers.get tier).attempts + schedule.length := by
  induction schedule generalizing machine with
  | nil =>
      exact Nat.le_refl _
  | cons number rest inductionHypothesis =>
      have once := machine.attempted_step number tier
      have later := inductionHypothesis (machine.step number)
      rw [List.length_cons]
      exact later.trans (by omega)

/-- After steps of many threads, no counter of a tier is beyond their number. -/
theorem counted_run
    (config : Config)
    (bank : RegisterBank)
    (backends : PerTier β)
    (programs : List (List Call))
    {schedule : List Nat}
    (abiding : ∀ before, before <+: schedule →
      Dealing.Abiding
        ((opening (Session.opening config bank (backends.map Recorder.start)) programs).run
          before).dealings)
    (tier : Tier) :
    (((opening (Session.opening config bank (backends.map Recorder.start)) programs).run
      schedule).session.engine.tiers.get tier).Counted schedule.length := by
  have accounted :=
    (accounted_run (accounted_opening config bank backends programs) abiding).kept.accounted
  have none :
      ((opening (Session.opening config bank (backends.map Recorder.start))
        programs).session.engine.tiers.get tier).attempts = 0 := by
    cases tier <;> rfl
  have few :=
    attempts_run (opening (Session.opening config bank (backends.map Recorder.start)) programs)
      schedule tier
  rw [none, Nat.zero_add] at few
  exact (accounted.backed.consistent tier).counted few

end Machine

end Interleaving

end TierHeap
