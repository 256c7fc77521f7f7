import TierHeap.Engine.Session
import TierHeap.Proofs.Allocator.Outcomes
import TierHeap.Proofs.Backend.Recording
import TierHeap.Proofs.BlockTable

/-!
# What calls do

A call that needs memory is a task for the tiers and the table.  The tiers and the table decide
how it ends (`Task.outcome`): with which reply, and with which change of tiers, table and
counters.  The register has no say in that, but for the tier that a task names, and the log has
none at all.  Every call has the outcome of its task (`Session.call_of_task`), so it ends in one
of ten ways (`Session.call_ends`); a call without a task changes the register alone
(`Session.call_of_no_task`).  No call changes the settings of a tier
(`Session.sameSettings_run`).
-/

namespace TierHeap

/-- What a call asks of the tiers and the table. -/
inductive Task where
  | allocate (tier : Tier) (size align : Nat)
  | free (addr : Nat)
  | resize (addr size : Nat)
  | trim
  deriving DecidableEq, Repr

/-- The task of a call, made by a thread that reads this tier; `enable` and `setMode` have
none. -/
def Call.task? (active : Tier) : Call → Option Task
  | .enable => none
  | .setMode _ => none
  | .allocate size => some (.allocate active size granule)
  | .allocateAligned size align => some (.allocate active size align)
  | .allocateOn tier size => some (.allocate tier size granule)
  | .allocateOnAligned tier size align => some (.allocate tier size align)
  | .free addr => some (.free addr)
  | .resize addr size => some (.resize addr size)
  | .trim => some .trim

theorem Call.eq_trim_of_task
    {active : Tier}
    {call : Call}
    (asked : call.task? active = some .trim) :
    call = .trim := by
  cases call with
  | trim =>
      rfl
  | _ =>
      cases asked

/-- The reply of a call without a task, and the register after it. -/
def Call.register
    (mode : ModeRegister)
    (bank : RegisterBank)
    (thread : Nat) : Call → Reply × ModeRegister × RegisterBank
  | .setMode tier =>
      let (previous, mode, bank) := mode.set bank thread tier
      (.previous previous, mode, bank)
  | .enable => (.done, mode.enable.2, bank)
  | _ => (.done, mode, bank)

theorem Call.scope_register
    (mode : ModeRegister)
    (bank : RegisterBank)
    (thread : Nat)
    (call : Call) :
    (call.register mode bank thread).2.1.scope = mode.scope := by
  cases call with
  | setMode tier =>
      simp only [register, ModeRegister.set]
      split <;> rfl
  | _ =>
      rfl

/-- What a task does to tiers, table and counters. -/
inductive Change (β : Type) where
  | nothing
  | invalidRequest
  | unknownFree
  /-- The tier has been asked and has not served the request. -/
  | exhausted (tier : Tier) (allocator : Allocator β)
  | allocated (block : Block) (grew : Bool) (allocator : Allocator β)
  | freed (addr : Nat) (block : Block)
  /-- The block is as it was before. -/
  | resized (block : Block) (newSize newReserved : Nat) (allocator : Allocator β)
  | trimmed

namespace Change

variable {β : Type} [Backend β]

def apply
    (engine : Engine β) : Change β → Engine β
  | .nothing => engine
  | .invalidRequest => { engine with metrics := engine.metrics.onInvalidRequest }
  | .unknownFree => { engine with metrics := engine.metrics.onUnknownFree }
  | .exhausted tier allocator =>
      { engine with
        tiers := engine.tiers.set tier allocator
        metrics := engine.metrics.onOutOfMemory tier }
  | .allocated block grew allocator =>
      { engine with
        tiers := engine.tiers.set block.tier allocator
        table := (engine.table.insert block).2
        metrics := engine.metrics.onAllocate block.tier block.size grew }
  | .freed addr block =>
      { engine with
        tiers := engine.tiers.modify block.tier (·.free block.addr block.reserved)
        table := (engine.table.remove addr).2
        metrics := engine.metrics.onFree block.tier block.size }
  | .resized block newSize newReserved allocator =>
      { engine with
        tiers := engine.tiers.set block.tier allocator
        table := engine.table.modify block.addr fun held =>
          { held with size := newSize, reserved := newReserved }
        metrics := engine.metrics.onResize block.tier block.size newSize }
  | .trimmed =>
      { engine with
        tiers := engine.tiers.map fun allocator => (allocator.trim Engine.depth).2
        metrics := engine.metrics.onTrim }

end Change

namespace Task

variable {β : Type} [Backend β]

def allocation
    (tiers : PerTier (Allocator β))
    (tier : Tier)
    (size align : Nat) : Reply × Change β :=
  match Engine.reserveAligned size align with
  | .error err => (.refused err, .invalidRequest)
  | .ok reserved =>
      match (tiers.get tier).allocate Engine.depth reserved align with
      | (.error _, allocator) =>
          (.refused (.outOfMemory tier size), .exhausted tier allocator)
      | (.ok carve, allocator) =>
          (.address carve.addr,
           .allocated ⟨carve.addr, size, carve.reserved, tier⟩ carve.grew allocator)

def release
    (table : BlockTable)
    (addr : Nat) : Reply × Change β :=
  match table.get? addr with
  | none => (.refused (.unknownAddress addr), .unknownFree)
  | some block => (.freed block.tier, .freed addr block)

def resizing
    (tiers : PerTier (Allocator β))
    (table : BlockTable)
    (addr size : Nat) : Reply × Change β :=
  match Engine.reserve size with
  | .error err => (.refused err, .invalidRequest)
  | .ok reserved =>
      match table.get? addr with
      | none => (.refused (.unknownAddress addr), .nothing)
      | some block =>
          match (tiers.get block.tier).resize? block.addr block.reserved reserved with
          | none => (.resized false, .nothing)
          | some allocator => (.resized true, .resized block size reserved allocator)

/-- The bytes that a trim of one tier counts as released. -/
def trimmedBytes (allocator : Allocator β) : Nat :=
  match (allocator.trim Engine.depth).1 with
  | .ok bytes => bytes
  | .error _ => 0

def outcome
    (tiers : PerTier (Allocator β))
    (table : BlockTable) : Task → Reply × Change β
  | .allocate tier size align => allocation tiers tier size align
  | .free addr => release table addr
  | .resize addr size => resizing tiers table addr size
  | .trim =>
      (.released (Word.add (trimmedBytes tiers.host) (trimmedBytes tiers.cxl)), .trimmed)

/-- How a task can end, and what has to hold for that. -/
inductive Ends
    (tiers : PerTier (Allocator β))
    (table : BlockTable) : Task → Reply → Change β → Prop where
  | invalid
      {tier : Tier}
      {size align : Nat}
      {err : RequestError}
      (invalid : Engine.reserveAligned size align = .error err) :
      Ends tiers table (.allocate tier size align) (.refused err) .invalidRequest
  | exhausted
      {tier : Tier}
      {size align reserved : Nat}
      {cause : GrowError}
      {allocator : Allocator β}
      (valid : Engine.reserveAligned size align = .ok reserved)
      (tried : (tiers.get tier).allocate Engine.depth reserved align = (.error cause, allocator)) :
      Ends tiers table (.allocate tier size align) (.refused (.outOfMemory tier size))
        (.exhausted tier allocator)
  | allocated
      {tier : Tier}
      {size align reserved : Nat}
      {carve : Carve}
      {allocator : Allocator β}
      (valid : Engine.reserveAligned size align = .ok reserved)
      (tried : (tiers.get tier).allocate Engine.depth reserved align = (.ok carve, allocator)) :
      Ends tiers table (.allocate tier size align) (.address carve.addr)
        (.allocated ⟨carve.addr, size, carve.reserved, tier⟩ carve.grew allocator)
  | unknownFree
      {addr : Nat}
      (absent : table.get? addr = none) :
      Ends tiers table (.free addr) (.refused (.unknownAddress addr)) .unknownFree
  | freed
      {addr : Nat}
      {block : Block}
      (found : table.get? addr = some block) :
      Ends tiers table (.free addr) (.freed block.tier) (.freed addr block)
  | invalidResize
      {addr size : Nat}
      {err : RequestError}
      (invalid : Engine.reserve size = .error err) :
      Ends tiers table (.resize addr size) (.refused err) .invalidRequest
  | unknownResize
      {addr size reserved : Nat}
      (valid : Engine.reserve size = .ok reserved)
      (absent : table.get? addr = none) :
      Ends tiers table (.resize addr size) (.refused (.unknownAddress addr)) .nothing
  | blocked
      {addr size reserved : Nat}
      {block : Block}
      (valid : Engine.reserve size = .ok reserved)
      (found : table.get? addr = some block)
      (tried : (tiers.get block.tier).resize? block.addr block.reserved reserved = none) :
      Ends tiers table (.resize addr size) (.resized false) .nothing
  | resized
      {addr size reserved : Nat}
      {block : Block}
      {allocator : Allocator β}
      (valid : Engine.reserve size = .ok reserved)
      (found : table.get? addr = some block)
      (tried :
        (tiers.get block.tier).resize? block.addr block.reserved reserved = some allocator) :
      Ends tiers table (.resize addr size) (.resized true)
        (.resized block size reserved allocator)
  | trimmed :
      Ends tiers table .trim
        (.released (Word.add (trimmedBytes tiers.host) (trimmedBytes tiers.cxl))) .trimmed

theorem ends_outcome
    (tiers : PerTier (Allocator β))
    (table : BlockTable)
    (task : Task) :
    Ends tiers table task (task.outcome tiers table).1 (task.outcome tiers table).2 := by
  cases task with
  | allocate tier size align =>
      simp only [outcome, allocation]
      split
      · rename_i err invalid
        exact .invalid invalid
      · rename_i reserved valid
        split
        · rename_i cause allocator tried
          exact .exhausted valid tried
        · rename_i carve allocator tried
          exact .allocated valid tried
  | free addr =>
      simp only [outcome, release]
      split
      · rename_i absent
        exact .unknownFree absent
      · rename_i block found
        exact .freed found
  | resize addr size =>
      simp only [outcome, resizing]
      split
      · rename_i err invalid
        exact .invalidResize invalid
      · rename_i reserved valid
        split
        · rename_i absent
          exact .unknownResize valid absent
        · rename_i block found
          split
          · rename_i tried
            exact .blocked valid found tried
          · rename_i allocator tried
            exact .resized valid found tried
  | trim =>
      exact .trimmed

end Task

/-! ## The calls of an engine -/

namespace Engine

variable {β : Type} (engine : Engine β)

theorem enableIndicator_eq (active : Tier) :
    ∃ log,
      engine.enableIndicator active =
        { engine with
          mode := engine.mode.enable.2
          log := log } := by
  simp only [enableIndicator]
  split
  · exact ⟨_, rfl⟩
  · exact ⟨engine.log, rfl⟩

theorem setMode_eq
    (bank : RegisterBank)
    (thread : Nat)
    (tier : Tier) :
    ∃ log,
      engine.setMode bank thread tier =
        ((engine.mode.set bank thread tier).1,
         { engine with
           mode := (engine.mode.set bank thread tier).2.1
           log := log },
         (engine.mode.set bank thread tier).2.2) := by
  simp only [setMode]
  split
  · exact ⟨engine.log, rfl⟩
  · exact ⟨_, rfl⟩

theorem settle_eq
    (symbol : String)
    (tier : Tier)
    (size : Nat)
    (carve : Carve) :
    ∃ log,
      engine.settle symbol tier size carve =
        { engine with
          table := (engine.table.insert ⟨carve.addr, size, carve.reserved, tier⟩).2
          metrics := engine.metrics.onAllocate tier size carve.grew
          log := log } := by
  obtain ⟨addr, reserved, grew⟩ := carve
  simp only [settle, publish]
  cases (engine.table.insert ⟨addr, size, reserved, tier⟩).1 <;> cases grew <;> exact ⟨_, rfl⟩

variable [Backend β]

/-- The reply and the engine after a call are those of a task, the log aside. -/
def Makes
    (task : Task)
    (reply : Reply)
    (after : Engine β) : Prop :=
  ∃ log,
    reply = (task.outcome engine.tiers engine.table).1 ∧
      after = { (task.outcome engine.tiers engine.table).2.apply engine with log := log }

theorem makes_route
    (tier : Tier)
    (size align : Nat)
    (symbol : String) :
    engine.Makes (.allocate tier size align)
      (.ofAllocation (engine.route tier size align symbol).1)
      (engine.route tier size align symbol).2 := by
  simp only [Makes, Task.outcome, Task.allocation, route]
  cases reserveAligned size align with
  | error err =>
      exact ⟨_, rfl, rfl⟩
  | ok reserved =>
      simp only [carve]
      cases (engine.tiers.get tier).allocate depth reserved align with
      | mk answer allocator =>
          cases answer with
          | error cause =>
              exact ⟨_, rfl, rfl⟩
          | ok carve =>
              obtain ⟨log, settled⟩ :=
                settle_eq { engine with tiers := engine.tiers.set tier allocator } symbol tier
                  size carve
              exact ⟨log, rfl, settled⟩

theorem makes_free
    (active : Tier)
    (addr : Nat) :
    engine.Makes (.free addr) (.ofFree (engine.free active addr).1)
      (engine.free active addr).2 := by
  simp only [Makes, Task.outcome, Task.release]
  cases found : engine.table.get? addr with
  | none =>
      have table : engine.table.remove addr = (none, engine.table) :=
        Prod.ext found (BlockTable.remove_of_absent found)
      simp only [free, withdraw, table]
      exact ⟨_, rfl, rfl⟩
  | some block =>
      have table : engine.table.remove addr = (some block, (engine.table.remove addr).2) :=
        Prod.ext found rfl
      rw [free, withdraw, table]
      exact ⟨_, rfl, rfl⟩

theorem makes_resizeInPlace (addr size : Nat) :
    engine.Makes (.resize addr size) (.ofResize (engine.resizeInPlace addr size).1)
      (engine.resizeInPlace addr size).2 := by
  simp only [Makes, Task.outcome, Task.resizing, resizeInPlace, resizeBlock?]
  cases reserve size with
  | error err =>
      exact ⟨_, rfl, rfl⟩
  | ok reserved =>
      dsimp only
      cases engine.table.get? addr with
      | none =>
          exact ⟨_, rfl, rfl⟩
      | some block =>
          dsimp only
          cases (engine.tiers.get block.tier).resize? block.addr block.reserved reserved <;>
            exact ⟨_, rfl, rfl⟩

theorem trimTier_eq (tier : Tier) :
    ∃ log,
      engine.trimTier tier =
        (Task.trimmedBytes (engine.tiers.get tier),
         { engine with
           tiers := engine.tiers.modify tier fun allocator => (allocator.trim depth).2
           log := log }) := by
  simp only [trimTier, Task.trimmedBytes, PerTier.modify]
  cases (engine.tiers.get tier).trim depth with
  | mk answer allocator =>
      cases answer with
      | ok bytes =>
          exact ⟨engine.log, rfl⟩
      | error err =>
          exact ⟨_, rfl⟩

theorem makes_trim : engine.Makes .trim (.released engine.trim.1) engine.trim.2 := by
  obtain ⟨hostLog, host⟩ := trimTier_eq (engine.count Metrics.onTrim) .host
  rw [trim, host]
  dsimp only
  generalize trimmed :
    ({ engine.count Metrics.onTrim with
        tiers := (engine.count Metrics.onTrim).tiers.modify .host fun allocator =>
          (allocator.trim depth).2
        log := hostLog } : Engine β) = afterHost
  obtain ⟨cxlLog, cxl⟩ := trimTier_eq afterHost .cxl
  rw [cxl]
  subst trimmed
  exact ⟨_, rfl, rfl⟩

end Engine

namespace Session

variable {β : Type} [Backend β]

/-- The session after a change, with what the log holds then. -/
def changed
    (session : Session β)
    (change : Change β)
    (log : Log.Lifecycle) : Session β :=
  session.withEngine { change.apply session.engine with log := log }

variable {session : Session β} {thread : Nat} {call : Call}

theorem changed_of_makes
    {task : Task}
    {reply : Reply}
    {after : Engine β}
    (makes : session.engine.Makes task reply after) :
    ∃ log,
      (reply, session.withEngine after) =
        ((task.outcome session.engine.tiers session.engine.table).1,
         session.changed (task.outcome session.engine.tiers session.engine.table).2 log) := by
  obtain ⟨log, rfl, rfl⟩ := makes
  exact ⟨log, rfl⟩

/-- A call has the outcome of its task. -/
theorem call_of_task
    {task : Task}
    (asked : call.task? (session.active thread) = some task) :
    ∃ log,
      session.call thread call =
        ((task.outcome session.engine.tiers session.engine.table).1,
         session.changed (task.outcome session.engine.tiers session.engine.table).2 log) := by
  cases call with
  | enable =>
      cases asked
  | setMode tier =>
      cases asked
  | free addr =>
      cases asked
      exact changed_of_makes (session.engine.makes_free _ addr)
  | resize addr size =>
      cases asked
      exact changed_of_makes (session.engine.makes_resizeInPlace addr size)
  | trim =>
      cases asked
      exact changed_of_makes session.engine.makes_trim
  | _ =>
      cases asked
      exact changed_of_makes (session.engine.makes_route _ _ _ _)

theorem call_ends
    {task : Task}
    (asked : call.task? (session.active thread) = some task) :
    ∃ reply change log,
      session.call thread call = (reply, session.changed change log) ∧
        task.Ends session.engine.tiers session.engine.table reply change := by
  obtain ⟨log, made⟩ := call_of_task asked
  exact ⟨_, _, log, made, task.ends_outcome _ _⟩

theorem call_of_no_task
    (none : call.task? (session.active thread) = none) :
    ∃ log,
      session.call thread call =
        ((call.register session.engine.mode session.bank thread).1,
         ⟨{ session.engine with
            mode := (call.register session.engine.mode session.bank thread).2.1
            log := log },
          (call.register session.engine.mode session.bank thread).2.2⟩) := by
  cases call with
  | enable =>
      obtain ⟨log, enabled⟩ := session.engine.enableIndicator_eq (session.active thread)
      simp only [Session.call, enabled]
      exact ⟨log, rfl⟩
  | setMode tier =>
      obtain ⟨log, set⟩ := session.engine.setMode_eq session.bank thread tier
      simp only [Session.call, set]
      exact ⟨log, rfl⟩
  | _ =>
      cases none

/-- No call changes the settings of a tier. -/
theorem sameSettings_call
    (session : Session (Recorder β))
    (thread : Nat)
    (call : Call)
    (tier : Tier) :
    ((session.call thread call).2.engine.tiers.get tier).SameSettings
      (session.engine.tiers.get tier) := by
  have replaced {changed : Tier} {allocator : Allocator (Recorder β)}
      (same : allocator.SameSettings (session.engine.tiers.get changed)) :
      ((session.engine.tiers.set changed allocator).get tier).SameSettings
        (session.engine.tiers.get tier) := by
    by_cases own : tier = changed
    · subst own
      rw [PerTier.get_set_self]
      exact same
    · rw [PerTier.get_set_other _ own]
      exact .refl _
  cases asked : call.task? (session.active thread) with
  | none =>
      obtain ⟨log, made⟩ := call_of_no_task asked
      rw [made]
      exact .refl _
  | some task =>
      obtain ⟨reply, change, log, made, ends⟩ := call_ends asked
      rw [made]
      cases ends with
      | exhausted valid tried | allocated valid tried =>
          exact replaced (Allocator.sameSettings_allocate tried)
      | freed found =>
          exact replaced ⟨rfl, rfl, rfl⟩
      | resized valid found tried =>
          obtain ⟨arena, -, rfl⟩ := Allocator.resize?_eq_some tried
          exact replaced ⟨rfl, rfl, rfl⟩
      | trimmed =>
          simp only [Session.changed, withEngine, Change.apply, PerTier.get_map]
          exact Allocator.sameSettings_releaseAll _ _ _ _
      | _ =>
          exact .refl _

theorem sameSettings_run
    (session : Session (Recorder β))
    (calls : List (Nat × Call))
    (tier : Tier) :
    ((session.run calls).engine.tiers.get tier).SameSettings
      (session.engine.tiers.get tier) := by
  induction calls generalizing session with
  | nil =>
      exact .refl _
  | cons first rest inductionHypothesis =>
      obtain ⟨thread, call⟩ := first
      exact (inductionHypothesis _).trans (session.sameSettings_call thread call tier)

end Session

end TierHeap
