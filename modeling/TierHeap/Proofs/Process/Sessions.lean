import TierHeap.Abi.Entry
import TierHeap.Proofs.Engine.Building
import TierHeap.Proofs.Engine.Tasks

/-!
# Processes as sessions

A call to the process engine is a call of the session that it finds: the engine in the slot, or
a new one if there is none.  Beside that, a call changes the memory where it takes in a new
segment, and the error number of the thread.
-/

namespace TierHeap.ProcessHeap

variable {β : Type} [Backend β]

def session (process : ProcessHeap β) : Session β :=
  ⟨process.engine.1, process.engine.2.bank⟩

def block?
    (process : ProcessHeap β)
    (addr : Nat) : Option Block :=
  process.session.engine.block? addr

def dealings (process : ProcessHeap (Recorder β)) : PerTier (List Dealing) :=
  process.session.dealings

variable (process : ProcessHeap β)

theorem engine_of_slot
    {process : ProcessHeap β}
    {engine : Engine β}
    (installed : process.slot = some engine) :
    process.engine = (engine, process) := by
  rw [ProcessHeap.engine, installed]

theorem session_of_slot
    {process : ProcessHeap β}
    {engine : Engine β}
    (installed : process.slot = some engine) :
    process.session = ⟨engine, process.bank⟩ := by
  rw [session, engine_of_slot installed]

/-- The engine that a call finds depends on the slot, the environment and the bank. -/
theorem session_congr
    {first second : ProcessHeap β}
    (slot : first.slot = second.slot)
    (environment : first.environment = second.environment)
    (bank : first.bank = second.bank) :
    first.session = second.session := by
  cases first
  cases second
  cases slot
  cases environment
  cases bank
  simp only [session, ProcessHeap.engine]
  split <;> rfl

/-- Finding the engine puts it into the slot and changes nothing else but the bank. -/
theorem engine_eq :
    process.engine =
      (process.session.engine,
       { process with slot := some process.session.engine, bank := process.session.bank }) := by
  cases installed : process.slot with
  | some engine =>
      rw [session_of_slot installed, engine_of_slot installed, ← installed]
  | none =>
      simp only [session, ProcessHeap.engine, installed]

@[simp]
theorem session_engine : process.engine.2.session = process.session := by
  rw [engine_eq]
  rfl

theorem block?_engine (addr : Nat) : process.engine.2.block? addr = process.block? addr := by
  rw [block?, session_engine, block?]

@[simp]
theorem memory_engine : process.engine.2.memory = process.memory := by
  rw [engine_eq]

/-- The engine that a process without one finds is new. -/
theorem built_of_waiting
    {process : ProcessHeap (Recorder β)}
    (source : Config → Tier → β)
    (recorded : process.environment.source = fun config tier => .start (source config tier))
    (waiting : process.slot = none) :
    process.session.Built := by
  have made := Session.Built.ofReading source
    (Config.ofLookupLenient process.environment.lookup) process.bank
  simp only [session, ProcessHeap.engine, waiting, recorded]
  exact made

/-- What a call to the process engine gives. -/
theorem call_eq (call : Call) :
    process.call call =
      ((process.session.call process.thread call).1,
       let after := (process.session.call process.thread call).2
       { process with
         slot := some after.engine
         bank := after.bank
         memory :=
          contentsAfter
            (contentsAfter process.memory process.session.engine.tiers.host.arena
              after.engine.tiers.host.arena)
            process.session.engine.tiers.cxl.arena after.engine.tiers.cxl.arena
         errno :=
          errnoAfter
            (errnoAfter process.errno process.session.engine.tiers.host.backend
              after.engine.tiers.host.backend)
            process.session.engine.tiers.cxl.backend after.engine.tiers.cxl.backend }) := by
  rw [ProcessHeap.call, engine_eq]
  rfl

theorem reply_call (call : Call) :
    (process.call call).1 = (process.session.call process.thread call).1 := by
  rw [call_eq]

@[simp]
theorem session_call (call : Call) :
    (process.call call).2.session = (process.session.call process.thread call).2 := by
  rw [call_eq]
  rfl

theorem isInitialized_call (call : Call) : (process.call call).2.isInitialized = true := by
  rw [call_eq]
  rfl

/-- A call that is a task of the engine ends as that task does. -/
theorem call_ends
    {process : ProcessHeap β}
    {call : Call}
    {task : Task}
    (asked : call.task? (process.session.active process.thread) = some task) :
    ∃ change log,
      (process.call call).2.session = process.session.changed change log ∧
        task.Ends process.session.engine.tiers process.session.engine.table
          (process.call call).1 change := by
  obtain ⟨reply, change, log, made, ends⟩ := Session.call_ends asked
  rw [session_call, reply_call, made]
  exact ⟨change, log, rfl, ends⟩

@[simp]
theorem session_setErrno
    (errno : Int) :
    (Abi.setErrno process errno).session = process.session :=
  session_congr rfl rfl rfl

@[simp]
theorem session_settleErrno
    (reply : Reply) :
    (Abi.settleErrno process reply).session = process.session := by
  cases reply <;> exact session_congr rfl rfl rfl

omit [Backend β] in
@[simp]
theorem memory_settleErrno
    (reply : Reply) :
    (Abi.settleErrno process reply).memory = process.memory := by
  cases reply <;> rfl

@[simp]
theorem session_withMemory
    (memory : Memory) :
    ({ process with memory := memory } : ProcessHeap β).session = process.session :=
  session_congr rfl rfl rfl

end TierHeap.ProcessHeap
