import TierHeap.ProcessHeap

/-!
# The slot of the process engine under many threads

Threads ask for the process engine, look at it, install another one and tear it down, all at the
same time.  Asking is a short sequence of steps: the slot is read; if it is empty, an engine is
built while no lock is held; then, under the write lock, the slot is looked at again, and the
new engine is put there only if it is still empty.  The other calls are one step each.  Between two
steps of one thread, any number of steps of other threads may happen.

Engines are numbered as they are made, and the number tells one from another, whatever they hold.
A history has one event for each step; times count steps, so the event of a step is found at its
time.  A thread that is alone does what the process heap does (`alone_engine`, `alone_current`,
`alone_install`, `alone_teardown`), but an engine that is taken out of the slot is left to those
who still have it.  No step reads what an engine holds, so calls on engines are left out.
-/

namespace TierHeap.ProcessSlot

inductive SlotCall (β : Type) where
  /-- Ask for the engine, which is built if there is none. -/
  | engine
  /-- Look whether there is an engine. -/
  | current
  /-- Put a new engine into the slot. -/
  | install (make : RegisterBank → Engine β × RegisterBank)
  | teardown

/-- How the engine that a thread asked for was decided on. -/
inductive Outcome where
  /-- The read found an engine. -/
  | found
  /-- The slot was empty up to the write lock, and the thread's own engine was put there. -/
  | stored
  /-- An engine was found under the write lock, and the thread's own one goes. -/
  | lost (fresh : Nat)
  deriving DecidableEq, Repr

/-- A thread has asked for the engine, and it is decided which one it gets. -/
structure Visit where
  /-- The time of the first step of the call. -/
  began : Nat
  /-- The time of the slot step that decided. -/
  decided : Nat
  outcome : Outcome
  engine : Nat
  deriving DecidableEq, Repr

/-- Where a thread is. -/
inductive Phase where
  /-- Between two calls. -/
  | idle
  /-- The read found no engine. -/
  | missed (began : Nat)
  /-- An engine is built, and the write lock not taken yet. -/
  | built (began fresh : Nat)
  /-- All that is left is to drop an engine that lost, and to return. -/
  | leaving (visit : Visit)
  deriving DecidableEq, Repr

/-- What happens in a step. -/
inductive Event where
  /-- There was nothing to do. -/
  | rested
  | missed
  | built (fresh : Nat)
  | decided (visit : Visit)
  | returned (visit : Visit)
  | looked (held : Option Nat)
  | installed (engine : Nat) (replaced : Option Nat)
  | toreDown (existed : Bool)
  deriving DecidableEq, Repr

def Event.gives? : Event → Option Nat
  | .returned visit => some visit.engine
  | .looked held => held
  | .installed _ replaced => replaced
  | _ => none

/-- The step replaces the engine in the slot or takes it out, whatever it is. -/
def Event.resets : Event → Bool
  | .installed _ _ => true
  | .toreDown _ => true
  | _ => false

/-- A thread with the calls it has still to make. -/
structure Thread (β : Type) where
  phase : Phase
  program : List (SlotCall β)

/-- What threads share. -/
structure Shared (β : Type) where
  environment : Environment β
  bank : RegisterBank
  /-- The engines that were made, by their numbers. -/
  engines : List (Engine β)
  slot : Option Nat

/-- What threads share, the threads, and what happened with the threads it happened to, oldest
first. -/
structure Machine (β : Type) where
  shared : Shared β
  threads : List (Thread β)
  history : List (Nat × Event)

variable {β : Type}

namespace Shared

def add
    (shared : Shared β)
    (made : Engine β × RegisterBank) : Nat × Shared β :=
  (shared.engines.length,
   { shared with engines := shared.engines ++ [made.1], bank := made.2 })

def build
    [Backend β]
    (shared : Shared β) : Nat × Shared β :=
  shared.add
    (Engine.ofReading shared.environment.source
      (Config.ofLookupLenient shared.environment.lookup) shared.bank)

/-- Drop the engine that lost, if there is one. -/
def dropLoser
    [Backend β]
    (shared : Shared β) : Outcome → Shared β
  | .lost fresh =>
      match shared.engines[fresh]? with
      | some engine => { shared with bank := (engine.close shared.bank).2 }
      | none => shared
  | _ => shared

end Shared

def start
    (shared : Shared β)
    (clock : Nat) : SlotCall β → Shared β × Phase × Event
  | .engine =>
      match shared.slot with
      | some engine =>
          let visit : Visit := ⟨clock, clock, .found, engine⟩
          (shared, .leaving visit, .decided visit)
      | none => (shared, .missed clock, .missed)
  | .current => (shared, .idle, .looked shared.slot)
  | .install make =>
      let (fresh, after) := shared.add (make shared.bank)
      ({ after with slot := some fresh }, .idle, .installed fresh shared.slot)
  | .teardown => ({ shared with slot := none }, .idle, .toreDown shared.slot.isSome)

def settle
    (shared : Shared β)
    (clock began fresh : Nat) : Shared β × Visit :=
  match shared.slot with
  | some engine => (shared, ⟨began, clock, .lost fresh, engine⟩)
  | none => ({ shared with slot := some fresh }, ⟨began, clock, .stored, fresh⟩)

def Thread.turn
    [Backend β]
    (thread : Thread β)
    (shared : Shared β)
    (clock : Nat) : Shared β × Thread β × Event :=
  match thread.phase with
  | .idle =>
      match thread.program with
      | [] => (shared, thread, .rested)
      | call :: rest =>
          let (shared, phase, event) := start shared clock call
          (shared, ⟨phase, rest⟩, event)
  | .missed began =>
      let (fresh, shared) := shared.build
      (shared, { thread with phase := .built began fresh }, .built fresh)
  | .built began fresh =>
      let (shared, visit) := settle shared clock began fresh
      (shared, { thread with phase := .leaving visit }, .decided visit)
  | .leaving visit =>
      (shared.dropLoser visit.outcome, { thread with phase := .idle }, .returned visit)

/-- A thread that makes turns alone, with what happens in them. -/
def alone
    [Backend β]
    (clock : Nat) : Nat → Shared β → Thread β → Shared β × Thread β × List Event
  | 0, shared, thread => (shared, thread, [])
  | turns + 1, shared, thread =>
      let (shared, thread, event) := thread.turn shared clock
      let (shared, thread, events) := alone (clock + 1) turns shared thread
      (shared, thread, event :: events)

namespace Machine

/-- Threads that have not made a call yet share the slot of a process. -/
def opening
    (process : ProcessHeap β)
    (programs : List (List (SlotCall β))) : Machine β where
  shared :=
    { environment := process.environment
      bank := process.bank
      engines := process.slot.toList
      slot := process.slot.map fun _ => 0 }
  threads := programs.map fun program => ⟨.idle, program⟩
  history := []

/-- Let a thread make its next step; nothing happens if there is no such thread. -/
def step
    [Backend β]
    (machine : Machine β)
    (number : Nat) : Machine β :=
  match machine.threads[number]? with
  | none => { machine with history := machine.history ++ [(number, .rested)] }
  | some thread =>
      let (shared, thread, event) := thread.turn machine.shared machine.history.length
      ⟨shared, machine.threads.set number thread, machine.history ++ [(number, event)]⟩

def run
    [Backend β]
    (machine : Machine β)
    (schedule : List Nat) : Machine β :=
  schedule.foldl step machine

end Machine

/-- The process heap and what threads share show the same. -/
structure Shared.Fits
    (shared : Shared β)
    (process : ProcessHeap β) : Prop where
  environment : shared.environment = process.environment
  bank : shared.bank = process.bank
  /-- The slots are both empty, or else filled with the same engine. -/
  slot : shared.slot.map (shared.engines[·]?) = process.slot.map some

theorem fits_opening
    (process : ProcessHeap β)
    (programs : List (List (SlotCall β))) :
    (Machine.opening process programs).shared.Fits process := by
  refine ⟨rfl, rfl, ?_⟩
  cases slot : process.slot <;> simp [Machine.opening, slot]

theorem Shared.Fits.isSome_slot
    {shared : Shared β}
    {process : ProcessHeap β}
    (fits : shared.Fits process) :
    shared.slot.isSome = process.slot.isSome := by
  have same := congrArg Option.isSome fits.slot
  rwa [Option.isSome_map, Option.isSome_map] at same

section

variable [Backend β] {shared : Shared β} {process : ProcessHeap β}

/-- A thread alone gets the process engine, which is built if there is none. -/
theorem alone_engine
    (fits : shared.Fits process)
    (clock : Nat)
    (rest : List (SlotCall β)) :
    ∃ turns after events visit,
      alone clock turns shared ⟨.idle, .engine :: rest⟩ =
          (after, ⟨.idle, rest⟩, events ++ [.returned visit]) ∧
        after.engines[visit.engine]? = some process.engine.1 ∧ after.Fits process.engine.2 := by
  obtain ⟨environment, bank, engines, slot⟩ := shared
  obtain ⟨rfl, rfl, held⟩ := fits
  simp only at held
  cases filled : process.slot with
  | some engine =>
      rw [filled, Option.map_some, Option.map_eq_some_iff] at held
      obtain ⟨number, rfl, found⟩ := held
      have same : process.engine = (engine, process) := by rw [ProcessHeap.engine, filled]
      refine ⟨2, _, [.decided ⟨clock, clock, .found, number⟩], ⟨clock, clock, .found, number⟩,
        rfl, ?_, ?_⟩
      · rw [same]
        exact found
      · rw [same]
        refine ⟨rfl, rfl, ?_⟩
        rw [filled]
        exact congrArg some found
  | none =>
      rw [filled, Option.map_none, Option.map_eq_none_iff] at held
      subst held
      let made := Engine.ofReading process.environment.source
        (Config.ofLookupLenient process.environment.lookup) process.bank
      have same : process.engine =
          (made.1, { process with slot := some made.1, bank := made.2 }) := by
        rw [ProcessHeap.engine, filled]
      refine ⟨4, _, [.missed, .built engines.length,
        .decided ⟨clock, clock + 1 + 1, .stored, engines.length⟩],
        ⟨clock, clock + 1 + 1, .stored, engines.length⟩, rfl, ?_, ?_⟩
      · rw [same]
        exact List.getElem?_concat_length
      · rw [same]
        exact ⟨rfl, rfl, congrArg some List.getElem?_concat_length⟩

theorem alone_current
    (fits : shared.Fits process)
    (clock : Nat)
    (rest : List (SlotCall β)) :
    alone clock 1 shared ⟨.idle, .current :: rest⟩ =
        (shared, ⟨.idle, rest⟩, [.looked shared.slot]) ∧
      shared.slot.isSome = process.isInitialized :=
  ⟨rfl, fits.isSome_slot⟩

/-- The engine that is replaced is left to those who have it, so its register is still in
use. -/
theorem alone_install
    (fits : shared.Fits process)
    (clock : Nat)
    (make : RegisterBank → Engine β × RegisterBank)
    (rest : List (SlotCall β)) :
    ∃ after fresh,
      alone clock 1 shared ⟨.idle, .install make :: rest⟩ =
          (after, ⟨.idle, rest⟩, [.installed fresh shared.slot]) ∧
        after.slot.map (after.engines[·]?) = (process.install make).2.slot.map some ∧
        shared.slot.isSome = (process.install make).1.isSome := by
  refine ⟨_, shared.engines.length, rfl, ?_, ?_⟩
  · rw [fits.bank]
    exact congrArg some List.getElem?_concat_length
  · rw [fits.isSome_slot]
    cases slot : process.slot <;> simp [ProcessHeap.install, ProcessHeap.teardown, slot]

theorem alone_teardown
    (fits : shared.Fits process)
    (clock : Nat)
    (rest : List (SlotCall β)) :
    ∃ after,
      alone clock 1 shared ⟨.idle, .teardown :: rest⟩ =
          (after, ⟨.idle, rest⟩, [.toreDown process.teardown.1.isSome]) ∧
        after.slot = none ∧ process.teardown.2.slot = none := by
  have existed : shared.slot.isSome = process.teardown.1.isSome := by
    rw [fits.isSome_slot]
    cases slot : process.slot <;> simp [ProcessHeap.teardown, slot]
  refine ⟨{ shared with slot := none }, ?_, rfl, ?_⟩
  · rw [← existed]
    rfl
  · cases slot : process.slot <;> simp [ProcessHeap.teardown, slot]

end

end TierHeap.ProcessSlot
