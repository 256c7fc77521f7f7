import Mathlib.Data.List.Induction
import TierHeap.Proofs.Slot.Machine

/-!
# What a step of a thread can do

A turn of a thread is of one of ten kinds (`Turns`), and all that is known of runs is read off
them.  The event of a time of a run is the one of the step that was made then, in the state that
the run had reached (`Machine.Happens.steps`), so nothing about the past has to be kept in states.
-/

namespace TierHeap.ProcessSlot

variable {β : Type} [Backend β]

namespace Shared

variable (shared : Shared β)

@[simp]
theorem length_engines_build : shared.build.2.engines.length = shared.engines.length + 1 :=
  List.length_append

@[simp]
theorem slot_dropLoser (outcome : Outcome) : (shared.dropLoser outcome).slot = shared.slot := by
  cases outcome with
  | lost fresh =>
      rw [dropLoser]
      cases shared.engines[fresh]? <;> rfl
  | _ =>
      rfl

@[simp]
theorem engines_dropLoser (outcome : Outcome) :
    (shared.dropLoser outcome).engines = shared.engines := by
  cases outcome with
  | lost fresh =>
      rw [dropLoser]
      cases shared.engines[fresh]? <;> rfl
  | _ =>
      rfl

end Shared

/-- A turn of a thread: what threads share and the thread before and after it, and what
happens. -/
inductive Turns
    (clock : Nat)
    (shared : Shared β) : Thread β → Shared β → Thread β → Event → Prop where
  | rests : Turns clock shared ⟨.idle, []⟩ shared ⟨.idle, []⟩ .rested
  | finds
      {rest : List (SlotCall β)}
      {engine : Nat}
      (filled : shared.slot = some engine) :
      Turns clock shared ⟨.idle, .engine :: rest⟩ shared
        ⟨.leaving ⟨clock, clock, .found, engine⟩, rest⟩ (.decided ⟨clock, clock, .found, engine⟩)
  | misses
      {rest : List (SlotCall β)}
      (empty : shared.slot = none) :
      Turns clock shared ⟨.idle, .engine :: rest⟩ shared ⟨.missed clock, rest⟩ .missed
  | looks
      {rest : List (SlotCall β)} :
      Turns clock shared ⟨.idle, .current :: rest⟩ shared ⟨.idle, rest⟩ (.looked shared.slot)
  | installs
      {rest : List (SlotCall β)}
      (make : RegisterBank → Engine β × RegisterBank) :
      Turns clock shared ⟨.idle, .install make :: rest⟩
        { (shared.add (make shared.bank)).2 with slot := some shared.engines.length }
        ⟨.idle, rest⟩ (.installed shared.engines.length shared.slot)
  | tearsDown
      {rest : List (SlotCall β)} :
      Turns clock shared ⟨.idle, .teardown :: rest⟩ { shared with slot := none }
        ⟨.idle, rest⟩ (.toreDown shared.slot.isSome)
  | builds
      {began : Nat}
      {program : List (SlotCall β)} :
      Turns clock shared ⟨.missed began, program⟩ shared.build.2
        ⟨.built began shared.engines.length, program⟩ (.built shared.engines.length)
  | loses
      {began fresh engine : Nat}
      {program : List (SlotCall β)}
      (filled : shared.slot = some engine) :
      Turns clock shared ⟨.built began fresh, program⟩ shared
        ⟨.leaving ⟨began, clock, .lost fresh, engine⟩, program⟩
        (.decided ⟨began, clock, .lost fresh, engine⟩)
  | stores
      {began fresh : Nat}
      {program : List (SlotCall β)}
      (empty : shared.slot = none) :
      Turns clock shared ⟨.built began fresh, program⟩ { shared with slot := some fresh }
        ⟨.leaving ⟨began, clock, .stored, fresh⟩, program⟩
        (.decided ⟨began, clock, .stored, fresh⟩)
  | leaves
      (visit : Visit)
      {program : List (SlotCall β)} :
      Turns clock shared ⟨.leaving visit, program⟩ (shared.dropLoser visit.outcome)
        ⟨.idle, program⟩ (.returned visit)

theorem turns_turn
    (thread : Thread β)
    (shared : Shared β)
    (clock : Nat) :
    Turns clock shared thread (thread.turn shared clock).1 (thread.turn shared clock).2.1
      (thread.turn shared clock).2.2 := by
  obtain ⟨environment, bank, engines, slot⟩ := shared
  obtain ⟨phase, program⟩ := thread
  cases phase with
  | idle =>
      cases program with
      | nil =>
          exact .rests
      | cons call rest =>
          cases call with
          | engine =>
              cases slot with
              | none =>
                  exact .misses rfl
              | some engine =>
                  exact .finds rfl
          | current =>
              exact .looks
          | install make =>
              exact .installs make
          | teardown =>
              exact .tearsDown
  | missed began =>
      exact .builds
  | built began fresh =>
      cases slot with
      | none =>
          exact .stores rfl
      | some engine =>
          exact .loses rfl
  | leaving visit =>
      exact .leaves visit

/-- The step is the first one of a call for the engine. -/
def Event.begins : Event → Bool
  | .missed => true
  | .decided ⟨_, _, .found, _⟩ => true
  | _ => false

/-- What the slot holds before and after a step in which something happens. -/
def Event.Moves
    (before after : Option Nat) : Event → Prop
  | .missed => before = none ∧ after = none
  | .decided visit =>
      after = some visit.engine ∧
        before = if visit.outcome = .stored then none else some visit.engine
  | .looked held => held = before ∧ after = before
  | .installed fresh replaced => replaced = before ∧ after = some fresh
  | .toreDown existed => existed = before.isSome ∧ after = none
  | _ => after = before

theorem Turns.moves
    {clock : Nat}
    {shared after : Shared β}
    {thread next : Thread β}
    {event : Event}
    (turn : Turns clock shared thread after next event) :
    event.Moves shared.slot after.slot := by
  cases turn with
  | rests =>
      rfl
  | finds filled =>
      exact ⟨filled, filled⟩
  | misses empty =>
      exact ⟨empty, empty⟩
  | looks =>
      exact ⟨rfl, rfl⟩
  | installs make =>
      exact ⟨rfl, rfl⟩
  | tearsDown =>
      exact ⟨rfl, rfl⟩
  | builds =>
      rfl
  | loses filled =>
      exact ⟨filled, filled⟩
  | stores empty =>
      exact ⟨rfl, empty⟩
  | leaves visit =>
      exact shared.slot_dropLoser visit.outcome

theorem Turns.decided_eq
    {clock : Nat}
    {shared after : Shared β}
    {thread next : Thread β}
    {visit : Visit}
    (turn : Turns clock shared thread after next (.decided visit)) :
    visit.decided = clock := by
  cases turn <;> rfl

theorem Turns.leaving_of_decided
    {clock : Nat}
    {shared after : Shared β}
    {thread next : Thread β}
    {visit : Visit}
    (turn : Turns clock shared thread after next (.decided visit)) :
    next.phase = .leaving visit := by
  cases turn <;> rfl

theorem Turns.leaving_of_returned
    {clock : Nat}
    {shared after : Shared β}
    {thread next : Thread β}
    {visit : Visit}
    (turn : Turns clock shared thread after next (.returned visit)) :
    thread.phase = .leaving visit := by
  cases turn
  rfl

/-! ## Steps -/

namespace Machine

/-- A step of a machine: either there is no such thread, or it makes a turn. -/
inductive Steps
    (machine : Machine β)
    (number : Nat) : Machine β → Event → Prop where
  | absent
      (none : machine.threads[number]? = none) :
      Steps machine number
        { machine with history := machine.history ++ [(number, .rested)] } .rested
  | turns
      {thread next : Thread β}
      {shared : Shared β}
      {event : Event}
      (found : machine.threads[number]? = some thread)
      (turn : Turns machine.history.length machine.shared thread shared next event) :
      Steps machine number
        ⟨shared, machine.threads.set number next, machine.history ++ [(number, event)]⟩ event

theorem steps_step
    (machine : Machine β)
    (number : Nat) :
    ∃ event, machine.Steps number (machine.step number) event := by
  rw [step]
  cases found : machine.threads[number]? with
  | none =>
      exact ⟨_, .absent found⟩
  | some thread =>
      exact ⟨_, .turns found (turns_turn thread machine.shared _)⟩

theorem Steps.history
    {machine after : Machine β}
    {number : Nat}
    {event : Event}
    (steps : machine.Steps number after event) :
    after.history = machine.history ++ [(number, event)] := by
  cases steps <;> rfl

/-- A step leaves the other threads as they are. -/
theorem Steps.thread_of_ne
    {machine after : Machine β}
    {number other : Nat}
    {thread : Thread β}
    {event : Event}
    (steps : machine.Steps number after event)
    (different : number ≠ other)
    (found : machine.threads[other]? = some thread) :
    after.threads[other]? = some thread := by
  cases steps with
  | absent none =>
      exact found
  | turns _ turn =>
      exact (List.getElem?_set_ne different).trans found

theorem Steps.turn
    {machine after : Machine β}
    {number : Nat}
    {thread : Thread β}
    {event : Event}
    (steps : machine.Steps number after event)
    (found : machine.threads[number]? = some thread) :
    ∃ next, after.threads[number]? = some next ∧
      Turns machine.history.length machine.shared thread after.shared next event := by
  cases steps with
  | absent none =>
      rw [found] at none
      cases none
  | turns alsoFound turn =>
      cases Option.some.inj (found.symm.trans alsoFound)
      obtain ⟨inside, -⟩ := List.getElem?_eq_some_iff.mp found
      exact ⟨_, List.getElem?_set_self inside, turn⟩

variable (machine : Machine β) (schedule : List Nat)

theorem run_append (later : List Nat) :
    machine.run (schedule ++ later) = (machine.run schedule).run later :=
  List.foldl_append

theorem run_snoc (number : Nat) :
    machine.run (schedule ++ [number]) = (machine.run schedule).step number :=
  machine.run_append schedule [number]

/-- What every step preserves, a run preserves. -/
theorem run_induction
    (holds : Machine β → Prop)
    (preserved : ∀ {before after : Machine β} {number : Nat} {event : Event},
      before.Steps number after event → holds before → holds after)
    (start : holds machine) :
    holds (machine.run schedule) := by
  induction schedule using List.reverseRecOn with
  | nil =>
      exact start
  | append_singleton schedule number inductionHypothesis =>
      obtain ⟨event, steps⟩ := steps_step (machine.run schedule) number
      rw [run_snoc]
      exact preserved steps inductionHypothesis

theorem history_prefix_run : machine.history <+: (machine.run schedule).history := by
  refine machine.run_induction schedule (fun later => machine.history <+: later.history) ?_
    List.prefix_rfl
  intro before after number event steps kept
  rw [steps.history]
  exact kept.trans (List.prefix_append _ _)

theorem length_history_run :
    (machine.run schedule).history.length = machine.history.length + schedule.length := by
  induction schedule using List.reverseRecOn with
  | nil => rfl
  | append_singleton schedule number inductionHypothesis =>
      obtain ⟨event, steps⟩ := steps_step (machine.run schedule) number
      rw [run_snoc, steps.history, List.length_append, inductionHypothesis, List.length_append,
        Nat.add_assoc]
      rfl

def reached (time : Nat) : Machine β :=
  machine.run (schedule.take time)

def slotAt (time : Nat) : Option Nat :=
  (machine.reached schedule time).shared.slot

/-- What a thread does in the step of a time. -/
def Happens
    (time number : Nat)
    (event : Event) : Prop :=
  (machine.run schedule).history[time]? = some (number, event)

variable {machine : Machine β} {schedule : List Nat}

theorem run_reached (time : Nat) :
    (machine.reached schedule time).run (schedule.drop time) = machine.run schedule := by
  rw [reached, ← run_append, List.take_append_drop]

theorem prefix_history_reached (time : Nat) :
    (machine.reached schedule time).history <+: (machine.run schedule).history := by
  rw [← run_reached time]
  exact history_prefix_run _ _

theorem getElem?_of_earlier
    {earlier later : List (Nat × Event)}
    (before : earlier <+: later)
    {time : Nat}
    {entry : Nat × Event}
    (found : earlier[time]? = some entry) :
    later[time]? = some entry := by
  obtain ⟨inside, rfl⟩ := List.getElem?_eq_some_iff.mp found
  exact List.prefix_iff_getElem?.mp before time inside

/-- In each step of a run something happens, in the state that the run has reached. -/
theorem happens_of_lt
    (blank : machine.history = [])
    {time : Nat}
    (inside : time < schedule.length) :
    ∃ number event, machine.Happens schedule time number event ∧
      (machine.reached schedule time).history.length = time ∧
        (machine.reached schedule time).Steps number (machine.reached schedule (time + 1))
          event := by
  have counted : (machine.reached schedule time).history.length = time := by
    rw [reached, length_history_run, blank, List.length_take_of_le (Nat.le_of_lt inside)]
    exact Nat.zero_add time
  -- Every event adds one entry to the history, so the entry of this step has its time as index.
  obtain ⟨event, steps⟩ := steps_step (machine.reached schedule time) schedule[time]
  have onward :
      machine.reached schedule (time + 1) =
        (machine.reached schedule time).step schedule[time] := by
    rw [reached, List.take_succ_eq_append_getElem inside, run_snoc]
    rfl
  rw [← onward] at steps
  have recorded : (machine.reached schedule (time + 1)).history[
      (machine.reached schedule time).history.length]? = some (schedule[time], event) := by
    rw [steps.history]
    exact List.getElem?_concat_length
  rw [counted] at recorded
  exact ⟨_, event, getElem?_of_earlier (prefix_history_reached (time + 1)) recorded, counted,
    steps⟩

/-- The event of a time is that of the step that is made then. -/
theorem Happens.steps
    {time number : Nat}
    {event : Event}
    (happens : machine.Happens schedule time number event)
    (blank : machine.history = []) :
    (machine.reached schedule time).history.length = time ∧
      (machine.reached schedule time).Steps number (machine.reached schedule (time + 1)) event := by
  have inside := (List.getElem?_eq_some_iff.mp happens).1
  rw [length_history_run, blank, List.length_nil, Nat.zero_add] at inside
  obtain ⟨other, made, alsoHappens, counted, steps⟩ := happens_of_lt blank inside
  cases Option.some.inj (happens.symm.trans alsoHappens)
  exact ⟨counted, steps⟩

/-- A step in which something happens is a turn of the thread. -/
theorem Happens.turn
    {time number : Nat}
    {event : Event}
    (happens : machine.Happens schedule time number event)
    (blank : machine.history = [])
    (active : event ≠ .rested) :
    ∃ thread next,
      (machine.reached schedule time).threads[number]? = some thread ∧
        (machine.reached schedule (time + 1)).threads[number]? = some next ∧
          Turns time (machine.reached schedule time).shared thread
            (machine.reached schedule (time + 1)).shared next event := by
  obtain ⟨counted, steps⟩ := happens.steps blank
  cases found : (machine.reached schedule time).threads[number]? with
  | none =>
      generalize machine.reached schedule (time + 1) = after at steps
      cases steps with
      | absent none =>
          exact absurd rfl active
      | turns present turn =>
          rw [found] at present
          cases present
  | some thread =>
      obtain ⟨next, present, turn⟩ := steps.turn found
      rw [counted] at turn
      exact ⟨thread, next, rfl, present, turn⟩

/-- What happens in a step tells what the slot holds before and after it. -/
theorem Happens.moves
    {time number : Nat}
    {event : Event}
    (happens : machine.Happens schedule time number event)
    (blank : machine.history = []) :
    event.Moves (machine.slotAt schedule time) (machine.slotAt schedule (time + 1)) := by
  obtain ⟨-, steps⟩ := happens.steps blank
  unfold slotAt
  generalize machine.reached schedule (time + 1) = after at steps ⊢
  cases steps with
  | absent none =>
      rfl
  | turns found turn =>
      exact turn.moves

end Machine

end TierHeap.ProcessSlot
