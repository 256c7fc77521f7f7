import Mathlib.Algebra.Ring.Nat
import Mathlib.Data.List.Forall2
import TierHeap.Proofs.Slot.Turns

/-!
# Calls on the slot come to an end

No call waits for another thread, so a thread gets on with each of its own steps.  A call for the
engine returns after at most three more (`Machine.Happens.returns`), and a thread that makes
enough steps makes all its calls (`Machine.endings_of_enough`).
-/

namespace TierHeap.ProcessSlot

variable {β : Type}

/-- The steps that a thread still has to make in its call. -/
def Phase.stepsLeft : Phase → Nat
  | .idle => 0
  | .missed _ => 3
  | .built _ _ => 2
  | .leaving _ => 1

def Phase.began? : Phase → Option Nat
  | .idle => none
  | .missed began => some began
  | .built began _ => some began
  | .leaving visit => some visit.began

def SlotCall.turns : SlotCall β → Nat
  | .engine => 4
  | _ => 1

/-- The call ends with an event. -/
def SlotCall.EndsIn : SlotCall β → Event → Prop
  | .engine, .returned _ => True
  | .current, .looked _ => True
  | .install _, .installed _ _ => True
  | .teardown, .toreDown _ => True
  | _, _ => False

def Event.ends : Event → Bool
  | .returned _ => true
  | .looked _ => true
  | .installed _ _ => true
  | .toreDown _ => true
  | _ => false

/-- The calls that a thread has not come to the end of. -/
def Thread.owed (thread : Thread β) : List (SlotCall β) :=
  match thread.phase with
  | .idle => thread.program
  | _ => .engine :: thread.program

/-- The steps that a thread still has to make at most. -/
def Thread.turnsLeft (thread : Thread β) : Nat :=
  thread.phase.stepsLeft + (thread.program.map SlotCall.turns).sum

/-- The ends of the calls of a thread, oldest first. -/
def Machine.endings
    (machine : Machine β)
    (number : Nat) : List Event :=
  (machine.history.filter fun entry => entry.1 = number ∧ entry.2.ends).map Prod.snd

theorem Thread.owed_of_turnsLeft
    {thread : Thread β}
    (done : thread.turnsLeft = 0) :
    thread.owed = [] := by
  obtain ⟨phase, program⟩ := thread
  cases program with
  | nil =>
      cases phase with
      | idle =>
          rfl
      | _ =>
          cases done
  | cons call rest =>
      have positive : 0 < call.turns := by cases call <;> exact Nat.succ_pos _
      simp only [turnsLeft, List.map_cons, List.sum_cons] at done
      omega

variable [Backend β]

section

variable
  {clock : Nat}
  {shared after : Shared β}
  {thread next : Thread β}
  {event : Event}
  (turn : Turns clock shared thread after next event)

include turn

theorem Turns.busy_of_begins (begins : event.begins = true) :
    next.phase.began? = some clock ∧ next.phase.stepsLeft ≤ 3 := by
  cases turn with
  | finds filled =>
      exact ⟨rfl, Nat.le_add_left 1 2⟩
  | misses empty =>
      exact ⟨rfl, Nat.le_refl 3⟩
  | _ =>
      cases begins

theorem Turns.returned_or_nearer
    {began : Nat}
    (busy : thread.phase.began? = some began) :
    (∃ visit, event = .returned visit ∧ visit.began = began) ∨
      next.phase.began? = some began ∧ next.phase.stepsLeft + 1 = thread.phase.stepsLeft := by
  cases turn with
  | builds =>
      exact .inr ⟨busy, rfl⟩
  | loses filled =>
      exact .inr ⟨busy, rfl⟩
  | stores empty =>
      exact .inr ⟨busy, rfl⟩
  | leaves visit =>
      exact .inl ⟨visit, rfl, Option.some.inj busy⟩
  | _ =>
      cases busy

/-- A turn takes one of the steps that are left, and may end the first call that is owed. -/
theorem Turns.ends_or_owes :
    next.turnsLeft ≤ thread.turnsLeft - 1 ∧
      if event.ends then ∃ call, thread.owed = call :: next.owed ∧ call.EndsIn event
      else next.owed = thread.owed := by
  cases turn with
  | leaves visit =>
      refine ⟨?_, .engine, rfl, trivial⟩
      simp [Thread.turnsLeft, Phase.stepsLeft]
  | looks =>
      refine ⟨?_, .current, rfl, trivial⟩
      simp [Thread.turnsLeft, Phase.stepsLeft, SlotCall.turns]
  | installs make =>
      refine ⟨?_, .install make, rfl, trivial⟩
      simp [Thread.turnsLeft, Phase.stepsLeft, SlotCall.turns]
  | tearsDown =>
      refine ⟨?_, .teardown, rfl, trivial⟩
      simp [Thread.turnsLeft, Phase.stepsLeft, SlotCall.turns]
  | _ =>
      refine ⟨?_, rfl⟩
      simp [Thread.turnsLeft, Phase.stepsLeft, SlotCall.turns]

end

namespace Machine

/-- A call returns once its thread has made the steps that are left of it. -/
theorem exists_returned
    {number began : Nat}
    (schedule : List Nat)
    {machine : Machine β}
    {thread : Thread β}
    (found : machine.threads[number]? = some thread)
    (busy : thread.phase.began? = some began)
    (enough : thread.phase.stepsLeft ≤ schedule.count number) :
    ∃ time visit, machine.Happens schedule time number (.returned visit) ∧
      visit.began = began := by
  induction schedule generalizing machine thread with
  | nil =>
      cases phase : thread.phase <;> simp_all [Phase.stepsLeft, Phase.began?]
  | cons other rest inductionHypothesis =>
      obtain ⟨event, steps⟩ := steps_step machine other
      change ∃ time visit, (machine.step other).Happens rest time number (.returned visit) ∧
        visit.began = began
      generalize machine.step other = after at steps ⊢
      have recorded : after.history[machine.history.length]? = some (other, event) := by
        rw [steps.history]
        exact List.getElem?_concat_length
      by_cases own : other = number
      · subst own
        rw [List.count_cons_self] at enough
        obtain ⟨next, present, turn⟩ := steps.turn found
        rcases turn.returned_or_nearer busy with ⟨visit, rfl, same⟩ | ⟨stillBusy, nearer⟩
        · exact ⟨_, visit, getElem?_of_earlier (history_prefix_run _ rest) recorded, same⟩
        · exact inductionHypothesis present stillBusy (by omega)
      · -- A step of another thread uses up nothing of the call.
        rw [List.count_cons_of_ne own] at enough
        exact inductionHypothesis (steps.thread_of_ne own found) busy enough

variable {machine : Machine β} {schedule : List Nat} {time number : Nat} {event : Event}

/-- A call returns once its thread has made three steps after the first. -/
theorem Happens.returns
    (happens : machine.Happens schedule time number event)
    (blank : machine.history = [])
    (begins : event.begins = true)
    (enough : 3 ≤ (schedule.drop (time + 1)).count number) :
    ∃ later visit, machine.Happens schedule later number (.returned visit) ∧
      visit.began = time := by
  have active : event ≠ .rested := by
    rintro rfl
    cases begins
  obtain ⟨thread, next, -, found, turn⟩ := happens.turn blank active
  obtain ⟨busy, short⟩ := turn.busy_of_begins begins
  have returned := exists_returned _ found busy (Nat.le_trans short enough)
  simpa only [Happens, run_reached] using returned

theorem Steps.endings
    {after : Machine β}
    {other : Nat}
    (steps : machine.Steps other after event)
    (number : Nat) :
    after.endings number =
      machine.endings number ++ if other = number ∧ event.ends then [event] else [] := by
  rw [Machine.endings, steps.history, List.filter_append, List.map_append, Machine.endings]
  by_cases ended : other = number ∧ event.ends <;> simp [ended]

/-- The calls that have ended and those that are still owed are those that were owed. -/
theorem exists_owed
    {thread : Thread β}
    (blank : machine.history = [])
    (found : machine.threads[number]? = some thread)
    (schedule : List Nat) :
    ∃ now done, (machine.run schedule).threads[number]? = some now ∧
      thread.owed = done ++ now.owed ∧
        List.Forall₂ SlotCall.EndsIn done ((machine.run schedule).endings number) ∧
          now.turnsLeft ≤ thread.turnsLeft - schedule.count number := by
  induction schedule using List.reverseRecOn with
  | nil =>
      refine ⟨thread, [], found, rfl, ?_, Nat.le_refl _⟩
      have nothing : machine.endings number = [] := by
        rw [endings, blank]
        rfl
      exact nothing ▸ .nil
  | append_singleton schedule other inductionHypothesis =>
      obtain ⟨now, done, present, owed, ended, short⟩ := inductionHypothesis
      obtain ⟨event, steps⟩ := steps_step (machine.run schedule) other
      rw [run_snoc, steps.endings number, List.count_append]
      generalize (machine.run schedule).step other = after at steps ⊢
      by_cases own : other = number
      · subst own
        obtain ⟨next, stillPresent, turn⟩ := steps.turn present
        obtain ⟨shorter, ends⟩ := turn.ends_or_owes
        have shortest : next.turnsLeft ≤
            thread.turnsLeft - (schedule.count other + [other].count other) := by
          rw [List.count_singleton_self]
          omega
        by_cases last : event.ends = true
        · rw [if_pos last] at ends
          obtain ⟨call, first, endsNow⟩ := ends
          rw [if_pos ⟨rfl, last⟩]
          refine ⟨next, done ++ [call], stillPresent, ?_, ?_, shortest⟩
          · rw [owed, first, List.append_assoc]
            rfl
          · exact List.rel_append ended (.cons endsNow .nil)
        · rw [if_neg last] at ends
          rw [if_neg fun both => last both.2, List.append_nil]
          exact ⟨next, done, stillPresent, ends ▸ owed, ended, shortest⟩
      · rw [if_neg fun both => own both.1, List.append_nil, List.count_singleton,
          if_neg (by simpa using own)]
        exact ⟨now, done, steps.thread_of_ne own present, owed, ended, short⟩

/-- A thread that makes enough steps makes all its calls, in their order. -/
theorem endings_of_enough
    {thread : Thread β}
    (blank : machine.history = [])
    (found : machine.threads[number]? = some thread)
    (enough : thread.turnsLeft ≤ schedule.count number) :
    List.Forall₂ SlotCall.EndsIn thread.owed ((machine.run schedule).endings number) := by
  obtain ⟨now, done, -, owed, ended, short⟩ := exists_owed blank found schedule
  have finished : now.turnsLeft = 0 := by omega
  rw [owed, Thread.owed_of_turnsLeft finished, List.append_nil]
  exact ended

end Machine

end TierHeap.ProcessSlot
