import TierHeap.Proofs.Backend.Recording
import TierHeap.Proofs.Interleaving.Machine

/-!
# Recording changes no interleaving

Threads that share a session over recorders make the same steps as threads that share the
session over the backends themselves (`Machine.unrecorded_run`).
-/

namespace TierHeap.Interleaving

variable {β : Type}

theorem unrecorded_conclude
    (engine : Engine (Recorder β))
    (active : Tier)
    (aftermath : Aftermath) :
    aftermath.conclude engine.unrecorded active =
      (aftermath.conclude engine active).unrecorded := by
  cases aftermath with
  | allocated symbol block grew displaced =>
      simp only [Aftermath.conclude, Engine.unrecorded_noteDisplaced, Engine.unrecorded_count,
        Engine.unrecorded_noteGrowth]
      cases grew <;> rfl
  | _ =>
      rfl

theorem unrecorded_withdraw
    (session : Session (Recorder β))
    (addr : Nat) :
    withdraw session.unrecorded addr =
      Prod.map Session.unrecorded id (withdraw session addr) := by
  have engine : session.unrecorded.engine = session.engine.unrecorded := rfl
  simp only [withdraw, engine, Engine.unrecorded_withdraw]
  cases session.engine.withdraw addr with
  | mk found changed =>
      cases found <;> rfl

theorem unrecorded_resize
    (session : Session (Recorder β))
    (addr newSize : Nat) :
    resize session.unrecorded addr newSize =
      Prod.map Session.unrecorded id (resize session addr newSize) := by
  have engine : session.unrecorded.engine = session.engine.unrecorded := rfl
  have table : session.engine.unrecorded.table = session.engine.table := rfl
  unfold resize
  cases Engine.reserve newSize with
  | error err =>
      rfl
  | ok newReserved =>
      simp only [engine, table]
      cases session.engine.table.get? addr with
      | none =>
          rfl
      | some block =>
          simp only [Engine.unrecorded_resizeBlock?]
          cases session.engine.resizeBlock? block newSize newReserved <;> rfl

variable [Backend β]

theorem unrecorded_start
    (session : Session (Recorder β))
    (number : Nat)
    (call : Call) :
    start session.unrecorded number call =
      Prod.map Session.unrecorded id (start session number call) := by
  cases call with
  | enable =>
      simp only [start, Session.unrecorded_call]
      rfl
  | setMode tier =>
      simp only [start, Session.unrecorded_call]
      rfl
  | free addr =>
      exact unrecorded_withdraw session addr
  | resize addr newSize =>
      exact unrecorded_resize session addr newSize
  | _ =>
      rfl

theorem unrecorded_carve
    (session : Session (Recorder β))
    (symbol : String)
    (tier : Tier)
    (size reserved align : Nat) :
    carve session.unrecorded symbol tier size reserved align =
      Prod.map Session.unrecorded id (carve session symbol tier size reserved align) := by
  have engine : session.unrecorded.engine = session.engine.unrecorded := rfl
  simp only [carve, engine, Engine.unrecorded_carve]
  cases session.engine.carve tier reserved align with
  | mk answer changed =>
      cases answer <;> rfl

theorem unrecorded_turn
    (thread : Thread)
    (session : Session (Recorder β))
    (number : Nat) :
    thread.turn session.unrecorded number =
      Prod.map Session.unrecorded id (thread.turn session number) := by
  have engine : session.unrecorded.engine = session.engine.unrecorded := rfl
  obtain ⟨phase, program, replies⟩ := thread
  cases phase with
  | idle =>
      cases program with
      | nil =>
          rfl
      | cons call rest =>
          simp only [Thread.turn, unrecorded_start]
          rfl
  | routed symbol tier size reserved align =>
      simp only [Thread.turn, unrecorded_carve]
      rfl
  | carved symbol block grew =>
      rfl
  | removed block =>
      simp only [Thread.turn, engine, Engine.unrecorded_giveBack]
      rfl
  | trimmingHost =>
      simp only [Thread.turn, engine, Engine.unrecorded_trimTier]
      rfl
  | trimmingCxl hostBytes =>
      simp only [Thread.turn, engine, Engine.unrecorded_trimTier]
      rfl
  | concluding aftermath =>
      simp only [Thread.turn, engine, unrecorded_conclude]
      rfl

namespace Machine

def unrecorded (machine : Machine (Recorder β)) : Machine β :=
  ⟨machine.session.unrecorded, machine.threads, machine.history⟩

theorem unrecorded_step
    (machine : Machine (Recorder β))
    (number : Nat) :
    machine.unrecorded.step number = (machine.step number).unrecorded := by
  have threads : machine.unrecorded.threads = machine.threads := rfl
  have session : machine.unrecorded.session = machine.session.unrecorded := rfl
  unfold step
  rw [threads]
  cases machine.threads[number]? with
  | none =>
      rfl
  | some thread =>
      simp only [session, unrecorded_turn]
      rfl

/-- Steps with records are the steps without them. -/
theorem unrecorded_run
    (machine : Machine (Recorder β))
    (schedule : List Nat) :
    machine.unrecorded.run schedule = (machine.run schedule).unrecorded := by
  induction schedule generalizing machine with
  | nil =>
      rfl
  | cons number rest inductionHypothesis =>
      simp only [run, List.foldl_cons, unrecorded_step] at *
      exact inductionHypothesis (machine.step number)

end Machine

end TierHeap.Interleaving
