import TierHeap.Proofs.Abi.Entries
import TierHeap.Proofs.Interleaving.Reached

/-!
# Runs of a process

A program calls entry points, one at a time, and writes to memory by itself.  Over backends that
owe their dealings, the books of its engine are kept from its start on, whoever has called the
engine before (`ProcessHeap.Reached.kept`).
-/

namespace TierHeap

variable {β : Type}

theorem Session.Unused.abiding
    {session : Session (Recorder β)}
    (unused : session.Unused) :
    Dealing.Abiding session.dealings := by
  have none (tier : Tier) : session.dealings.get tier = [] := by
    rw [Session.dealings, PerTier.dealings, PerTier.get_map, unused.dealings]
  have host : session.dealings.host = [] := none .host
  refine ⟨fun tier => ?_, ?_⟩
  · rw [none]
    trivial
  · rw [host]
    intro segment member
    cases member

/-- What a program does about its heap. -/
inductive Deed where
  | call (entry : Abi.Entry)
  /-- The program itself writes to memory. -/
  | write (addr : Nat) (bytes : List UInt8)
  /-- Another thread goes on, with an error number of its own. -/
  | turn (thread : Nat) (errno : Int)
  deriving DecidableEq

namespace ProcessHeap

variable [Backend β]

def act
    (process : ProcessHeap β) : Deed → ProcessHeap β
  | .call entry => (Abi.invoke process entry).2
  | .write addr bytes => { process with memory := process.memory.write addr bytes }
  | .turn thread errno =>
      { process with
        thread := thread
        errno := errno }

def run
    (process : ProcessHeap β)
    (deeds : List Deed) : ProcessHeap β :=
  deeds.foldl act process

theorem run_snoc
    (process : ProcessHeap β)
    (before : List Deed)
    (deed : Deed) :
    process.run (before ++ [deed]) = (process.run before).act deed := by
  rw [run, List.foldl_concat]
  rfl

/-- The process can be in this state, over backends that have owed all their dealings. -/
inductive Reached : ProcessHeap (Recorder β) → Prop where
  /-- The engine is new, and memory holds anything. -/
  | fresh
      {process : ProcessHeap (Recorder β)}
      (built : process.session.Built) :
      Reached process
  /-- Threads have called the engine and may be in the middle of their calls. -/
  | shared
      {process : ProcessHeap (Recorder β)}
      {config : Config}
      {bank : RegisterBank}
      {backends : PerTier β}
      (reached : Session.Reached config bank backends process.session) :
      Reached process
  | deed
      {process : ProcessHeap (Recorder β)}
      (reached : Reached process)
      (deed : Deed)
      (abiding : Dealing.Abiding (process.act deed).dealings) :
      Reached (process.act deed)

variable {process : ProcessHeap (Recorder β)} {flight : List Block}

theorem Kept.act
    (kept : process.Kept flight)
    {deed : Deed}
    (abiding : Dealing.Abiding (process.act deed).dealings) :
    (process.act deed).Kept flight := by
  cases deed with
  | call entry =>
      exact (Abi.preserved_invoke kept abiding).kept
  | write addr bytes =>
      exact kept.transport (session_withMemory process _)
  | turn thread errno =>
      exact kept.transport (session_congr rfl rfl rfl)

theorem Reached.kept (reached : process.Reached) : ∃ flight, process.Kept flight := by
  induction reached with
  | fresh built =>
      exact ⟨[], built.unused.accounted, built.unused.abiding⟩
  | shared reached =>
      obtain ⟨flight, accounted⟩ := reached.accounted
      exact ⟨flight, accounted, reached.abiding⟩
  | deed reached deed abiding inductionHypothesis =>
      obtain ⟨flight, kept⟩ := inductionHypothesis
      exact ⟨flight, kept.act abiding⟩

/-- A run goes on from state to state that the process can be in. -/
theorem Reached.run
    (reached : process.Reached)
    {deeds : List Deed}
    (abiding : ∀ before, before <+: deeds → Dealing.Abiding (process.run before).dealings) :
    (process.run deeds).Reached := by
  induction deeds using List.reverseRecOn with
  | nil =>
      exact reached
  | append_singleton earlier deed inductionHypothesis =>
      have reachedEarlier := inductionHypothesis fun before isPrefix =>
        abiding before (isPrefix.trans (List.prefix_append earlier [deed]))
      have now := abiding _ (List.prefix_refl _)
      rw [run_snoc] at now ⊢
      exact .deed reachedEarlier deed now

def waiting : ProcessHeap (Recorder SimulatedBackend) :=
  .initial
    { lookup := fun _ => none
      source := fun _ tier => .start (Session.distantBackends.get tier) }

theorem built_waiting : waiting.session.Built :=
  built_of_waiting (fun _ tier => Session.distantBackends.get tier) rfl rfl

end ProcessHeap

end TierHeap
