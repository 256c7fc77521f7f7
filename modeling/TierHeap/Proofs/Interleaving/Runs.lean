import TierHeap.Proofs.Interleaving.Books

/-!
# Interleaved runs

A step of one thread leaves alone what the others have in their hands, so whatever the
schedule, the threads keep the books together (`Machine.accounted_run`).
-/

namespace TierHeap.Interleaving

variable {β : Type}

namespace Machine

/-- A part of what the threads have in their hands. -/
def gather
    (part : Phase → List Block)
    (threads : List Thread) : List Block :=
  threads.flatMap fun thread => part thread.phase

theorem gather_perm
    (part : Phase → List Block)
    {threads : List Thread}
    {number : Nat}
    {thread : Thread}
    (found : threads[number]? = some thread) :
    (gather part threads).Perm
      (part thread.phase ++ gather part (threads.eraseIdx number)) := by
  obtain ⟨inside, rfl⟩ := List.getElem?_eq_some_iff.mp found
  exact (List.getElem_cons_eraseIdx_perm inside).symm.flatMap_right _

theorem gather_set_perm
    (part : Phase → List Block)
    {threads : List Thread}
    {number : Nat}
    (inside : number < threads.length)
    (thread : Thread) :
    (gather part (threads.set number thread)).Perm
      (part thread.phase ++ gather part (threads.eraseIdx number)) :=
  (List.set_perm_cons_eraseIdx inside thread).flatMap_right _

theorem gather_of_idle
    {part : Phase → List Block}
    (nothing : part .idle = [])
    {threads : List Thread}
    (idle : ∀ thread ∈ threads, thread.phase = .idle) :
    gather part threads = [] := by
  rw [gather, List.flatMap_eq_nil_iff]
  intro thread member
  rw [idle thread member]
  exact nothing

def dealings (machine : Machine (Recorder β)) : PerTier (List Dealing) :=
  machine.session.dealings

/-- The books are kept, with what all threads have in their hands. -/
structure Accounted (machine : Machine (Recorder β)) : Prop where
  kept :
    Kept machine.session.engine machine.history (gather Phase.flight machine.threads)
      (gather Phase.incoming machine.threads) (gather Phase.outgoing machine.threads)
  sound : ∀ thread ∈ machine.threads, thread.phase.Sound

variable [Backend β]

theorem step_of_none
    {machine : Machine β}
    {number : Nat}
    (absent : machine.threads[number]? = none) :
    machine.step number = machine := by
  rw [step, absent]

theorem step_of_some
    {machine : Machine β}
    {number : Nat}
    {thread : Thread}
    (found : machine.threads[number]? = some thread) :
    machine.step number =
      ⟨(thread.turn machine.session number).1,
       machine.threads.set number (thread.turn machine.session number).2.1,
       (thread.turn machine.session number).2.2 ++ machine.history⟩ := by
  rw [step, found]

theorem accounted_opening
    (config : Config)
    (bank : RegisterBank)
    (backends : PerTier β)
    (programs : List (List Call)) :
    (opening (Session.opening config bank (backends.map Recorder.start)) programs).Accounted := by
  have idle : ∀ thread ∈ programs.map fun program => (⟨.idle, program, []⟩ : Thread),
      thread.phase = .idle := by
    intro thread member
    obtain ⟨program, -, rfl⟩ := List.mem_map.mp member
    rfl
  have flight := gather_of_idle (by rfl : Phase.flight .idle = []) idle
  have incoming := gather_of_idle (by rfl : Phase.incoming .idle = []) idle
  have outgoing := gather_of_idle (by rfl : Phase.outgoing .idle = []) idle
  refine ⟨?_, ?_⟩
  · simp only [opening, flight, incoming, outgoing]
    have table :
        (Engine.withBackends config bank (backends.map Recorder.start)).1.table = .empty := rfl
    have metrics :
        (Engine.withBackends config bank (backends.map Recorder.start)).1.metrics = .zero := rfl
    refine ⟨Engine.accounted_withBackends config bank backends, ?_, trivial, ?_, ?_⟩
    · rw [Session.opening, table, BlockTable.blocks_empty]
      exact .refl _
    · intro addr
      rw [Session.opening, table, BlockTable.get?_empty]
      rfl
    · rw [Session.opening, table, metrics, BlockTable.blocks_empty]
      exact Metrics.gauged_zero
  · intro thread member
    rw [idle thread member]
    exact trivial

/-- Every step keeps the books. -/
theorem Accounted.step
    {machine : Machine (Recorder β)}
    (accounted : machine.Accounted)
    {number : Nat}
    (abiding : Dealing.Abiding (machine.step number).dealings) :
    (machine.step number).Accounted := by
  cases found : machine.threads[number]? with
  | none =>
      rw [step_of_none found]
      exact accounted
  | some thread =>
      rw [step_of_some found] at abiding ⊢
      -- What the other threads have in their hands is the same before and after the turn.
      have inside : number < machine.threads.length :=
        (List.getElem?_eq_some_iff.mp found).1
      have member : thread ∈ machine.threads := List.mem_of_getElem? found
      have kept := accounted.kept.perm (gather_perm _ found) (gather_perm _ found)
        (gather_perm _ found)
      have turned := kept.turn (accounted.sound thread member) number abiding
      refine ⟨?_, ?_⟩
      · exact turned.kept.perm (gather_set_perm _ inside _).symm
          (gather_set_perm _ inside _).symm (gather_set_perm _ inside _).symm
      · intro other otherMember
        rcases List.mem_or_eq_of_mem_set otherMember with old | rfl
        · exact accounted.sound other old
        · exact turned.sound

theorem run_snoc
    (machine : Machine β)
    (schedule : List Nat)
    (number : Nat) :
    machine.run (schedule ++ [number]) = (machine.run schedule).step number := by
  rw [run, List.foldl_append]
  rfl

/-- Every schedule keeps the books. -/
theorem accounted_run
    {machine : Machine (Recorder β)}
    (accounted : machine.Accounted)
    {schedule : List Nat}
    (abiding : ∀ before, before <+: schedule →
      Dealing.Abiding (machine.run before).dealings) :
    (machine.run schedule).Accounted := by
  induction schedule generalizing machine with
  | nil =>
      exact accounted
  | cons number rest inductionHypothesis =>
      have afterStep := abiding [number] ((List.prefix_cons_inj _).mpr List.nil_prefix)
      apply inductionHypothesis (accounted.step afterStep)
      intro before isPrefix
      exact abiding (number :: before) ((List.prefix_cons_inj _).mpr isPrefix)

end Machine

end TierHeap.Interleaving
