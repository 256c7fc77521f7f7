import TierHeap.Backend.System
import TierHeap.Proofs.Engine.Refusals
import TierHeap.Proofs.Process.Contents

/-!
# Calls of a process that do not succeed

A call that does not succeed leaves the blocks, the free space, the register and all memory of
the process as they were (`ProcessHeap.Kept.intact_call`).  The error number is another matter:
a backend that fails may leave one, so that a call to the engine leaves it alone for sure only if
no tier was asked in vain (`ProcessHeap.errno_call`).
-/

namespace TierHeap

/-- A backend leaves an error number only when it fails. -/
def Backend.Tacit (β : Type) [Backend β] : Prop :=
  ∀ (backend after : β) (depth len : Nat) (segment : Segment),
    Backend.commit backend depth len = (.ok segment, after) →
      Backend.errnos after = Backend.errnos backend

theorem SystemBackend.tacit : Backend.Tacit SystemBackend := by
  intro backend after depth len segment committed
  simp only [Backend.commit, SystemBackend.commit] at committed
  split at committed
  · cases committed
  · cases committed
    rfl

theorem SimulatedBackend.tacit : Backend.Tacit SimulatedBackend :=
  fun _ _ _ _ _ _ => rfl

theorem Recorder.tacit
    {β : Type}
    [Backend β]
    (tacit : Backend.Tacit β) :
    Backend.Tacit (Recorder β) := by
  intro recorder after depth len segment committed
  simp only [Backend.commit, Prod.mk.injEq] at committed
  obtain ⟨granted, rfl⟩ := committed
  exact tacit recorder.backend _ depth len segment (Prod.ext granted rfl)

namespace Allocator

variable {β : Type} [Backend β] {allocator after : Allocator β}

theorem errnos_grow_ok
    (tacit : Backend.Tacit β)
    {depth reserved : Nat}
    (grown : allocator.grow depth reserved = (.ok (), after)) :
    Backend.errnos after.backend = Backend.errnos allocator.backend := by
  rcases grow_cases grown with
    ⟨-, -, same⟩ | ⟨minimum, -, ⟨-, -, same⟩ | ⟨len, -, committed⟩⟩
  · cases same
  · cases same
  · unfold commit at committed
    split at committed
    · cases committed
    · rename_i segment backend granted
      cases committed
      exact tacit _ _ _ _ _ granted

theorem errnos_allocate_ok
    (tacit : Backend.Tacit β)
    {depth reserved align : Nat}
    {carve : Carve}
    (allocated : allocator.allocate depth reserved align = (.ok carve, after)) :
    Backend.errnos after.backend = Backend.errnos allocator.backend := by
  rcases allocate_cases allocated with
    ⟨addr, carved, -⟩ | ⟨-, ⟨err, -, same⟩ | ⟨grown, succeeded, ⟨addr, carved, -⟩ | ⟨-, -, same⟩⟩⟩
  · obtain ⟨fit, -, -, rfl⟩ := carve?_eq_some carved
    rfl
  · cases same
  · obtain ⟨fit, -, -, rfl⟩ := carve?_eq_some carved
    have grown := errnos_grow_ok tacit succeeded
    exact grown
  · cases same

end Allocator

/-- A task leaves no error number unless a tier is asked in vain or trimmed. -/
theorem Task.Ends.errnos
    {β : Type}
    [Backend β]
    (tacit : Backend.Tacit β)
    {engine : Engine β}
    {task : Task}
    {reply : Reply}
    {change : Change β}
    (ends : task.Ends engine.tiers engine.table reply change)
    (untrimmed : task ≠ .trim)
    (supplied : ∀ tier size, reply ≠ .refused (.outOfMemory tier size))
    (tier : Tier) :
    Backend.errnos ((change.apply engine).tiers.get tier).backend =
      Backend.errnos (engine.tiers.get tier).backend := by
  cases ends with
  | exhausted valid tried =>
      exact absurd rfl (supplied _ _)
  | @allocated wanted size align reserved carve allocator valid tried =>
      by_cases own : tier = wanted
      · subst own
        simp only [Change.apply, PerTier.get_set_self]
        exact Allocator.errnos_allocate_ok tacit tried
      · simp only [Change.apply, PerTier.get_set_other _ own]
  | @freed addr block found =>
      by_cases own : tier = block.tier
      · subst own
        simp only [Change.apply, PerTier.get_modify_self]
        rfl
      · simp only [Change.apply, PerTier.get_modify_other _ own]
  | @resized addr size reserved block allocator valid found tried =>
      obtain ⟨arena, -, rfl⟩ := Allocator.resize?_eq_some tried
      by_cases own : tier = block.tier
      · subst own
        simp only [Change.apply, PerTier.get_set_self]
      · simp only [Change.apply, PerTier.get_set_other _ own]
  | trimmed =>
      exact absurd rfl untrimmed
  | _ =>
      rfl

namespace ProcessHeap

variable {β : Type} [Backend β]

theorem errnoAfter_of_errnos_eq
    {before after : β}
    (same : Backend.errnos after = Backend.errnos before)
    (errno : Int) :
    errnoAfter errno before after = errno := by
  rw [errnoAfter, if_pos (by rw [same])]

/-- A call leaves the error number alone unless a tier is asked in vain or trimmed. -/
theorem errno_call
    (tacit : Backend.Tacit β)
    (process : ProcessHeap β)
    {call : Call}
    {task : Task}
    (asked : call.task? (process.session.active process.thread) = some task)
    (untrimmed : task ≠ .trim)
    (supplied : ∀ tier size, (process.call call).1 ≠ .refused (.outOfMemory tier size)) :
    (process.call call).2.errno = process.errno := by
  obtain ⟨change, log, session, ends⟩ := call_ends asked
  have errnos := ends.errnos tacit untrimmed supplied
  rw [session_call] at session
  rw [call_eq, session]
  exact (errnoAfter_of_errnos_eq (errnos .cxl) _).trans (errnoAfter_of_errnos_eq (errnos .host) _)

/-- An allocation leaves what the backend of its tier has left. -/
theorem errno_allocate
    (process : ProcessHeap β)
    {call : Call}
    {tier : Tier}
    {size align : Nat}
    (asked : call.task? (process.session.active process.thread) =
      some (.allocate tier size align)) :
    (process.call call).2.errno =
      errnoAfter process.errno (process.session.engine.tiers.get tier).backend
        ((process.call call).2.session.engine.tiers.get tier).backend := by
  obtain ⟨change, log, session, ends⟩ := call_ends asked
  generalize (process.call call).1 = reply at *
  rw [session]
  rw [session_call] at session
  rw [call_eq, session]
  -- The other tier is not asked, and its backend leaves nothing.
  have still (errno : Int) (backend : β) : errnoAfter errno backend backend = errno :=
    errnoAfter_of_errnos_eq rfl errno
  cases ends with
  | invalid invalid =>
      dsimp only [Session.changed, Session.withEngine, Change.apply]
      rw [still, still, still]
  | exhausted valid tried =>
      dsimp only [Session.changed, Session.withEngine, Change.apply]
      cases tier with
      | host => exact still _ _
      | cxl => exact congrArg (errnoAfter · _ _) (still _ _)
  | allocated valid tried =>
      dsimp only [Session.changed, Session.withEngine, Change.apply]
      cases tier with
      | host => exact still _ _
      | cxl => exact congrArg (errnoAfter · _ _) (still _ _)

/-- From one process to another, the blocks, the tiers with their segments and free ranges, the
register and all memory are the same. -/
structure Intact (before after : ProcessHeap (Recorder β)) : Prop where
  table : after.session.engine.table = before.session.engine.table
  mode : after.session.engine.mode = before.session.engine.mode
  bank : after.session.bank = before.session.bank
  settings : ∀ tier,
    (after.session.engine.tiers.get tier).SameSettings (before.session.engine.tiers.get tier)
  arena : ∀ tier,
    (after.session.engine.tiers.get tier).arena.uncounted =
      (before.session.engine.tiers.get tier).arena.uncounted
  memory : after.memory = before.memory

variable {process middle after : ProcessHeap (Recorder β)} {flight : List Block}

theorem Intact.of_session
    (session : after.session = process.session)
    (memory : after.memory = process.memory) :
    Intact process after := by
  refine ⟨?_, ?_, ?_, fun tier => ?_, fun tier => ?_, memory⟩
  · rw [session]
  · rw [session]
  · rw [session]
  · rw [session]
    exact .refl _
  · rw [session]

theorem Intact.trans
    (first : Intact process middle)
    (second : Intact middle after) :
    Intact process after where
  table := second.table.trans first.table
  mode := second.mode.trans first.mode
  bank := second.bank.trans first.bank
  settings tier := (second.settings tier).trans (first.settings tier)
  arena tier := (second.arena tier).trans (first.arena tier)
  memory := second.memory.trans first.memory

theorem Intact.setErrno
    (intact : Intact process after)
    (errno : Int) :
    Intact process (Abi.setErrno after errno) :=
  intact.trans (.of_session (session_setErrno after errno) rfl)

theorem contentsAfter_of_growths_eq
    (memory : Memory)
    {before after : Arena}
    (same : after.growths = before.growths) :
    contentsAfter memory before after = memory := by
  rw [contentsAfter, if_pos same]

/-- A call that does not succeed changes none of it. -/
theorem Kept.intact_call
    (kept : process.Kept flight)
    {call : Call}
    (abiding : Dealing.Abiding (process.call call).2.dealings)
    (unsuccessful : (process.call call).1.succeeds = false) :
    Intact process (process.call call).2 := by
  rw [dealings, session_call] at abiding
  rw [reply_call] at unsuccessful
  have untouched := Session.untouched_call kept.accounted abiding unsuccessful
  have growths (tier : Tier) := congrArg Arena.growths (untouched.tiers tier).arena
  refine ⟨?_, ?_, ?_, fun tier => ?_, fun tier => ?_, ?_⟩
  · rw [session_call]
    exact untouched.table
  · rw [session_call]
    exact untouched.mode
  · rw [session_call]
    exact untouched.bank
  · rw [session_call]
    exact (untouched.tiers tier).settings
  · rw [session_call]
    exact (untouched.tiers tier).arena
  · rw [call_eq]
    exact (contentsAfter_of_growths_eq _ (growths .cxl)).trans
      (contentsAfter_of_growths_eq _ (growths .host))

end ProcessHeap

end TierHeap
