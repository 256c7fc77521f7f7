import TierHeap.Proofs.Engine.Selection
import TierHeap.Proofs.Process.Sessions

/-!
# Processes that differ in the register

Two processes are alike when their engines differ in the register and the log at most, and memory
and the error number are the same.  Calls that name their tier cannot tell such processes apart,
and `realloc` of an address makes no other calls (`Abi.alike_realloc`); nor can entry points that
pin the tier of what they allocate (`Abi.alike_invoke_pinned`).
-/

namespace TierHeap

variable {β : Type}

/-- Two processes differ in the register, the log and the thread that goes on, at most. -/
structure ProcessHeap.Alike
    [Backend β]
    (first second : ProcessHeap β) : Prop where
  session : first.session.Alike second.session
  memory : first.memory = second.memory
  errno : first.errno = second.errno

variable [Backend β]

namespace ProcessHeap.Alike

variable {first second : ProcessHeap β}

theorem refl (process : ProcessHeap β) : process.Alike process :=
  ⟨.refl _, rfl, rfl⟩

theorem engine (alike : first.Alike second) : first.engine.2.Alike second.engine.2 := by
  refine ⟨?_, ?_, ?_⟩
  · rw [session_engine, session_engine]
    exact alike.session
  · rw [memory_engine, memory_engine]
    exact alike.memory
  · rw [engine_eq, engine_eq]
    exact alike.errno

theorem setErrno
    (alike : first.Alike second)
    (errno : Int) :
    (Abi.setErrno first errno).Alike (Abi.setErrno second errno) := by
  refine ⟨?_, alike.memory, rfl⟩
  rw [session_setErrno, session_setErrno]
  exact alike.session

theorem withMemory
    (alike : first.Alike second)
    (change : Memory → Memory) :
    ProcessHeap.Alike { first with memory := change first.memory }
      { second with memory := change second.memory } := by
  refine ⟨?_, congrArg change alike.memory, alike.errno⟩
  rw [session_withMemory first, session_withMemory second]
  exact alike.session

/-- A call whose task does not depend on the register does the same in both. -/
theorem call
    (alike : first.Alike second)
    {call : Call}
    {task : Task}
    (asked : ∀ active, call.task? active = some task) :
    (first.call call).1 = (second.call call).1 ∧
      (first.call call).2.Alike (second.call call).2 := by
  obtain ⟨replies, sessions⟩ := alike.session.call_of_task (asked _) (asked _)
  refine ⟨?_, ?_, ?_, ?_⟩
  · rw [reply_call, reply_call]
    exact replies
  · rw [session_call, session_call]
    exact sessions
  · rw [call_eq, call_eq]
    dsimp only
    rw [alike.memory, alike.session.tiers, sessions.tiers]
  · rw [call_eq, call_eq]
    dsimp only
    rw [alike.errno, alike.session.tiers, sessions.tiers]

end ProcessHeap.Alike

namespace Abi

open ProcessHeap

variable {first second : ProcessHeap β}

theorem alike_allocating
    (alike : first.Alike second)
    {call : Call}
    {task : Task}
    (asked : ∀ active, call.task? active = some task) :
    (allocating first call).1 = (allocating second call).1 ∧
      (allocating first call).2.Alike (allocating second call).2 := by
  obtain ⟨replies, after⟩ := alike.call asked
  simp only [allocating]
  rw [replies]
  refine ⟨rfl, ?_⟩
  cases (second.call call).1 with
  | refused err =>
      exact after.setErrno (errnoOf err)
  | _ =>
      exact after

theorem alike_release
    (alike : first.Alike second)
    (ptr : Nat) :
    (release first ptr).2.Alike (release second ptr).2 := by
  have asked (active : Tier) : Call.task? active (.free ptr) = some (.free ptr) := rfl
  obtain ⟨replies, after⟩ := alike.call asked
  simp only [release]
  split
  · exact alike
  · rw [replies]
    cases (second.call (.free ptr)).1 with
    | refused err =>
        exact after.setErrno (errnoOf err)
    | _ =>
        exact after

theorem alike_move
    (alike : first.Alike second)
    (block : Block)
    (size : Nat) :
    (move first block size).1 = (move second block size).1 ∧
      (move first block size).2.Alike (move second block size).2 := by
  have asked (active : Tier) : Call.task? active (.allocateOn block.tier size) =
      some (.allocate block.tier size granule) := rfl
  have askedFree (active : Tier) : Call.task? active (.free block.addr) =
      some (.free block.addr) := rfl
  obtain ⟨pointers, served⟩ := alike_allocating alike asked
  simp only [move]
  rw [pointers]
  split
  · exact ⟨rfl, served⟩
  · have copied := served.withMemory fun memory =>
      memory.copy block.addr (allocating second (.allocateOn block.tier size)).1
        (min block.size size)
    exact ⟨rfl, (copied.call askedFree).2⟩

theorem alike_resize
    (alike : first.Alike second)
    (block : Block)
    (size : Nat) :
    (resize first block size).1 = (resize second block size).1 ∧
      (resize first block size).2.Alike (resize second block size).2 := by
  have asked (active : Tier) : Call.task? active (.resize block.addr size) =
      some (.resize block.addr size) := rfl
  obtain ⟨replies, after⟩ := alike.call asked
  simp only [resize]
  rw [replies]
  cases (second.call (.resize block.addr size)).1 with
  | resized inPlace =>
      cases inPlace with
      | true =>
          exact ⟨rfl, after⟩
      | false =>
          exact alike_move after block size
  | refused err =>
      exact ⟨rfl, after.setErrno (errnoOf err)⟩
  | _ =>
      exact alike_move after block size

/-- Neither the placement nor the register has a say in the `realloc` of an address. -/
theorem alike_realloc
    (alike : first.Alike second)
    (place other : Placement)
    {ptr : Nat}
    (nonnull : ptr ≠ 0)
    (size : Nat) :
    (realloc first place ptr size).1 = (realloc second other ptr size).1 ∧
      (realloc first place ptr size).2.Alike (realloc second other ptr size).2 := by
  have found := alike.engine
  have blocks : first.engine.1.block? ptr = second.engine.1.block? ptr :=
    congrArg (BlockTable.get? · ptr) alike.session.table
  simp only [realloc]
  rw [if_neg nonnull, if_neg nonnull, blocks]
  split
  · exact ⟨rfl, alike_release found ptr⟩
  · split
    · exact ⟨rfl, found.setErrno invalidArgument⟩
    · exact alike_resize found _ size

def Entry.place? : Entry → Option Placement
  | .malloc place _ => some place
  | .calloc place _ _ => some place
  | .realloc place _ _ => some place
  | .alignedAlloc place _ _ => some place
  | .posixMemalign place _ _ _ => some place
  | _ => none

theorem alike_calloc
    (alike : first.Alike second)
    (tier : Tier)
    (count size : Nat) :
    (calloc first (.pinned tier) count size).1 = (calloc second (.pinned tier) count size).1 ∧
      (calloc first (.pinned tier) count size).2.Alike
        (calloc second (.pinned tier) count size).2 := by
  rw [calloc, calloc]
  cases Word.mulChecked? count size with
  | none =>
      exact ⟨rfl, alike.setErrno noMemory⟩
  | some total =>
      have asked (active : Tier) : ((Placement.pinned tier).allocate total).task? active =
          some (.allocate tier total granule) := rfl
      obtain ⟨pointers, served⟩ := alike_allocating alike asked
      dsimp only
      rw [pointers]
      split
      · exact ⟨rfl, served⟩
      · exact ⟨rfl, served.withMemory fun memory => memory.fill _ total 0⟩

theorem alike_posixMemalign
    (alike : first.Alike second)
    (tier : Tier)
    (stores : Bool)
    (align size : Nat) :
    (invoke first (.posixMemalign (.pinned tier) stores align size)).1 =
        (invoke second (.posixMemalign (.pinned tier) stores align size)).1 ∧
      (invoke first (.posixMemalign (.pinned tier) stores align size)).2.Alike
        (invoke second (.posixMemalign (.pinned tier) stores align size)).2 := by
  have asked (active : Tier) : ((Placement.pinned tier).allocateAligned size align).task? active =
      some (.allocate tier size align) := rfl
  obtain ⟨replies, served⟩ := alike.call asked
  simp only [invoke, posixMemalign]
  split
  · rw [replies]
    cases (second.call ((Placement.pinned tier).allocateAligned size align)).1 <;>
      exact ⟨rfl, served⟩
  · exact ⟨rfl, alike⟩

/-- An entry point that pins its tier cannot tell processes apart that differ in the
register. -/
theorem alike_invoke_pinned
    (alike : first.Alike second)
    {entry : Entry}
    {tier : Tier}
    (pinned : entry.place? = some (.pinned tier)) :
    (invoke first entry).1 = (invoke second entry).1 ∧
      (invoke first entry).2.Alike (invoke second entry).2 := by
  have wrap {one two : Nat × ProcessHeap β} (same : one.1 = two.1 ∧ one.2.Alike two.2) :
      Answer.pointer one.1 = .pointer two.1 ∧ one.2.Alike two.2 :=
    ⟨congrArg _ same.1, same.2⟩
  have asked (size : Nat) (active : Tier) : ((Placement.pinned tier).allocate size).task? active =
      some (.allocate tier size granule) := rfl
  cases entry with
  | malloc place size =>
      cases pinned
      exact wrap (alike_allocating alike (asked size))
  | alignedAlloc place align size =>
      cases pinned
      have askedAligned (active : Tier) :
          ((Placement.pinned tier).allocateAligned size align).task? active =
            some (.allocate tier size align) := rfl
      exact wrap (alike_allocating alike askedAligned)
  | calloc place count size =>
      cases pinned
      exact wrap (alike_calloc alike tier count size)
  | realloc place ptr size =>
      cases pinned
      by_cases null : ptr = 0
      · subst null
        exact wrap (alike_allocating alike.engine (asked size))
      · exact wrap (alike_realloc alike _ _ null size)
  | posixMemalign place stores align size =>
      cases pinned
      exact alike_posixMemalign alike tier stores align size
  | _ =>
      cases pinned

end Abi

end TierHeap
