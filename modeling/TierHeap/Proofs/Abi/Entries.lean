import TierHeap.Proofs.Process.Allocation

/-!
# What entry points do

An entry point makes at most three calls to the process engine, and writes memory itself in two
places: `calloc` fills its new block, and `realloc` copies into the new block of a move.  A new
block is apart from all blocks that were live before, so no entry point changes a byte of one
(`Abi.preserved_invoke`).
-/

namespace TierHeap

namespace ProcessHeap

variable {β : Type} [Backend β]

inductive AllocationEnds
    (before : ProcessHeap (Recorder β))
    (tier : Tier)
    (size align : Nat) : Nat → ProcessHeap (Recorder β) → Prop where
  | invalid
      {err : RequestError}
      {after : ProcessHeap (Recorder β)}
      (invalid : Engine.reserveAligned size align = .error err)
      (table : after.session.engine.table = before.session.engine.table) :
      AllocationEnds before tier size align 0 after
  | exhausted
      {reserved : Nat}
      {cause : GrowError}
      {after : ProcessHeap (Recorder β)}
      (valid : Engine.reserveAligned size align = .ok reserved)
      (refused :
        ((before.session.engine.tiers.get tier).allocate Engine.depth reserved align).1 =
          .error cause)
      (table : after.session.engine.table = before.session.engine.table)
      (errno : after.errno = Abi.noMemory) :
      AllocationEnds before tier size align 0 after
  | placed
      {reserved : Nat}
      {carve : Carve}
      {after : ProcessHeap (Recorder β)}
      (valid : Engine.reserveAligned size align = .ok reserved)
      (served :
        ((before.session.engine.tiers.get tier).allocate Engine.depth reserved align).1 =
          .ok carve)
      (table :
        after.session.engine.table =
          (before.session.engine.table.insert ⟨carve.addr, size, carve.reserved, tier⟩).2)
      (absent : before.session.engine.table.get? carve.addr = none)
      (positive : 0 < carve.addr)
      (rounded : Engine.reserve size = .ok carve.reserved) :
      AllocationEnds before tier size align carve.addr after

theorem allocating_eq
    (process : ProcessHeap β)
    (call : Call) :
    Abi.allocating process call =
      (Abi.pointerOf (process.session.call process.thread call).1,
       Abi.settleErrno (process.call call).2 (process.session.call process.thread call).1) := by
  rw [← reply_call]
  rfl

variable {process : ProcessHeap (Recorder β)} {flight : List Block}

theorem Kept.allocating_ends
    (kept : process.Kept flight)
    {call : Call}
    {tier : Tier}
    {size align : Nat}
    (asked : call.task? (process.session.active process.thread) =
      some (.allocate tier size align))
    (abiding : Dealing.Abiding (Abi.allocating process call).2.dealings) :
    process.AllocationEnds tier size align (Abi.allocating process call).1
      (Abi.allocating process call).2 := by
  have afterCall : Dealing.Abiding (process.call call).2.dealings := by
    rw [dealings, allocating_eq, session_settleErrno] at abiding
    exact abiding
  have ends := kept.service_ends asked afterCall
  rw [Abi.allocating]
  generalize process.call call = result at *
  obtain ⟨reply, called⟩ := result
  dsimp only at *
  cases ends with
  | invalid invalid table =>
      exact .invalid invalid (by rw [session_settleErrno, table])
  | exhausted valid refused table =>
      exact .exhausted valid refused (by rw [session_settleErrno, table]) rfl
  | placed valid served table absent positive rounded =>
      exact .placed valid served table absent positive rounded

theorem Kept.preserved_allocating
    (kept : process.Kept flight)
    (call : Call)
    (abiding : Dealing.Abiding (Abi.allocating process call).2.dealings) :
    Preserved flight process (Abi.allocating process call).2 := by
  rw [allocating_eq] at abiding ⊢
  rw [dealings, session_settleErrno] at abiding
  obtain ⟨keptOn, bytes⟩ := kept.preserved_call _ abiding
  refine ⟨keptOn.transport (session_settleErrno _ _), ?_⟩
  intro addr live
  rw [memory_settleErrno]
  exact bytes addr live

end ProcessHeap

namespace Abi

open ProcessHeap

def Placement.tier (active : Tier) : Placement → Tier
  | .byMode => active
  | .pinned tier => tier

theorem Placement.task?_allocate
    (place : Placement)
    (active : Tier)
    (size : Nat) :
    (place.allocate size).task? active = some (.allocate (place.tier active) size granule) := by
  cases place <;> rfl

variable {β : Type} [Backend β] {process after : ProcessHeap (Recorder β)} {flight : List Block}

inductive CallocEnds
    (process : ProcessHeap (Recorder β))
    (place : Placement)
    (count size : Nat) : Nat × ProcessHeap (Recorder β) → Prop where
  | tooLarge :
      CallocEnds process place count size (0, setErrno process noMemory)
  | refused
      {served : ProcessHeap (Recorder β)}
      (allocated : allocating process (place.allocate (count * size)) = (0, served)) :
      CallocEnds process place count size (0, served)
  | filled
      {ptr : Nat}
      {served : ProcessHeap (Recorder β)}
      (allocated : allocating process (place.allocate (count * size)) = (ptr, served))
      (nonnull : ptr ≠ 0) :
      CallocEnds process place count size
        (ptr, { served with memory := served.memory.fill ptr (count * size) 0 })

theorem calloc_ends
    (process : ProcessHeap (Recorder β))
    (place : Placement)
    (count size : Nat) :
    CallocEnds process place count size (calloc process place count size) := by
  rw [calloc]
  cases product : Word.mulChecked? count size with
  | none =>
      exact .tooLarge
  | some total =>
      obtain ⟨-, rfl⟩ := Word.mulChecked?_eq_some_iff.mp product
      cases allocated : allocating process (place.allocate (count * size)) with
      | mk ptr served =>
          simp only [allocated]
          split
          · rename_i null
            subst null
            exact .refused allocated
          · rename_i nonnull
            exact .filled allocated nonnull

theorem preserved_calloc
    (kept : process.Kept flight)
    {place : Placement}
    {count size : Nat}
    (abiding : Dealing.Abiding (calloc process place count size).2.dealings) :
    Preserved flight process (calloc process place count size).2 := by
  have preserved := kept.preserved_allocating (place.allocate (count * size))
  have ends := kept.allocating_ends (place.task?_allocate _ (count * size))
  have result := calloc_ends process place count size
  generalize calloc process place count size = made at *
  cases result with
  | tooLarge =>
      exact kept.preserved_transport (session_setErrno process noMemory) rfl
  | refused allocated =>
      rw [allocated] at preserved
      exact preserved abiding
  | filled allocated nonnull =>
      rw [dealings, session_withMemory] at abiding
      rw [allocated] at preserved ends
      cases ends abiding with
      | invalid | exhausted =>
          exact absurd rfl nonnull
      | placed valid served table absent positive rounded =>
          have fits := (Engine.reserve_bounds rounded).2.2
          exact (preserved abiding).within_insert absent table fun addr outside =>
            Memory.byteAt_fill_outside _ (Span.not_in_part_of_not_has fits outside) 0

/-- What `calloc` returns is a live block of zeros. -/
theorem zeroed_calloc
    (kept : process.Kept flight)
    {place : Placement}
    {count size : Nat}
    (abiding : Dealing.Abiding (calloc process place count size).2.dealings)
    (nonnull : (calloc process place count size).1 ≠ 0) :
    ∃ reserved,
      (calloc process place count size).2.block? (calloc process place count size).1 =
          some ⟨(calloc process place count size).1, count * size, reserved,
            place.tier (process.session.active process.thread)⟩ ∧
        count * size ≤ reserved ∧
        (calloc process place count size).2.memory.read (calloc process place count size).1
            (count * size) =
          List.replicate (count * size) 0 := by
  have ends := kept.allocating_ends (place.task?_allocate _ (count * size))
  have result := calloc_ends process place count size
  generalize calloc process place count size = made at *
  cases result with
  | tooLarge | refused =>
      exact absurd rfl nonnull
  | filled allocated nonnull =>
      rw [dealings, session_withMemory] at abiding
      rw [allocated] at ends
      cases ends abiding with
      | invalid | exhausted =>
          exact absurd rfl nonnull
      | placed valid served table absent positive rounded =>
          refine ⟨_, ?_, (Engine.reserve_bounds rounded).2.2, ?_⟩
          · rw [block?, session_withMemory, Engine.block?, table, BlockTable.get?_insert,
              if_pos rfl]
          · apply Memory.read_eq_replicate
            intro offset inside
            have within := Nat.add_lt_add_left inside
            exact Memory.byteAt_fill_inside _ ⟨Nat.le_add_right _ _, within _⟩ 0

theorem preserved_release
    (kept : process.Kept flight)
    (ptr : Nat) :
    Preserved flight process (release process ptr).2 := by
  rw [release]
  by_cases null : ptr = 0
  · rw [if_pos null]
    exact kept.preserved_transport rfl rfl
  · rw [if_neg null]
    have preserved := kept.preserved_free ptr
    dsimp only
    split
    · exact ⟨preserved.kept.transport (session_setErrno _ _), preserved.bytes⟩
    · exact preserved

inductive MoveEnds
    (process : ProcessHeap (Recorder β))
    (block : Block)
    (size : Nat) : Nat × ProcessHeap (Recorder β) → Prop where
  | refused
      {served : ProcessHeap (Recorder β)}
      (allocated : allocating process (.allocateOn block.tier size) = (0, served)) :
      MoveEnds process block size (0, served)
  | copied
      {ptr : Nat}
      {served : ProcessHeap (Recorder β)}
      (allocated : allocating process (.allocateOn block.tier size) = (ptr, served))
      (nonnull : ptr ≠ 0) :
      MoveEnds process block size
        (ptr,
         (ProcessHeap.call
          { served with memory := served.memory.copy block.addr ptr (min block.size size) }
          (.free block.addr)).2)

theorem move_ends
    (process : ProcessHeap (Recorder β))
    (block : Block)
    (size : Nat) :
    MoveEnds process block size (move process block size) := by
  rw [move]
  cases allocated : allocating process (.allocateOn block.tier size) with
  | mk ptr served =>
      dsimp only
      split
      · rename_i null
        subst null
        exact .refused allocated
      · rename_i nonnull
        exact .copied allocated nonnull

theorem preserved_move
    (kept : process.Kept flight)
    {block : Block}
    {size : Nat}
    (abiding : Dealing.Abiding (move process block size).2.dealings) :
    Preserved flight process (move process block size).2 := by
  have asked : Call.task? (process.session.active process.thread)
      (.allocateOn block.tier size) = some (.allocate block.tier size granule) := rfl
  have preserved := kept.preserved_allocating (.allocateOn block.tier size)
  have ends := kept.allocating_ends asked
  have result := move_ends process block size
  generalize move process block size = made at *
  cases result with
  | refused allocated =>
      rw [allocated] at preserved
      exact preserved abiding
  | @copied ptr served allocated nonnull =>
      rw [dealings, session_call, Session.dealings_free, session_withMemory] at abiding
      rw [allocated] at preserved ends
      cases ends abiding with
      | invalid | exhausted =>
          exact absurd rfl nonnull
      | @placed _ carve _ valid served table absent positive rounded =>
          have small := Nat.le_trans (Nat.min_le_right block.size size)
            (Engine.reserve_bounds rounded).2.2
          exact (preserved abiding).moved absent table small block.addr block.addr

/-- How the attempt to resize a block in place ends, and what follows: the first process is the
one before it, the second one that after it. -/
inductive AttemptEnds
    (process called : ProcessHeap (Recorder β))
    (block : Block)
    (size : Nat) : Nat × ProcessHeap (Recorder β) → Prop where
  | invalid
      {err : RequestError}
      (invalid : Engine.reserve size = .error err)
      (table : called.session.engine.table = process.session.engine.table) :
      AttemptEnds process called block size (0, setErrno called (errnoOf err))
  | unknown
      {err : RequestError}
      (absent : process.session.engine.table.get? block.addr = none) :
      AttemptEnds process called block size (0, setErrno called (errnoOf err))
  | inPlace
      {reserved : Nat}
      {held : Block}
      {allocator : Allocator (Recorder β)}
      (valid : Engine.reserve size = .ok reserved)
      (found : process.session.engine.table.get? block.addr = some held)
      (tried :
        (process.session.engine.tiers.get held.tier).resize? held.addr held.reserved reserved =
          some allocator)
      (table :
        called.session.engine.table =
          process.session.engine.table.modify held.addr fun old =>
            { old with size := size, reserved := reserved }) :
      AttemptEnds process called block size (block.addr, called)
  | blocked
      {reserved : Nat}
      {held : Block}
      (valid : Engine.reserve size = .ok reserved)
      (found : process.session.engine.table.get? block.addr = some held)
      (tried :
        (process.session.engine.tiers.get held.tier).resize? held.addr held.reserved reserved =
          none)
      (tiers : called.session.engine.tiers = process.session.engine.tiers)
      (table : called.session.engine.table = process.session.engine.table) :
      AttemptEnds process called block size (move called block size)

theorem attempt_ends
    (process : ProcessHeap (Recorder β))
    (block : Block)
    (size : Nat) :
    AttemptEnds process (process.call (.resize block.addr size)).2 block size
      (resize process block size) := by
  have asked : Call.task? (process.session.active process.thread) (.resize block.addr size) =
      some (.resize block.addr size) := rfl
  obtain ⟨change, log, session, ends⟩ := call_ends asked
  rw [resize]
  generalize process.call (.resize block.addr size) = result at *
  obtain ⟨reply, called⟩ := result
  dsimp only at *
  cases ends with
  | invalidResize invalid =>
      exact .invalid invalid (congrArg (·.engine.table) session)
  | unknownResize _ absent =>
      exact .unknown absent
  | resized valid found tried =>
      exact .inPlace valid found tried (congrArg (·.engine.table) session)
  | blocked valid found tried =>
      exact .blocked valid found tried (congrArg (·.engine.tiers) session)
        (congrArg (·.engine.table) session)

theorem preserved_resize
    (kept : process.Kept flight)
    {block : Block}
    {size : Nat}
    (abiding : Dealing.Abiding (resize process block size).2.dealings) :
    Preserved flight process (resize process block size).2 := by
  have preserved := kept.preserved_attempt block.addr size
  have attempt := attempt_ends process block size
  generalize resize process block size = made at *
  cases attempt with
  | invalid | unknown =>
      exact ⟨preserved.kept.transport (session_setErrno _ _), preserved.bytes⟩
  | inPlace =>
      exact preserved
  | blocked _ _ _ _ table =>
      exact preserved.trans (fun _ live => live.transport table)
        (preserved_move preserved.kept abiding)

/-- Finding the engine preserves everything. -/
theorem preserved_engine (kept : process.Kept flight) :
    Preserved flight process process.engine.2 :=
  kept.preserved_transport (session_engine process) (memory_engine process)

theorem preserved_realloc
    (kept : process.Kept flight)
    {place : Placement}
    {ptr size : Nat}
    (abiding : Dealing.Abiding (realloc process place ptr size).2.dealings) :
    Preserved flight process (realloc process place ptr size).2 := by
  have found := preserved_engine kept
  refine found.trans (fun addr live => live.transport (by rw [session_engine])) ?_
  have keptOn := found.kept
  rw [realloc] at abiding ⊢
  generalize process.engine = made at *
  obtain ⟨engine, process⟩ := made
  dsimp only at *
  split at abiding
  · rename_i null
    rw [if_pos null]
    exact keptOn.preserved_allocating _ abiding
  · rename_i nonnull
    rw [if_neg nonnull]
    split at abiding
    · rename_i released
      rw [if_pos released]
      exact preserved_release keptOn ptr
    · rename_i resizing
      rw [if_neg resizing]
      split at abiding
      · exact keptOn.preserved_transport (session_setErrno process _) rfl
      · exact preserved_resize keptOn abiding

/-! ## All entry points -/

theorem preserved_posixMemalign
    (kept : process.Kept flight)
    {place : Placement}
    {stores : Bool}
    {align size : Nat}
    (abiding : Dealing.Abiding (posixMemalign process place stores align size).2.2.dealings) :
    Preserved flight process (posixMemalign process place stores align size).2.2 := by
  have called := kept.preserved_call (place.allocateAligned size align)
  rw [posixMemalign] at abiding ⊢
  generalize process.call (place.allocateAligned size align) = made at *
  obtain ⟨reply, served⟩ := made
  split
  · rename_i valid
    rw [if_pos valid] at abiding
    cases reply <;> exact called abiding
  · exact kept.preserved_transport rfl rfl

theorem preserved_usableSize
    (kept : process.Kept flight)
    (ptr : Nat) :
    Preserved flight process (usableSize process ptr).2 := by
  rw [usableSize]
  split
  · exact kept.preserved_transport rfl rfl
  · dsimp only
    split <;> exact preserved_engine kept

/-- Every entry point keeps the books and changes no byte of a block that was live before. -/
theorem preserved_invoke
    (kept : process.Kept flight)
    {entry : Entry}
    (abiding : Dealing.Abiding (invoke process entry).2.dealings) :
    Preserved flight process (invoke process entry).2 := by
  cases entry with
  | enable =>
      exact kept.preserved_call .enable abiding
  | setTier tier =>
      exact kept.preserved_call (.setMode tier) abiding
  | mode =>
      exact preserved_engine kept
  | malloc place size =>
      exact kept.preserved_allocating (place.allocate size) abiding
  | alignedAlloc place align size =>
      exact kept.preserved_allocating (place.allocateAligned size align) abiding
  | free ptr | freeQuietly ptr =>
      exact preserved_release kept ptr
  | calloc =>
      exact preserved_calloc kept abiding
  | realloc =>
      exact preserved_realloc kept abiding
  | posixMemalign =>
      exact preserved_posixMemalign kept abiding
  | usableSize ptr =>
      exact preserved_usableSize kept ptr
  | blockTier ptr =>
      have found := preserved_engine kept
      simp only [invoke, blockTier]
      split <;> exact found
  | trim =>
      have called := kept.preserved_call .trim
      rw [invoke] at abiding ⊢
      generalize process.call .trim = result at *
      exact called abiding

end Abi

end TierHeap