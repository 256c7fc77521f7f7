import TierHeap.Proofs.Process.Alike
import TierHeap.Proofs.Process.Runs

/-!
# Resizing blocks

`realloc` of a live block first tries to resize the block where it is.  If that is blocked, it
takes a new block of the same tier, copies what both hold, and releases the old one.  The caller
sees the same either way: the block it gets is of the tier it had, holds the bytes it held, and
all other blocks are as they were (`ProcessHeap.Reallocated`).  If the size is too large or the
tier has no room for a new block, nothing has happened to any block (`ProcessHeap.Retained`).
-/

namespace TierHeap

namespace ProcessHeap

variable {β : Type} [Backend β]

inductive ResizeEnds
    (before : ProcessHeap (Recorder β))
    (block : Block)
    (size : Nat) : Nat → ProcessHeap (Recorder β) → Prop where
  | oversized
      {after : ProcessHeap (Recorder β)}
      (large : largestRequest < size)
      (table : after.session.engine.table = before.session.engine.table)
      (errno : after.errno = Abi.invalidArgument) :
      ResizeEnds before block size 0 after
  | inPlace
      {reserved : Nat}
      {after : ProcessHeap (Recorder β)}
      (valid : Engine.reserve size = .ok reserved)
      (roomy :
        ((before.session.engine.tiers.get block.tier).resize? block.addr block.reserved
          reserved).isSome = true)
      (table :
        after.session.engine.table =
          before.session.engine.table.modify block.addr fun held =>
            { held with size := size, reserved := reserved }) :
      ResizeEnds before block size block.addr after
  | exhausted
      {reserved : Nat}
      {cause : GrowError}
      {after : ProcessHeap (Recorder β)}
      (valid : Engine.reserve size = .ok reserved)
      (blocked :
        (before.session.engine.tiers.get block.tier).resize? block.addr block.reserved reserved =
          none)
      (refused :
        ((before.session.engine.tiers.get block.tier).allocate Engine.depth reserved granule).1 =
          .error cause)
      (table : after.session.engine.table = before.session.engine.table)
      (errno : after.errno = Abi.noMemory) :
      ResizeEnds before block size 0 after
  | moved
      {reserved : Nat}
      {carve : Carve}
      {after : ProcessHeap (Recorder β)}
      (valid : Engine.reserve size = .ok reserved)
      (served :
        ((before.session.engine.tiers.get block.tier).allocate Engine.depth reserved granule).1 =
          .ok carve)
      (rounded : Engine.reserve size = .ok carve.reserved)
      (positive : 0 < carve.addr)
      (absent : before.session.engine.table.get? carve.addr = none)
      (table :
        after.session.engine.table =
          ((before.session.engine.table.insert
            ⟨carve.addr, size, carve.reserved, block.tier⟩).2.remove block.addr).2)
      (contents : ∀ offset, offset < min block.size size →
        after.memory.byteAt (carve.addr + offset) =
          before.memory.byteAt (block.addr + offset)) :
      ResizeEnds before block size carve.addr after

variable {process after : ProcessHeap (Recorder β)} {flight : List Block} {block : Block}
  {size : Nat}

theorem Kept.resizeEnds_move
    (kept : process.Kept flight)
    (found : process.session.engine.table.get? block.addr = some block)
    {reserved : Nat}
    (valid : Engine.reserve size = .ok reserved)
    (blocked :
      (process.session.engine.tiers.get block.tier).resize? block.addr block.reserved reserved =
        none)
    (abiding : Dealing.Abiding (Abi.move process block size).2.dealings) :
    process.ResizeEnds block size (Abi.move process block size).1
      (Abi.move process block size).2 := by
  have asked : Call.task? (process.session.active process.thread)
      (.allocateOn block.tier size) = some (.allocate block.tier size granule) := rfl
  have ends := kept.allocating_ends asked
  have preserved := kept.preserved_allocating (.allocateOn block.tier size)
  have result := Abi.move_ends process block size
  generalize Abi.move process block size = made at *
  cases result with
  | refused allocated =>
      rw [allocated] at ends
      -- The pointer is named, so that a placed block can turn out not to be null.
      generalize isNull : 0 = ptr at ends
      cases ends abiding with
      | invalid invalid =>
          rw [Engine.reserveAligned_granule, valid] at invalid
          cases invalid
      | exhausted exactly refused table errno =>
          rw [Engine.reserveAligned_granule, valid] at exactly
          cases exactly
          exact .exhausted valid blocked refused table errno
      | placed _ _ _ _ positive =>
          exact absurd isNull (Nat.ne_of_lt positive)
  | @copied ptr served allocated nonnull =>
      rw [dealings, session_call, Session.dealings_free, session_withMemory] at abiding
      rw [allocated] at preserved ends
      cases ends abiding with
      | invalid | exhausted =>
          exact absurd rfl nonnull
      | @placed _ carve _ exactly supplied table absent positive rounded =>
          have entered : served.session.engine.table.get? carve.addr =
              some ⟨carve.addr, size, carve.reserved, block.tier⟩ := by
            rw [table, BlockTable.get?_insert, if_pos rfl]
          rw [Engine.reserveAligned_granule] at exactly
          refine .moved exactly supplied rounded positive absent ?_ ?_
          · rw [session_call, Session.table_free, session_withMemory, table]
          · intro offset inside
            have inOld := Nat.le_trans (Nat.min_le_left block.size size)
              (kept.size_le_reserved found)
            have inNew := Nat.le_trans (Nat.min_le_right block.size size)
              (Engine.reserve_bounds rounded).2.2
            exact (preserved abiding).byteAt_moved kept found
              ⟨carve.addr, size, carve.reserved, block.tier⟩ entered inOld inNew inside

theorem ResizeEnds.transport
    {called : ProcessHeap (Recorder β)}
    {ptr : Nat}
    (ends : called.ResizeEnds block size ptr after)
    (tiers : called.session.engine.tiers = process.session.engine.tiers)
    (table : called.session.engine.table = process.session.engine.table)
    (bytes : ∀ offset, offset < block.size →
      called.memory.byteAt (block.addr + offset) = process.memory.byteAt (block.addr + offset)) :
    process.ResizeEnds block size ptr after := by
  cases ends with
  | oversized large same errno =>
      exact .oversized large (same.trans table) errno
  | inPlace valid roomy same =>
      rw [tiers] at roomy
      rw [table] at same
      exact .inPlace valid roomy same
  | exhausted valid blocked refused same errno =>
      rw [tiers] at blocked refused
      exact .exhausted valid blocked refused (same.trans table) errno
  | moved valid served rounded positive absent same contents =>
      rw [tiers] at served
      rw [table] at absent same
      refine .moved valid served rounded positive absent same ?_
      intro offset inside
      exact (contents offset inside).trans
        (bytes offset (Nat.lt_of_lt_of_le inside (Nat.min_le_left block.size size)))

theorem Kept.resizeEnds_resize
    (kept : process.Kept flight)
    (found : process.session.engine.table.get? block.addr = some block)
    (positive : 0 < size)
    (abiding : Dealing.Abiding (Abi.resize process block size).2.dealings) :
    process.ResizeEnds block size (Abi.resize process block size).1
      (Abi.resize process block size).2 := by
  have preserved := kept.preserved_attempt block.addr size
  have attempt := Abi.attempt_ends process block size
  generalize Abi.resize process block size = made at *
  cases attempt with
  | invalid invalid table =>
      obtain ⟨rfl, unfit⟩ := Engine.reserve_eq_error invalid
      refine .oversized (unfit.resolve_left (Nat.ne_of_gt positive)) ?_ rfl
      rw [session_setErrno, table]
  | unknown absent =>
      rw [found] at absent
      cases absent
  | inPlace valid heldFound tried table =>
      rw [found] at heldFound
      cases heldFound
      exact .inPlace valid (by rw [tried]; rfl) table
  | blocked valid heldFound tried tiers table =>
      rw [found] at heldFound
      cases heldFound
      -- The attempt has changed neither tiers nor table, so the move ends as it would without.
      have foundStill := found
      rw [← table] at foundStill
      rw [← tiers] at tried
      have moved := preserved.kept.resizeEnds_move foundStill valid tried abiding
      refine moved.transport tiers table ?_
      intro offset inside
      have inBlock := Nat.lt_of_lt_of_le inside (kept.size_le_reserved found)
      exact preserved.bytes _ (kept.live_of_found found inBlock)

theorem realloc_of_found
    {addr : Nat}
    (found : process.block? addr = some block)
    (nonnull : addr ≠ 0)
    (positive : 0 < size)
    (place : Abi.Placement) :
    Abi.realloc process place addr size = Abi.resize process.engine.2 block size := by
  have present : process.engine.1.block? addr = some block := found
  rw [Abi.realloc]
  simp only [if_neg nonnull, if_neg (Nat.ne_of_gt positive), present]

theorem Kept.resizeEnds_realloc
    (kept : process.Kept flight)
    {addr : Nat}
    (found : process.block? addr = some block)
    (positive : 0 < size)
    {place : Abi.Placement}
    (abiding : Dealing.Abiding (Abi.realloc process place addr size).2.dealings) :
    process.ResizeEnds block size (Abi.realloc process place addr size).1
      (Abi.realloc process place addr size).2 := by
  have nonnull : addr ≠ 0 := Nat.ne_of_gt (kept.addr_pos found)
  have sameAddr := kept.accounted.filed.get?_addr found
  rw [realloc_of_found found nonnull positive] at abiding ⊢
  rw [block?, ← sameAddr, ← session_engine process] at found
  have keptOn := kept.transport (session_engine process)
  refine (keptOn.resizeEnds_resize found positive abiding).transport ?_ ?_ ?_
  · rw [session_engine]
  · rw [session_engine]
  · intro offset _
    rw [memory_engine]

/-! ## What callers see -/

/-- The size is not too large, and the tier of the block has room for it, where the block is or
somewhere else. -/
def Supplies
    (process : ProcessHeap (Recorder β))
    (block : Block)
    (size : Nat) : Prop :=
  ∃ reserved, Engine.reserve size = .ok reserved ∧
    (((process.session.engine.tiers.get block.tier).resize? block.addr block.reserved
        reserved).isSome = true ∨
      ∃ carve,
        ((process.session.engine.tiers.get block.tier).allocate Engine.depth reserved granule).1 =
          .ok carve)

/-- A block has been resized, in place or by a move. -/
structure Reallocated
    (before : ProcessHeap (Recorder β))
    (block : Block)
    (size ptr : Nat)
    (after : ProcessHeap (Recorder β)) : Prop where
  small : size ≤ largestRequest
  found : ∃ reserved, after.block? ptr = some ⟨ptr, size, reserved, block.tier⟩
  usable : size ≤ (Abi.usableSize after ptr).1
  contents :
    after.memory.read ptr (min block.size size) =
      before.memory.read block.addr (min block.size size)
  moved : ptr = block.addr ∨ before.block? ptr = none ∧ after.block? block.addr = none
  others : ∀ addr, addr ≠ block.addr → addr ≠ ptr → after.block? addr = before.block? addr
  liveBlocks : after.session.engine.liveBlocks = before.session.engine.liveBlocks

/-- A block could not be resized, and all blocks are as they were. -/
structure Retained
    (before : ProcessHeap (Recorder β))
    (block : Block)
    (size : Nat)
    (after : ProcessHeap (Recorder β)) : Prop where
  blocks : ∀ addr, after.block? addr = before.block? addr
  contents :
    after.memory.read block.addr block.reserved = before.memory.read block.addr block.reserved
  reason :
    largestRequest < size ∧ after.errno = Abi.invalidArgument ∨
      size ≤ largestRequest ∧ after.errno = Abi.noMemory

theorem usableSize_of_found
    {ptr : Nat}
    (found : process.block? ptr = some block)
    (nonnull : ptr ≠ 0) :
    (Abi.usableSize process ptr).1 = block.reserved := by
  have present : process.engine.1.block? ptr = some block := found
  simp only [Abi.usableSize, if_neg nonnull, Engine.usableSize, present]

theorem ResizeEnds.nonnull_iff
    {ptr : Nat}
    (ends : process.ResizeEnds block size ptr after)
    (blockPositive : 0 < block.addr) :
    ptr ≠ 0 ↔ process.Supplies block size := by
  cases ends with
  | oversized large =>
      refine ⟨fun success => absurd rfl success, ?_⟩
      rintro ⟨reserved, valid, -⟩
      exact absurd (Engine.reserve_eq_ok valid).2.1 (Nat.not_le_of_lt large)
  | exhausted valid blocked refused =>
      refine ⟨fun success => absurd rfl success, ?_⟩
      rintro ⟨reserved, same, supplied⟩
      rw [valid] at same
      cases same
      rw [blocked, refused] at supplied
      simp at supplied
  | inPlace valid roomy =>
      exact ⟨fun _ => ⟨_, valid, .inl roomy⟩, fun _ => Nat.ne_of_gt blockPositive⟩
  | moved valid served _ positive =>
      exact ⟨fun _ => ⟨_, valid, .inr ⟨_, served⟩⟩, fun _ => Nat.ne_of_gt positive⟩

theorem ResizeEnds.reallocated
    {ptr : Nat}
    (ends : process.ResizeEnds block size ptr after)
    (kept : process.Kept flight)
    (found : process.session.engine.table.get? block.addr = some block)
    (preserved : Preserved flight process after)
    (success : ptr ≠ 0) :
    process.Reallocated block size ptr after := by
  cases ends with
  | oversized | exhausted =>
      exact absurd rfl success
  | @inPlace reserved _ valid _ table =>
      have look (addr : Nat) : after.block? addr =
          if addr = block.addr then
            (process.block? addr).map fun held => { held with size := size, reserved := reserved }
          else process.block? addr := by
        rw [block?, Engine.block?, table, BlockTable.get?_modify]
        rfl
      have now : after.block? block.addr =
          some { block with size := size, reserved := reserved } := by
        rw [look, if_pos rfl, block?, Engine.block?, found]
        rfl
      refine ⟨(Engine.reserve_eq_ok valid).2.1, ⟨reserved, now⟩, ?_, ?_, .inl rfl, ?_, ?_⟩
      · rw [usableSize_of_found now success]
        exact (Engine.reserve_bounds valid).2.2
      · apply Memory.read_congr
        intro offset inside
        have small := Nat.le_trans (Nat.min_le_left block.size size) (kept.size_le_reserved found)
        exact preserved.bytes _ (kept.live_of_found found (Nat.lt_of_lt_of_le inside small))
      · intro addr other _
        rw [look, if_neg other]
      · rw [Engine.liveBlocks, table, BlockTable.size_modify found]
        rfl
  | @moved _ carve _ valid _ rounded positive absent table contents =>
      have apart : block.addr ≠ carve.addr := by
        intro same
        rw [same, absent] at found
        cases found
      have look (addr : Nat) : after.block? addr =
          if addr = block.addr then none
          else if addr = carve.addr then some ⟨carve.addr, size, carve.reserved, block.tier⟩
          else process.block? addr := by
        rw [block?, Engine.block?, table, BlockTable.get?_remove, BlockTable.get?_insert]
        rfl
      have now : after.block? carve.addr =
          some ⟨carve.addr, size, carve.reserved, block.tier⟩ := by
        rw [look, if_neg apart.symm, if_pos rfl]
      refine ⟨(Engine.reserve_eq_ok valid).2.1, ⟨carve.reserved, now⟩, ?_,
        Memory.read_congr contents, .inr ⟨absent, ?_⟩, ?_, ?_⟩
      · rw [usableSize_of_found now success]
        exact (Engine.reserve_bounds rounded).2.2
      · rw [look, if_pos rfl]
      · intro addr other otherNew
        rw [look, if_neg other, if_neg otherNew]
      · have foundStill : (process.session.engine.table.insert
            ⟨carve.addr, size, carve.reserved, block.tier⟩).2.get? block.addr = some block := by
          rw [BlockTable.get?_insert, if_neg apart, found]
        have left := BlockTable.size_remove foundStill
        rw [← table, BlockTable.size_insert absent] at left
        exact Nat.succ.inj left

theorem ResizeEnds.retained
    {ptr : Nat}
    (ends : process.ResizeEnds block size ptr after)
    (kept : process.Kept flight)
    (found : process.session.engine.table.get? block.addr = some block)
    (preserved : Preserved flight process after)
    (failure : ptr = 0) :
    process.Retained block size after := by
  have contents : after.memory.read block.addr block.reserved =
      process.memory.read block.addr block.reserved :=
    Memory.read_congr fun offset inside =>
      preserved.bytes _ (kept.live_of_found found inside)
  cases ends with
  | oversized large table errno =>
      refine ⟨fun addr => ?_, contents, .inl ⟨large, errno⟩⟩
      rw [block?, Engine.block?, table]
      rfl
  | exhausted valid blocked refused table errno =>
      refine ⟨fun addr => ?_, contents, .inr ⟨(Engine.reserve_eq_ok valid).2.1, errno⟩⟩
      rw [block?, Engine.block?, table]
      rfl
  | inPlace =>
      exact absurd failure (Nat.ne_of_gt (kept.addr_pos found))
  | moved _ _ _ positive =>
      exact absurd failure (Nat.ne_of_gt positive)

/-- What `realloc` does in this state when it is asked for a positive size. -/
structure Reallocates
    (process : ProcessHeap (Recorder β))
    (size : Nat) : Prop where
  /-- The placement has no say in the resizing of a block. -/
  unplaced : ∀ ptr, ptr ≠ 0 → ∀ place other,
    Abi.realloc process place ptr size = Abi.realloc process other ptr size
  /-- Nor has the register. -/
  unselected : ∀ other, process.Alike other → ∀ ptr, ptr ≠ 0 → ∀ place otherPlace,
    (Abi.realloc process place ptr size).1 = (Abi.realloc other otherPlace ptr size).1 ∧
      (Abi.realloc process place ptr size).2.Alike (Abi.realloc other otherPlace ptr size).2
  /-- A block is refused its size only if that is too large or the tier has no room. -/
  returned : ∀ place addr block, process.block? addr = some block →
    Dealing.Abiding (Abi.realloc process place addr size).2.dealings →
      ((Abi.realloc process place addr size).1 ≠ 0 ↔ process.Supplies block size)
  served : ∀ place addr block, process.block? addr = some block →
    Dealing.Abiding (Abi.realloc process place addr size).2.dealings →
      (Abi.realloc process place addr size).1 ≠ 0 →
        process.Reallocated block size (Abi.realloc process place addr size).1
          (Abi.realloc process place addr size).2
  refused : ∀ place addr block, process.block? addr = some block →
    Dealing.Abiding (Abi.realloc process place addr size).2.dealings →
      (Abi.realloc process place addr size).1 = 0 →
        process.Retained block size (Abi.realloc process place addr size).2
  /-- An address where no block starts is refused, and nothing but the error number changes. -/
  unknown : ∀ engine, process.slot = some engine → ∀ place addr, addr ≠ 0 →
    process.block? addr = none →
      Abi.realloc process place addr size =
        (0, Abi.setErrno process Abi.invalidArgument)

/-- In every state that a process can be in, over backends that owe their dealings, `realloc`
does what its callers rely on. -/
theorem reallocates
    (reached : process.Reached)
    (positive : 0 < size) :
    process.Reallocates size := by
  obtain ⟨flight, kept⟩ := reached.kept
  have atStart {addr : Nat} {block : Block} (found : process.block? addr = some block) :
      process.session.engine.table.get? block.addr = some block := by
    have sameAddr := kept.accounted.filed.get?_addr found
    rw [sameAddr]
    exact found
  constructor
  case unplaced =>
    intro ptr nonnull place other
    simp only [Abi.realloc, if_neg nonnull]
  case unselected =>
    intro other alike ptr nonnull place otherPlace
    exact Abi.alike_realloc alike place otherPlace nonnull size
  case returned =>
    intro place addr block found abiding
    have ends := kept.resizeEnds_realloc found positive abiding
    exact ends.nonnull_iff (kept.addr_pos (atStart found))
  case served =>
    intro place addr block found abiding success
    have ends := kept.resizeEnds_realloc found positive abiding
    exact ends.reallocated kept (atStart found) (Abi.preserved_realloc kept abiding) success
  case refused =>
    intro place addr block found abiding failure
    have ends := kept.resizeEnds_realloc found positive abiding
    exact ends.retained kept (atStart found) (Abi.preserved_realloc kept abiding) failure
  case unknown =>
    intro engine installed place addr nonnull absent
    rw [block?, session_of_slot installed] at absent
    rw [Abi.realloc, engine_of_slot installed]
    simp only [if_neg nonnull, if_neg (Nat.ne_of_gt positive), absent]

/-- A block that holds data, with another one right behind it. -/
def adjacent : List Deed :=
  [.call (.malloc .byMode 100), .call (.malloc .byMode 100), .write 65536 [7, 8, 9]]

theorem reallocates_adjacent :
    (waiting.run adjacent).Reached ∧
      (Abi.realloc (waiting.run adjacent) (.pinned .cxl) 65536 200).1 = 65760 ∧
      (Abi.realloc (waiting.run adjacent) (.pinned .cxl) 65536 200).2.memory.read 65760 100 =
        [7, 8, 9] ++ List.replicate 97 0 := by
  have reached : (waiting.run adjacent).Reached := by
    refine Reached.run (.fresh built_waiting) ?_
    simp only [← List.mem_inits]
    decide +kernel
  have behaves := reallocates reached (by decide : 0 < 200)
  have found : (waiting.run adjacent).block? 65536 = some ⟨65536, 100, 112, .host⟩ := by
    decide +kernel
  have moved : (Abi.realloc (waiting.run adjacent) (.pinned .cxl) 65536 200).1 = 65760 := by
    decide +kernel
  have served := behaves.served (.pinned .cxl) 65536 _ found (by decide +kernel) (by
    rw [moved]
    decide)
  have contents := served.contents
  rw [moved] at contents
  exact ⟨reached, moved, contents.trans (by decide +kernel)⟩

/-- A process whose CXL segments start where its second host segment will be. -/
def overlapping : ProcessHeap (Recorder SimulatedBackend) :=
  .initial
    { lookup := fun _ => none
      source := fun _ tier =>
        .start ((⟨.upwards 65536 0 [], .upwards 2162688 0 []⟩ : PerTier _).get tier) }

/-- A block that fills the first host segment, and one of the other tier. -/
def crowded : List Deed :=
  [.call (.malloc (.pinned .host) 2097152), .call (.malloc (.pinned .cxl) 100)]

/-- At null no block starts, but `realloc` of null allocates.  Over backends that lend the same
memory twice, a block that moves takes the place of another one. -/
theorem realloc_null_and_overlap :
    (¬∀ addr, (waiting.run adjacent).block? addr = none →
      Abi.realloc (waiting.run adjacent) .byMode addr 100 =
        (0, Abi.setErrno (waiting.run adjacent) Abi.invalidArgument)) ∧
      (overlapping.run crowded).block? 65536 = some ⟨65536, 2097152, 2097152, .host⟩ ∧
      (Abi.realloc (overlapping.run crowded) .byMode 65536 2097168).1 = 2162688 ∧
      ¬(overlapping.run crowded).Reallocated ⟨65536, 2097152, 2097152, .host⟩ 2097168 2162688
        (Abi.realloc (overlapping.run crowded) .byMode 65536 2097168).2 := by
  refine ⟨fun refused => ?_, by decide +kernel, by decide +kernel, fun kept => ?_⟩
  · have null := congrArg Prod.fst (refused 0 (by decide +kernel))
    revert null
    decide +kernel
  · have count := kept.liveBlocks
    revert count
    decide +kernel

end ProcessHeap

end TierHeap
