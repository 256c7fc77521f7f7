import TierHeap.Proofs.Adapter.Orders
import TierHeap.Proofs.Process.Allocation

/-!
# How the adapter serves

The adapter sends a request for a block to the engine or to the system heap, by the alignment
and by how many engine calls are open.  A release or a resize goes to the engine if the engine
has a block at the address, and to the system heap if not.  A block of the engine is resized in
place, or moved to a new block of its tier, or it stays as it is (`ProgramHeap.ResizeEnds`).
-/

namespace TierHeap

namespace ProcessHeap

variable {β : Type} [Backend β] {before after : ProcessHeap (Recorder β)} {tier : Tier}
  {size align : Nat} {reply : Reply}

structure Placed
    (before after : ProcessHeap (Recorder β))
    (block : Block) : Prop where
  positive : 0 < block.addr
  absent : before.session.engine.table.get? block.addr = none
  table : after.session.engine.table = (before.session.engine.table.insert block).2

theorem Placed.found
    {block : Block}
    (placed : Placed before after block) :
    after.session.engine.table.get? block.addr = some block := by
  rw [placed.table, BlockTable.get?_insert, if_pos rfl]

/-- A request for memory of a tier gets no address and changes no block, or it gets that of a
new block that serves it. -/
theorem ServiceEnds.placed_or_refused (ends : before.ServiceEnds tier size align reply after) :
    (reply.address? = none ∧
        after.session.engine.table = before.session.engine.table) ∨
      ∃ block : Block, reply = .address block.addr ∧ block.tier = tier ∧
        block.Serves ⟨size, align⟩ ∧ Placed before after block := by
  cases ends with
  | invalid _ table =>
      exact .inl ⟨rfl, table⟩
  | exhausted _ _ table =>
      exact .inl ⟨rfl, table⟩
  | @placed reserved carve after valid served table absent positive rounded =>
      obtain ⟨power, small, -⟩ := Engine.reserveAligned_eq_ok valid
      have aligned : align ∣ carve.addr :=
        Allocator.aligned_allocate power small (Prod.ext served rfl)
      exact .inr ⟨⟨carve.addr, size, carve.reserved, tier⟩, rfl, rfl,
        ⟨aligned, (Engine.reserve_bounds rounded).2.2⟩, positive, absent, table⟩

/-- An attempt to resize a block in place succeeds, or it changes no block. -/
theorem attempt_cases
    (process : ProcessHeap (Recorder β))
    {block : Block}
    (found : process.session.engine.table.get? block.addr = some block)
    (size : Nat) :
    ((process.call (.resize block.addr size)).1 = .resized true ∧
        ∃ reserved, size ≤ reserved ∧
          (process.call (.resize block.addr size)).2.session.engine.table =
            process.session.engine.table.modify block.addr fun held =>
              { held with size := size, reserved := reserved }) ∨
      ((process.call (.resize block.addr size)).1 ≠ .resized true ∧
        (process.call (.resize block.addr size)).2.session.engine.table =
          process.session.engine.table) := by
  have asked : Call.task? (process.session.active process.thread) (.resize block.addr size) =
      some (.resize block.addr size) := rfl
  obtain ⟨change, log, session, ends⟩ := call_ends asked
  rw [session]
  generalize (process.call (.resize block.addr size)).1 = reply at *
  cases ends with
  | invalidResize =>
      exact .inr ⟨nofun, rfl⟩
  | unknownResize _ absent =>
      rw [found] at absent
      cases absent
  | blocked =>
      exact .inr ⟨nofun, rfl⟩
  | resized valid heldFound =>
      rw [found] at heldFound
      cases heldFound
      exact .inl ⟨rfl, _, (Engine.reserve_bounds valid).2.2, rfl⟩

end ProcessHeap

theorem Block.Serves.shorter
    {block : Block}
    {size align : Nat}
    (serves : block.Serves ⟨size, align⟩)
    {less : Nat}
    (short : less ≤ size) :
    block.Serves ⟨less, align⟩ :=
  ⟨serves.aligned, Nat.le_trans short serves.fits⟩

namespace ProgramHeap

section

variable {β σ : Type} [Backend β] [SystemHeap σ] (heap : ProgramHeap β σ)

theorem alloc_of_served
    {depth : Nat}
    {layout : Layout}
    (served : layout.servedByEngine depth = true) :
    heap.alloc depth layout =
      ((heap.process.call (.allocateAligned (max layout.size 1) layout.align)).1.address?.getD 0,
       { heap with
         process :=
          (heap.process.call (.allocateAligned (max layout.size 1) layout.align)).2 }) := by
  rw [alloc, if_pos served]

theorem alloc_of_bypassed
    {depth : Nat}
    {layout : Layout}
    (bypassed : layout.servedByEngine depth = false) :
    heap.alloc depth layout =
      ((SystemHeap.allocate heap.system layout).1,
       { heap with system := (SystemHeap.allocate heap.system layout).2 }) := by
  rw [alloc, if_neg (Bool.eq_false_iff.mp bypassed)]

theorem allocZeroed_eq
    (depth : Nat)
    (layout : Layout) :
    heap.allocZeroed depth layout =
      ((heap.alloc depth layout).1,
       if (heap.alloc depth layout).1 = 0 then (heap.alloc depth layout).2
       else
        (heap.alloc depth layout).2.withMemory
          ((heap.alloc depth layout).2.process.memory.fill (heap.alloc depth layout).1
            layout.size 0)) := by
  simp only [allocZeroed]
  split <;> rfl

omit [Backend β] [SystemHeap σ] in
/-- Inside the engine, no block of the engine is seen. -/
theorem engineBlock?_nested
    {depth : Nat}
    (nested : depth ≠ 0)
    (addr : Nat) :
    heap.engineBlock? depth addr = none :=
  if_neg nested

omit [SystemHeap σ] in
theorem engineBlock?_outside
    {engine : Engine β}
    (installed : heap.process.slot = some engine)
    (addr : Nat) :
    heap.engineBlock? Engine.outside addr = heap.process.block? addr := by
  rw [engineBlock?, if_pos rfl, installed, ProcessHeap.block?,
    ProcessHeap.session_of_slot installed]
  rfl

variable {depth addr : Nat} (layout : Layout)

theorem dealloc_of_found
    {block : Block}
    (found : heap.engineBlock? depth addr = some block) :
    heap.dealloc depth addr layout =
      { heap with process := (heap.process.call (.free addr)).2 } := by
  rw [dealloc, found]

theorem dealloc_of_absent (absent : heap.engineBlock? depth addr = none) :
    heap.dealloc depth addr layout =
      { heap with system := SystemHeap.release heap.system addr layout } := by
  rw [dealloc, absent]

variable (newSize : Nat)

theorem realloc_of_found
    {block : Block}
    (found : heap.engineBlock? depth addr = some block) :
    heap.realloc depth addr layout newSize = heap.resizeBlock block layout newSize := by
  rw [realloc, found]

/-- The system heap resizes a block; besides that, only memory changes. -/
theorem realloc_of_absent (absent : heap.engineBlock? depth addr = none) :
    ∃ memory,
      heap.realloc depth addr layout newSize =
        ((SystemHeap.resize heap.system addr layout newSize).1,
         ({ heap with system := (SystemHeap.resize heap.system addr layout newSize).2 } :
          ProgramHeap β σ).withMemory memory) := by
  rw [realloc, absent]
  exact ⟨_, rfl⟩

variable {newSize} {block : Block}

omit [SystemHeap σ] in
theorem resizeBlock_of_resized
    (resized : (heap.process.call (.resize block.addr (max newSize 1))).1 = .resized true) :
    heap.resizeBlock block layout newSize =
      (block.addr,
       { heap with process := (heap.process.call (.resize block.addr (max newSize 1))).2 }) := by
  simp only [resizeBlock]
  rw [if_pos resized]

omit [SystemHeap σ] in
theorem resizeBlock_of_blocked
    (blocked : (heap.process.call (.resize block.addr (max newSize 1))).1 ≠ .resized true) :
    heap.resizeBlock block layout newSize =
      ({ heap with process := (heap.process.call (.resize block.addr (max newSize 1))).2 } :
        ProgramHeap β σ).moveBlock block layout newSize := by
  simp only [resizeBlock]
  rw [if_neg blocked]

omit [SystemHeap σ] in
/-- The system heap has no part in it. -/
theorem system_resizeBlock
    (block : Block)
    (newSize : Nat) :
    (heap.resizeBlock block layout newSize).2.system = heap.system := by
  rw [resizeBlock]
  dsimp only
  split
  · rfl
  · rw [moveBlock]
    dsimp only
    split <;> rfl

omit [SystemHeap σ] in
theorem isInitialized_moveBlock
    (block : Block)
    (newSize : Nat) :
    (heap.moveBlock block layout newSize).2.process.isInitialized = true := by
  have served := heap.process.isInitialized_call
    (.allocateOnAligned block.tier (max newSize 1) layout.align)
  rw [moveBlock]
  generalize heap.process.call (.allocateOnAligned block.tier (max newSize 1) layout.align) =
    result at *
  obtain ⟨reply, process⟩ := result
  dsimp only at *
  split
  · exact served
  · rename_i fresh _
    exact ProcessHeap.isInitialized_call
      { process with
        memory := process.memory.copy block.addr fresh (min layout.size newSize) }
      (.free block.addr)

omit [SystemHeap σ] in
theorem isInitialized_resizeBlock
    (block : Block)
    (newSize : Nat) :
    (heap.resizeBlock block layout newSize).2.process.isInitialized = true := by
  by_cases resized :
      (heap.process.call (.resize block.addr (max newSize 1))).1 = .resized true
  · rw [heap.resizeBlock_of_resized layout resized]
    exact heap.process.isInitialized_call (.resize block.addr (max newSize 1))
  · rw [heap.resizeBlock_of_blocked layout resized]
    exact isInitialized_moveBlock _ layout block newSize

end

variable {β σ : Type} [Backend β] {heap : ProgramHeap (Recorder β) σ}
  {flight : List Block} {block : Block} {layout : Layout} {newSize : Nat}

open ProcessHeap (Preserved Placed)

inductive ResizeEnds
    (before : ProcessHeap (Recorder β))
    (block : Block)
    (layout : Layout)
    (newSize : Nat) : Nat → ProcessHeap (Recorder β) → Prop where
  | inPlace
      {reserved : Nat}
      {after : ProcessHeap (Recorder β)}
      (fits : newSize ≤ reserved)
      (table :
        after.session.engine.table =
          before.session.engine.table.modify block.addr fun held =>
            { held with size := max newSize 1, reserved := reserved }) :
      ResizeEnds before block layout newSize block.addr after
  | refused
      {after : ProcessHeap (Recorder β)}
      (table : after.session.engine.table = before.session.engine.table) :
      ResizeEnds before block layout newSize 0 after
  | moved
      {new : Block}
      {served after : ProcessHeap (Recorder β)}
      (tier : new.tier = block.tier)
      (serves : new.Serves ⟨newSize, layout.align⟩)
      (placed : Placed before served new)
      (table :
        after.session.engine.table = (served.session.engine.table.remove block.addr).2)
      (contents : ∀ offset, offset < min layout.size newSize →
        after.memory.byteAt (new.addr + offset) = before.memory.byteAt (block.addr + offset)) :
      ResizeEnds before block layout newSize new.addr after

theorem resizeEnds_move
    (heap : ProgramHeap (Recorder β) σ)
    (kept : heap.process.Kept flight)
    (found : heap.process.session.engine.table.get? block.addr = some block)
    (inOld : layout.size ≤ block.reserved)
    (abiding : Dealing.Abiding (heap.moveBlock block layout newSize).2.process.dealings) :
    ResizeEnds heap.process block layout newSize (heap.moveBlock block layout newSize).1
        (heap.moveBlock block layout newSize).2.process ∧
      Preserved flight heap.process (heap.moveBlock block layout newSize).2.process := by
  have asked : Call.task? (heap.process.session.active heap.process.thread)
      (.allocateOnAligned block.tier (max newSize 1) layout.align) =
        some (.allocate block.tier (max newSize 1) layout.align) := rfl
  have ends := kept.service_ends asked
  have preserved := kept.preserved_call
    (.allocateOnAligned block.tier (max newSize 1) layout.align)
  rw [moveBlock] at abiding ⊢
  generalize heap.process.call (.allocateOnAligned block.tier (max newSize 1) layout.align) =
    result at *
  obtain ⟨reply, served⟩ := result
  dsimp only at *
  cases answered : reply.address? with
  | none =>
      simp only [answered] at abiding ⊢
      rcases (ends abiding).placed_or_refused with ⟨-, table⟩ | ⟨new, same, -⟩
      · exact ⟨.refused table, preserved abiding⟩
      · rw [same] at answered
        cases answered
  | some fresh =>
      simp only [answered] at abiding ⊢
      rw [ProcessHeap.dealings, ProcessHeap.session_call, Session.dealings_free,
        ProcessHeap.session_withMemory] at abiding
      rcases (ends abiding).placed_or_refused with
        ⟨unanswered, -⟩ | ⟨new, same, tier, serves, placed⟩
      · rw [answered] at unanswered
        cases unanswered
      · rw [same] at answered
        cases answered
        have inNew : min layout.size newSize ≤ new.reserved :=
          Nat.le_trans (Nat.le_trans (Nat.min_le_right _ _) (Nat.le_max_left newSize 1))
            serves.fits
        refine ⟨.moved tier (serves.shorter (Nat.le_max_left newSize 1)) placed ?_ ?_,
          (preserved abiding).moved placed.absent placed.table inNew block.addr block.addr⟩
        · rw [ProcessHeap.session_call, Session.table_free, ProcessHeap.session_withMemory]
        · intro offset inside
          exact (preserved abiding).byteAt_moved kept found new placed.found
            (Nat.le_trans (Nat.min_le_left _ _) inOld) inNew inside

/-- An attempt that changes no block and no live byte can come first. -/
theorem ResizeEnds.transport
    {before called after : ProcessHeap (Recorder β)}
    {ptr : Nat}
    (ends : ResizeEnds called block layout newSize ptr after)
    (table : called.session.engine.table = before.session.engine.table)
    (bytes : ∀ offset, offset < layout.size →
      called.memory.byteAt (block.addr + offset) = before.memory.byteAt (block.addr + offset)) :
    ResizeEnds before block layout newSize ptr after := by
  cases ends with
  | inPlace fits same =>
      exact .inPlace fits (by rw [same, table])
  | refused same =>
      exact .refused (same.trans table)
  | moved tier serves placed same contents =>
      obtain ⟨positive, absent, entered⟩ := placed
      rw [table] at absent entered
      refine .moved tier serves ⟨positive, absent, entered⟩ same fun offset inside => ?_
      exact (contents offset inside).trans
        (bytes offset (Nat.lt_of_lt_of_le inside (Nat.min_le_left _ _)))

theorem resizeEnds_resize
    (kept : heap.process.Kept flight)
    (found : heap.process.session.engine.table.get? block.addr = some block)
    (inOld : layout.size ≤ block.reserved)
    (abiding : Dealing.Abiding (heap.resizeBlock block layout newSize).2.process.dealings) :
    ResizeEnds heap.process block layout newSize (heap.resizeBlock block layout newSize).1
        (heap.resizeBlock block layout newSize).2.process ∧
      Preserved flight heap.process (heap.resizeBlock block layout newSize).2.process := by
  have preserved := kept.preserved_attempt block.addr (max newSize 1)
  rcases heap.process.attempt_cases found (max newSize 1) with
    ⟨resized, reserved, fits, table⟩ | ⟨blocked, table⟩
  · rw [heap.resizeBlock_of_resized layout resized]
    exact ⟨.inPlace (Nat.le_trans (Nat.le_max_left newSize 1) fits) table, preserved⟩
  · rw [heap.resizeBlock_of_blocked layout blocked] at abiding ⊢
    generalize (heap.process.call (.resize block.addr (max newSize 1))).2 = called at *
    have foundStill := found
    rw [← table] at foundStill
    obtain ⟨moved, preservedOn⟩ :=
      resizeEnds_move { heap with process := called } preserved.kept foundStill inOld abiding
    refine ⟨moved.transport table fun offset inside => ?_,
      preserved.trans (fun _ live => live.transport table) preservedOn⟩
    exact preserved.bytes _ (kept.live_of_found found (Nat.lt_of_lt_of_le inside inOld))

end ProgramHeap

end TierHeap
