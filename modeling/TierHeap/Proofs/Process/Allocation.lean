import TierHeap.Proofs.Process.Contents

/-!
# Memory for a process

A call for memory of a tier is refused, or it enters one new block, which is apart from all
blocks that were live before (`ProcessHeap.Kept.service_ends`, `ProcessHeap.Kept.apart_of_insert`).
Such a block can be written to, and another one can be released for it, without a change to any
byte of the others (`ProcessHeap.Preserved`).
-/

namespace TierHeap

/-- A byte outside a range is outside each part of it that starts where it starts. -/
theorem Span.not_in_part_of_not_has
    {span : Span}
    {len : Nat}
    (part : len ≤ span.len)
    {addr : Nat}
    (outside : ¬span.has addr = true) :
    ¬(span.start ≤ addr ∧ addr < span.start + len) := by
  rw [Span.has_iff] at outside
  omega

namespace Session

variable {β : Type} [Backend β]

theorem dealings_free
    (session : Session (Recorder β))
    (thread addr : Nat) :
    (session.call thread (.free addr)).2.dealings = session.dealings := by
  have asked : Call.task? (session.active thread) (.free addr) = some (.free addr) := rfl
  obtain ⟨reply, change, log, made, ends⟩ := call_ends asked
  rw [made]
  cases ends with
  | unknownFree absent =>
      rfl
  | @freed _ block found =>
      simp only [dealings, changed, withEngine, Change.apply]
      cases block.tier <;> rfl

theorem dealings_resize
    (session : Session (Recorder β))
    (thread addr size : Nat) :
    (session.call thread (.resize addr size)).2.dealings = session.dealings := by
  have asked : Call.task? (session.active thread) (.resize addr size) =
      some (.resize addr size) := rfl
  obtain ⟨reply, change, log, made, ends⟩ := call_ends asked
  rw [made]
  cases ends with
  | @resized _ _ reserved block allocator valid found tried =>
      obtain ⟨arena, -, rfl⟩ := Allocator.resize?_eq_some tried
      simp only [dealings, changed, withEngine, Change.apply]
      cases block.tier <;> rfl
  | _ =>
      rfl

theorem table_free
    (session : Session β)
    (thread addr : Nat) :
    (session.call thread (.free addr)).2.engine.table = (session.engine.table.remove addr).2 := by
  have asked : Call.task? (session.active thread) (.free addr) = some (.free addr) := rfl
  obtain ⟨reply, change, log, made, ends⟩ := call_ends asked
  rw [made]
  cases ends with
  | unknownFree absent =>
      exact (BlockTable.remove_of_absent absent).symm
  | freed =>
      rfl

end Session

namespace ProcessHeap

variable {β : Type} [Backend β]

theorem Live.transport
    {process after : ProcessHeap β}
    (same : after.session.engine.table = process.session.engine.table)
    {addr : Nat}
    (live : process.Live addr) :
    after.Live addr := by
  rw [Live, same]
  exact live

theorem Kept.transport
    {process after : ProcessHeap (Recorder β)}
    {flight : List Block}
    (kept : process.Kept flight)
    (same : after.session = process.session) :
    after.Kept flight := by
  refine ⟨?_, ?_⟩
  · rw [same]
    exact kept.accounted
  · rw [dealings, same]
    exact kept.abiding

/-- From one process to another, the books are kept and no byte of a live block has changed. -/
structure Preserved
    (flight : List Block)
    (before after : ProcessHeap (Recorder β)) : Prop where
  kept : after.Kept flight
  bytes : ∀ addr, before.Live addr → after.memory.byteAt addr = before.memory.byteAt addr

variable {process after : ProcessHeap (Recorder β)} {flight : List Block}

theorem Kept.preserved_transport
    (kept : process.Kept flight)
    (same : after.session = process.session)
    (memory : after.memory = process.memory) :
    Preserved flight process after := by
  refine ⟨kept.transport same, ?_⟩
  intro addr _
  rw [memory]

theorem Preserved.trans
    {middle : ProcessHeap (Recorder β)}
    (first : Preserved flight process middle)
    (still : ∀ addr, process.Live addr → middle.Live addr)
    (second : Preserved flight middle after) :
    Preserved flight process after :=
  ⟨second.kept, fun addr live =>
    (second.bytes addr (still addr live)).trans (first.bytes addr live)⟩

theorem Kept.preserved_call
    (kept : process.Kept flight)
    (call : Call)
    (abiding : Dealing.Abiding (process.call call).2.dealings) :
    Preserved flight process (process.call call).2 :=
  ⟨kept.call abiding, fun _ live => kept.byteAt_call abiding live⟩

/-- A release is accepted if there is a live block at the address. -/
theorem free_cases
    (process : ProcessHeap (Recorder β))
    (addr : Nat) :
    (process.block? addr = none ∧
        (process.call (.free addr)).1 = .refused (.unknownAddress addr)) ∨
      ∃ block, process.block? addr = some block ∧
        (process.call (.free addr)).1 = .freed block.tier := by
  have asked : Call.task? (process.session.active process.thread) (.free addr) =
      some (.free addr) := rfl
  obtain ⟨change, log, -, ends⟩ := call_ends asked
  generalize (process.call (.free addr)).1 = reply at *
  cases ends with
  | unknownFree absent =>
      exact .inl ⟨absent, rfl⟩
  | freed found =>
      exact .inr ⟨_, found, rfl⟩

inductive ServiceEnds
    (before : ProcessHeap (Recorder β))
    (tier : Tier)
    (size align : Nat) : Reply → ProcessHeap (Recorder β) → Prop where
  | invalid
      {err : RequestError}
      {after : ProcessHeap (Recorder β)}
      (invalid : Engine.reserveAligned size align = .error err)
      (table : after.session.engine.table = before.session.engine.table) :
      ServiceEnds before tier size align (.refused err) after
  | exhausted
      {reserved : Nat}
      {cause : GrowError}
      {after : ProcessHeap (Recorder β)}
      (valid : Engine.reserveAligned size align = .ok reserved)
      (refused :
        ((before.session.engine.tiers.get tier).allocate Engine.depth reserved align).1 =
          .error cause)
      (table : after.session.engine.table = before.session.engine.table) :
      ServiceEnds before tier size align (.refused (.outOfMemory tier size)) after
  | placed
      {reserved : Nat}
      {carve : Carve}
      {after : ProcessHeap (Recorder β)}
      (valid : Engine.reserveAligned size align = .ok reserved)
      (served :
        ((before.session.engine.tiers.get tier).allocate Engine.depth reserved align).1 =
          .ok carve)
      (table :
        after.session.engine.table =
          (before.session.engine.table.insert ⟨carve.addr, size, carve.reserved, tier⟩).2)
      (absent : before.session.engine.table.get? carve.addr = none)
      (positive : 0 < carve.addr)
      (rounded : Engine.reserve size = .ok carve.reserved) :
      ServiceEnds before tier size align (.address carve.addr) after

theorem Kept.addr_pos
    (kept : process.Kept flight)
    {addr : Nat}
    {block : Block}
    (found : process.session.engine.table.get? addr = some block) :
    0 < addr := by
  have sameAddr := kept.accounted.filed.get?_addr found
  rw [← sameAddr] at found ⊢
  have inTable := kept.accounted.filed.mem_blocks_iff.mpr found
  have member : block ∈ process.session.engine.table.blocks ++ flight :=
    List.mem_append_left flight inTable
  obtain ⟨segment, held, within⟩ := (kept.accounted.backed.holds member).inside
  have placed := (kept.accounted.backed.consistent block.tier).arena.tiled.placed segment held
  have positive := placed.base_pos
  simp only [Span.Within, Segment.span, Block.span] at within
  omega

theorem Kept.service_ends
    (kept : process.Kept flight)
    {call : Call}
    {tier : Tier}
    {size align : Nat}
    (asked : call.task? (process.session.active process.thread) =
      some (.allocate tier size align))
    (abiding : Dealing.Abiding (process.call call).2.dealings) :
    process.ServiceEnds tier size align (process.call call).1 (process.call call).2 := by
  have keptOn := kept.call abiding
  obtain ⟨change, log, session, ends⟩ := call_ends asked
  rw [dealings, session] at abiding
  have table := congrArg (·.engine.table) session
  generalize (process.call call).1 = reply at *
  cases ends with
  | invalid invalid =>
      exact .invalid invalid table
  | exhausted valid tried =>
      exact .exhausted valid (congrArg Prod.fst tried) table
  | @allocated _ _ _ reserved carve allocator valid tried =>
      have entered : (process.call call).2.session.engine.table =
          (process.session.engine.table.insert ⟨carve.addr, size, carve.reserved, tier⟩).2 :=
        table
      -- The block is in flight before it enters the table, so no entry has its address.
      have inFlight := Task.Ends.inFlight kept.accounted valid tried abiding
      have found : (process.call call).2.session.engine.table.get? carve.addr =
          some ⟨carve.addr, size, carve.reserved, tier⟩ := by
        rw [entered, BlockTable.get?_insert, if_pos rfl]
      have positive := keptOn.addr_pos found
      have rounded := inFlight.backed.reserved ⟨carve.addr, size, carve.reserved, tier⟩
        (List.mem_append_right _ List.mem_cons_self)
      exact .placed valid (congrArg Prod.fst tried) entered (inFlight.fresh abiding) positive
        rounded

/-- A new block is apart from those that were live before, and these are live still. -/
theorem Kept.apart_of_insert
    (kept : after.Kept flight)
    {block : Block}
    (absent : process.session.engine.table.get? block.addr = none)
    (table :
      after.session.engine.table = (process.session.engine.table.insert block).2)
    {addr : Nat}
    (live : process.Live addr) :
    ¬block.span.has addr = true ∧ after.Live addr := by
  obtain ⟨held, member, has⟩ := live
  have blocks := BlockTable.insert_perm absent
  rw [← table] at blocks
  have apart := (List.pairwise_append.mp (kept.accounted.backed.pairwise_apart kept.abiding)).1
  rw [blocks.pairwise_iff fun apart => apart.symm, List.pairwise_cons] at apart
  refine ⟨?_, held, blocks.mem_iff.mpr (List.mem_cons_of_mem block member), has⟩
  exact Span.not_has_of_apart (apart.1 held member).symm has

/-- A change of memory inside a new block changes no byte of a block that was live before. -/
theorem Preserved.within_insert
    (preserved : Preserved flight process after)
    {block : Block}
    (absent : process.session.engine.table.get? block.addr = none)
    (table :
      after.session.engine.table = (process.session.engine.table.insert block).2)
    {memory : Memory}
    (within : ∀ addr, ¬block.span.has addr = true →
      memory.byteAt addr = after.memory.byteAt addr) :
    Preserved flight process { after with memory := memory } := by
  refine ⟨preserved.kept.transport (session_withMemory after memory), ?_⟩
  intro addr live
  have outside := (preserved.kept.apart_of_insert absent table live).1
  exact (within addr outside).trans (preserved.bytes addr live)

variable {block : Block}

theorem Kept.preserved_free
    (kept : process.Kept flight)
    (addr : Nat) :
    Preserved flight process (process.call (.free addr)).2 := by
  apply kept.preserved_call
  rw [dealings, session_call, Session.dealings_free]
  exact kept.abiding

theorem Kept.preserved_attempt
    (kept : process.Kept flight)
    (addr size : Nat) :
    Preserved flight process (process.call (.resize addr size)).2 := by
  apply kept.preserved_call
  rw [dealings, session_call, Session.dealings_resize]
  exact kept.abiding

/-- No byte that was live changes if a new block takes in a copy and another block is released
for it. -/
theorem Preserved.moved
    (preserved : Preserved flight process after)
    {block : Block}
    (absent : process.session.engine.table.get? block.addr = none)
    (table :
      after.session.engine.table = (process.session.engine.table.insert block).2)
    {len : Nat}
    (fits : len ≤ block.reserved)
    (source old : Nat) :
    Preserved flight process
      (ProcessHeap.call { after with memory := after.memory.copy source block.addr len }
        (.free old)).2 := by
  have copied := preserved.within_insert absent table fun addr outside =>
    Memory.byteAt_copy_outside _ (Span.not_in_part_of_not_has fits outside) source
  -- The old block is released last; all that was live before is live until then.
  refine copied.trans ?_ (copied.kept.preserved_free old)
  intro addr live
  have liveOn := (preserved.kept.apart_of_insert absent table live).2
  exact liveOn.transport (by rw [session_withMemory])

theorem Kept.live_of_found
    (kept : process.Kept flight)
    (found : process.session.engine.table.get? block.addr = some block)
    {offset : Nat}
    (inside : offset < block.reserved) :
    process.Live (block.addr + offset) :=
  ⟨block, kept.accounted.filed.mem_blocks_iff.mpr found,
    Span.has_iff.mpr ⟨Nat.le_add_right block.addr offset, Nat.add_lt_add_left inside _⟩⟩

theorem Kept.size_le_reserved
    (kept : process.Kept flight)
    (found : process.session.engine.table.get? block.addr = some block) :
    block.size ≤ block.reserved := by
  have member := kept.accounted.filed.mem_blocks_iff.mpr found
  have rounded := kept.accounted.backed.reserved block (List.mem_append_left flight member)
  exact (Engine.reserve_bounds rounded).2.2

/-- What is copied into a new block stays there when the old one is released. -/
theorem Preserved.byteAt_moved
    {served : ProcessHeap (Recorder β)}
    (preserved : Preserved flight process served)
    (kept : process.Kept flight)
    (found : process.session.engine.table.get? block.addr = some block)
    (new : Block)
    (entered : served.session.engine.table.get? new.addr = some new)
    {len : Nat}
    (inOld : len ≤ block.reserved)
    (inNew : len ≤ new.reserved)
    {offset : Nat}
    (inside : offset < len) :
    (ProcessHeap.call { served with memory := served.memory.copy block.addr new.addr len }
        (.free block.addr)).2.memory.byteAt (new.addr + offset) =
      process.memory.byteAt (block.addr + offset) := by
  have same := session_withMemory served (served.memory.copy block.addr new.addr len)
  have released := (preserved.kept.transport same).preserved_free block.addr
  have newLive := preserved.kept.live_of_found entered (Nat.lt_of_lt_of_le inside inNew)
  have oldLive := kept.live_of_found found (Nat.lt_of_lt_of_le inside inOld)
  calc
    _ = (served.memory.copy block.addr new.addr len).byteAt (new.addr + offset) :=
      released.bytes _ (newLive.transport (congrArg (·.engine.table) same))
    _ = served.memory.byteAt (block.addr + offset) :=
      Memory.byteAt_copy_inside served.memory inside block.addr new.addr
    _ = process.memory.byteAt (block.addr + offset) := preserved.bytes _ oldLive

end ProcessHeap

end TierHeap
