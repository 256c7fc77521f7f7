import TierHeap.Proofs.Adapter.Runs

/-!
# Blocks go back where they came from

Where the adapter sends a request is decided anew each time, by the alignment, the open engine
calls and a look-up in the table of the engine.  Over backends and a system heap that do as they
owe, these decisions agree: a block is released and resized where it came from, and the live
blocks of the engine are those of the loans up to the alignment of a page
(`Adapter.Routes`).  A block of the engine that is resized stays on its tier and keeps its first
bytes, or it is as it was (`ProgramHeap.Resizes`).  Inside the engine, everything goes to the
system heap (`ProgramHeap.Bypasses`).
-/

namespace TierHeap

namespace ProgramHeap

/-- With so many engine calls open, all requests go to the system heap, and nothing else
changes but memory. -/
structure Bypasses
    {β σ : Type}
    [Backend β]
    [SystemHeap σ]
    (heap : ProgramHeap β σ)
    (depth : Nat) : Prop where
  alloc : ∀ layout,
    heap.alloc depth layout =
      ((SystemHeap.allocate heap.system layout).1,
       { heap with system := (SystemHeap.allocate heap.system layout).2 })
  allocZeroed : ∀ layout, ∃ memory,
    heap.allocZeroed depth layout =
      ((SystemHeap.allocate heap.system layout).1,
       ({ heap with system := (SystemHeap.allocate heap.system layout).2 } :
        ProgramHeap β σ).withMemory memory)
  dealloc : ∀ addr layout,
    heap.dealloc depth addr layout =
      { heap with system := SystemHeap.release heap.system addr layout }
  realloc : ∀ addr layout newSize, ∃ memory,
    heap.realloc depth addr layout newSize =
      ((SystemHeap.resize heap.system addr layout newSize).1,
       ({ heap with system := (SystemHeap.resize heap.system addr layout newSize).2 } :
        ProgramHeap β σ).withMemory memory)

theorem bypasses
    {β σ : Type}
    [Backend β]
    [SystemHeap σ]
    (heap : ProgramHeap β σ)
    {depth : Nat}
    (nested : depth ≠ 0) :
    heap.Bypasses depth := by
  have alloc (layout : Layout) : heap.alloc depth layout =
      ((SystemHeap.allocate heap.system layout).1,
       { heap with system := (SystemHeap.allocate heap.system layout).2 }) := by
    have bypassed : layout.servedByEngine depth = false := by
      simp [Layout.servedByEngine, nested]
    exact heap.alloc_of_bypassed bypassed
  refine ⟨alloc, fun layout => ?_, fun addr layout => ?_, fun addr layout newSize => ?_⟩
  · rw [heap.allocZeroed_eq, alloc]
    dsimp only
    split
    · exact ⟨heap.process.memory, rfl⟩
    · exact ⟨_, rfl⟩
  · exact heap.dealloc_of_absent layout (heap.engineBlock?_nested nested addr)
  · exact heap.realloc_of_absent layout newSize (heap.engineBlock?_nested nested addr)

variable {β σ : Type} [Backend β]

/-- How resizing a block of the engine to a pointer looks to the program. -/
structure Resizes
    (before : ProgramHeap (Recorder β) σ)
    (block : Block)
    (layout : Layout)
    (newSize ptr : Nat)
    (after : ProgramHeap (Recorder β) σ) : Prop where
  /-- The system heap is not asked. -/
  system : after.system = before.system
  /-- It stays on its tier and keeps the bytes that both sizes hold. -/
  served : ptr ≠ 0 →
    (∃ new, after.process.block? ptr = some new ∧ new.tier = block.tier) ∧
      after.process.memory.read ptr (min layout.size newSize) =
        before.process.memory.read block.addr (min layout.size newSize)
  /-- A block that cannot be resized is as it was, and so are all others. -/
  refused : ptr = 0 →
    (∀ addr, after.process.block? addr = before.process.block? addr) ∧
      after.process.memory.read block.addr block.reserved =
        before.process.memory.read block.addr block.reserved

variable {heap : ProgramHeap (Recorder β) σ} {flight : List Block} {block : Block}
  {layout : Layout} {newSize : Nat}

open ProcessHeap (Preserved)

theorem ResizeEnds.resizes
    {after : ProgramHeap (Recorder β) σ}
    {ptr : Nat}
    (ends : ResizeEnds heap.process block layout newSize ptr after.process)
    (kept : heap.process.Kept flight)
    (found : heap.process.session.engine.table.get? block.addr = some block)
    (serves : block.Serves layout)
    (preserved : Preserved flight heap.process after.process)
    (system : after.system = heap.system) :
    heap.Resizes block layout newSize ptr after := by
  have bytes {offset : Nat} (inside : offset < block.reserved) :
      after.process.memory.byteAt (block.addr + offset) =
        heap.process.memory.byteAt (block.addr + offset) :=
    preserved.bytes _ (kept.live_of_found found inside)
  have nonnull : block.addr ≠ 0 := Nat.ne_of_gt (kept.addr_pos found)
  refine ⟨system, fun success => ?_, fun failure => ?_⟩
  · generalize after.process = process at *
    cases ends with
    | @inPlace reserved _ fits table =>
        refine ⟨⟨{ block with size := max newSize 1, reserved := reserved }, ?_, rfl⟩,
          Memory.read_congr fun offset inside => bytes ?_⟩
        · rw [ProcessHeap.block?, Engine.block?, table, BlockTable.get?_modify, if_pos rfl, found]
          rfl
        · exact Nat.lt_of_lt_of_le inside
            (Nat.le_trans (Nat.min_le_left _ _) serves.fits)
    | refused =>
        exact absurd rfl success
    | @moved new _ _ tier _ placed table contents =>
        have apart : new.addr ≠ block.addr := by
          intro same
          have absent := placed.absent
          rw [same, found] at absent
          cases absent
        refine ⟨⟨new, ?_, tier⟩, Memory.read_congr contents⟩
        rw [ProcessHeap.block?, Engine.block?, table, BlockTable.get?_remove, if_neg apart]
        exact placed.found
  · generalize after.process = process at *
    cases ends with
    | inPlace =>
        exact absurd failure nonnull
    | refused table =>
        refine ⟨fun addr => ?_, Memory.read_congr fun offset inside => bytes inside⟩
        rw [ProcessHeap.block?, Engine.block?, table]
        rfl
    | moved _ _ placed =>
        exact absurd failure (Nat.ne_of_gt placed.positive)

end ProgramHeap

namespace Adapter

variable {β σ : Type} [Backend β] [SystemHeap σ]

def opening
    (process : ProcessHeap (Recorder β))
    (system : σ) : Adapter β σ :=
  ⟨⟨process, ⟨system, []⟩⟩, []⟩

/-- Every request names a loan, if any, and the parts do as they owe after it. -/
def Orderly
    (adapter : Adapter β σ) : List Request → Prop
  | [] => True
  | request :: rest =>
      request.Paired adapter.loans ∧ (adapter.perform request).heap.Sound ∧
        Orderly (adapter.perform request) rest

instance decidableOrderly :
    (requests : List Request) → (adapter : Adapter β σ) → Decidable (adapter.Orderly requests)
  | [], _ => inferInstanceAs (Decidable True)
  | request :: rest, adapter =>
      have : Decidable ((adapter.perform request).Orderly rest) :=
        decidableOrderly rest (adapter.perform request)
      inferInstanceAs (Decidable (request.Paired adapter.loans ∧
        (adapter.perform request).heap.Sound ∧ (adapter.perform request).Orderly rest))

omit [SystemHeap σ] in
theorem balanced_opening
    {process : ProcessHeap (Recorder β)}
    (installed : process.isInitialized = true)
    (built : process.session.Built)
    (system : σ) :
    (opening process system).Balanced where
  installed := installed
  kept := ⟨built.unused.accounted, built.unused.abiding⟩
  backs := by
    have table : (opening process system).heap.process.session.engine.table = .empty :=
      built.unused.table
    rw [table]
    exact BlockTable.backs_empty
  passed := rfl
  due := trivial

omit [SystemHeap σ] in
theorem sound_opening
    {process : ProcessHeap (Recorder β)}
    (built : process.session.Built)
    (system : σ) :
    (opening process system).heap.Sound where
  abiding := built.unused.abiding
  separate := nofun

/-- An orderly run keeps the balance. -/
theorem Balanced.run
    {adapter : Adapter β σ}
    (balanced : adapter.Balanced)
    (sound : adapter.heap.Sound)
    {requests : List Request}
    (orderly : adapter.Orderly requests) :
    (adapter.run requests).Balanced ∧ (adapter.run requests).heap.Sound := by
  induction requests generalizing adapter with
  | nil =>
      exact ⟨balanced, sound⟩
  | cons request rest inductionHypothesis =>
      obtain ⟨paired, soundAfter, orderlyRest⟩ := orderly
      exact inductionHypothesis (balanced.perform sound paired soundAfter) soundAfter orderlyRest

/-! ## The main statement -/

/-- Blocks are where they should be, and what is asked for them goes there. -/
structure Routes (adapter : Adapter β σ) : Prop where
  /-- The live blocks of the engine are those of the loans up to the alignment of a page. -/
  engineLoans :
    ((adapter.loans.filter fun loan => loan.layout.align ≤ pageSize).map Loan.addr).Perm
      (adapter.heap.process.session.engine.table.blocks.map Block.addr)
  usable : ∀ loan ∈ adapter.loans, loan.layout.align ≤ pageSize →
    loan.layout.align ∣ loan.addr ∧
      ∃ bytes, adapter.heap.process.session.engine.usableSize loan.addr = .ok bytes ∧
        loan.layout.size ≤ bytes
  /-- All others are loans of the system heap. -/
  systemLoans :
    adapter.heap.system.loans = adapter.loans.filter fun loan => pageSize < loan.layout.align
  /-- The system heap has got the orders for them, and for nothing else. -/
  systemOrders :
    adapter.heap.system.orders = adapter.orders.filter fun order => pageSize < order.align
  systemDue : Order.Due adapter.heap.system.orders
  /-- A block of the engine is released by the engine. -/
  released : ∀ loan ∈ adapter.loans, loan.layout.align ≤ pageSize →
    adapter.heap.dealloc Engine.outside loan.addr loan.layout =
        { adapter.heap with process := (adapter.heap.process.call (.free loan.addr)).2 } ∧
      ∃ tier, (adapter.heap.process.call (.free loan.addr)).1 = .freed tier
  /-- A block of the system heap is released by the system heap. -/
  systemReleased : ∀ loan ∈ adapter.loans, pageSize < loan.layout.align →
    adapter.heap.dealloc Engine.outside loan.addr loan.layout =
      { adapter.heap with
        system := SystemHeap.release adapter.heap.system loan.addr loan.layout }
  /-- A block of the engine is resized by the engine, over backends that owe their dealings. -/
  resized : ∀ loan ∈ adapter.loans, loan.layout.align ≤ pageSize → ∀ newSize,
    Dealing.Abiding
        (adapter.heap.realloc Engine.outside loan.addr loan.layout newSize).2.process.dealings →
      ∃ block, adapter.heap.process.block? loan.addr = some block ∧ block.addr = loan.addr ∧
        adapter.heap.Resizes block loan.layout newSize
          (adapter.heap.realloc Engine.outside loan.addr loan.layout newSize).1
          (adapter.heap.realloc Engine.outside loan.addr loan.layout newSize).2
  /-- A block of the system heap is resized by the system heap. -/
  systemResized : ∀ loan ∈ adapter.loans, pageSize < loan.layout.align → ∀ newSize, ∃ memory,
    adapter.heap.realloc Engine.outside loan.addr loan.layout newSize =
      ((SystemHeap.resize adapter.heap.system loan.addr loan.layout newSize).1,
       ({ adapter.heap with
          system :=
            (SystemHeap.resize adapter.heap.system loan.addr loan.layout newSize).2 } :
        ProgramHeap (Recorder β) (Traced σ)).withMemory memory)
  /-- When all loans are released, no block is live. -/
  emptied : adapter.loans = [] → adapter.heap.process.session.engine.liveBlocks = 0
  /-- Inside the engine, the system heap serves. -/
  nested : ∀ depth, depth ≠ 0 → adapter.heap.Bypasses depth

/-- In every run over an engine that nobody else takes blocks from, backends that owe their
dealings and a system heap that stays clear of the segments, blocks are where they should be.
Layouts need not be valid: the engine refuses those that it cannot serve. -/
theorem routes_run
    {process : ProcessHeap (Recorder β)}
    (installed : process.isInitialized = true)
    (built : process.session.Built)
    (system : σ)
    (requests : List Request)
    (orderly : (opening process system).Orderly requests) :
    ((opening process system).run requests).Routes := by
  obtain ⟨balanced, sound⟩ :=
    (balanced_opening installed built system).run (sound_opening built system) orderly
  generalize (opening process system).run requests = adapter at *
  have within {align : Nat} (small : align ≤ pageSize) : withinPage align = true :=
    decide_eq_true small
  have beyond {align : Nat} (large : pageSize < align) : ¬withinPage align = true :=
    beyondPage_iff.mp (decide_eq_true large)
  constructor
  case engineLoans =>
    exact balanced.backs.addrs
  case usable =>
    intro loan out small
    obtain ⟨block, sameAddr, found, serves⟩ := balanced.found_of_within out (within small)
    refine ⟨sameAddr ▸ serves.aligned, block.reserved, ?_, serves.fits⟩
    rw [sameAddr] at found
    simp only [Engine.usableSize, Engine.block?, found]
  case systemLoans =>
    exact balanced.system_loans
  case systemOrders =>
    exact balanced.passed
  case systemDue =>
    rw [balanced.passed]
    exact balanced.due.filter beyondPage
  case released =>
    intro loan out small
    obtain ⟨block, sameAddr, found, -⟩ := balanced.found_of_within out (within small)
    rw [sameAddr] at found
    have seen := (balanced.engineBlock?_eq loan.addr).trans found
    refine ⟨adapter.heap.dealloc_of_found loan.layout seen, ?_⟩
    rcases adapter.heap.process.free_cases loan.addr with ⟨absent, -⟩ | ⟨held, -, accepted⟩
    · have present : adapter.heap.process.block? loan.addr = some block := found
      rw [present] at absent
      cases absent
    · exact ⟨held.tier, accepted⟩
  case systemReleased =>
    intro loan out large
    exact adapter.heap.dealloc_of_absent loan.layout
      (balanced.absent_of_beyond sound out (beyond large))
  case resized =>
    intro loan out small newSize abiding
    obtain ⟨block, sameAddr, found, serves⟩ := balanced.found_of_within out (within small)
    have here : adapter.heap.process.block? loan.addr = some block := sameAddr ▸ found
    have seen := (balanced.engineBlock?_eq loan.addr).trans here
    rw [adapter.heap.realloc_of_found loan.layout newSize seen] at abiding ⊢
    obtain ⟨ends, preserved⟩ :=
      ProgramHeap.resizeEnds_resize balanced.kept found serves.fits abiding
    exact ⟨block, here, sameAddr, ends.resizes balanced.kept found serves preserved
      (adapter.heap.system_resizeBlock loan.layout block newSize)⟩
  case systemResized =>
    intro loan out large newSize
    exact adapter.heap.realloc_of_absent loan.layout newSize
      (balanced.absent_of_beyond sound out (beyond large))
  case emptied =>
    intro none
    have empty := balanced.backs.addrs.length_eq
    rw [none, List.length_map, List.length_map] at empty
    rw [Engine.liveBlocks, BlockTable.size_eq_length, ← empty]
    rfl
  case nested =>
    intro depth inside
    exact adapter.heap.bypasses inside

/-- A program that has installed an engine, beside a system heap far above its segments. -/
def starting : Adapter SimulatedBackend BumpHeap :=
  opening ProcessHeap.waiting.engine.2 (.startingAt 17592186044416 Word.largest)

/-- Blocks of both tiers and of the system heap, some of them resized and released again. -/
def mixedRequests : List Request :=
  [.alloc ⟨100, 8⟩, .alloc ⟨64, 8192⟩, .alloc ⟨10, 16⟩, .select .cxl, .allocZeroed ⟨50, 64⟩,
    .write 65536 [7, 8, 9], .realloc ⟨17592186044416, ⟨64, 8192⟩⟩ 100,
    .dealloc ⟨1099511627776, ⟨50, 64⟩⟩]

theorem routes_run_mixedRequests :
    starting.Orderly mixedRequests ∧
      (starting.run mixedRequests).heap.system.loans = [⟨17592186052608, ⟨100, 8192⟩⟩] ∧
      ((starting.run mixedRequests).heap.realloc Engine.outside 65536 ⟨100, 8⟩ 1000).1 = 65664 ∧
      ((starting.run mixedRequests).heap.realloc Engine.outside 65536 ⟨100, 8⟩
            1000).2.process.memory.read 65664 100 =
        [7, 8, 9] ++ List.replicate 97 0 := by
  have orderly : starting.Orderly mixedRequests := by decide +kernel
  have built : ProcessHeap.waiting.engine.2.session.Built := by
    rw [ProcessHeap.session_engine]
    exact ProcessHeap.built_waiting
  have routes : (starting.run mixedRequests).Routes :=
    routes_run rfl built _ mixedRequests orderly
  have out : (⟨65536, ⟨100, 8⟩⟩ : Loan) ∈ (starting.run mixedRequests).loans := by
    decide +kernel
  have resized := routes.resized _ out (by decide : 8 ≤ pageSize) 1000 (by decide +kernel)
  dsimp only at resized
  obtain ⟨block, -, sameAddr, resizes⟩ := resized
  have moved : ((starting.run mixedRequests).heap.realloc Engine.outside 65536 ⟨100, 8⟩
      1000).1 = 65664 := by
    decide +kernel
  have contents := (resizes.served (by rw [moved]; decide)).2
  rw [moved, sameAddr] at contents
  refine ⟨orderly, ?_, moved, contents.trans (by decide +kernel)⟩
  exact routes.systemLoans.trans (by decide +kernel)

/-- A process whose tiers both take their segments from the same memory. -/
def twinTiers : ProcessHeap (Recorder SimulatedBackend) :=
  .initial
    { lookup := fun _ => none
      source := fun _ _ => .start (.upwards 65536 0 []) }

/-- One block of each tier, of which one is released. -/
def crossingRequests : List Request :=
  [.alloc ⟨100, 8⟩, .select .cxl, .alloc ⟨100, 8⟩, .dealloc ⟨65536, ⟨100, 8⟩⟩]

/-- A block of the system heap, and one of the engine. -/
def adjoiningRequests : List Request :=
  [.alloc ⟨64, 8192⟩, .alloc ⟨100, 8⟩]

/-- Over backends that lend the same memory twice, two loans share one live block, which is
gone when the first of them is released.  Where the engine gets a segment around a block of
the system heap, the release of that block releases another one in the engine. -/
theorem twin_loans_and_strays :
    ((opening twinTiers.engine.2 (BumpHeap.startingAt 17592186044416 Word.largest)).run
          crossingRequests).loans =
        [⟨65536, ⟨100, 8⟩⟩] ∧
      ((opening twinTiers.engine.2 (BumpHeap.startingAt 17592186044416 Word.largest)).run
          crossingRequests).heap.process.session.engine.liveBlocks = 0 ∧
      ¬((opening twinTiers.engine.2 (BumpHeap.startingAt 17592186044416 Word.largest)).run
          crossingRequests).Routes ∧
      ((opening ProcessHeap.waiting.engine.2 (BumpHeap.startingAt 65536 Word.largest)).run
          (adjoiningRequests.take 1)).heap.process.segments = [] ∧
      ((opening ProcessHeap.waiting.engine.2 (BumpHeap.startingAt 65536 Word.largest)).run
          adjoiningRequests).loans =
        [⟨65536, ⟨100, 8⟩⟩, ⟨65536, ⟨64, 8192⟩⟩] ∧
      ((opening ProcessHeap.waiting.engine.2 (BumpHeap.startingAt 65536 Word.largest)).run
          (adjoiningRequests ++ [.dealloc ⟨65536, ⟨64, 8192⟩⟩])).heap.system.loans =
        [⟨65536, ⟨64, 8192⟩⟩] ∧
      ((opening ProcessHeap.waiting.engine.2 (BumpHeap.startingAt 65536 Word.largest)).run
          (adjoiningRequests ++
            [.dealloc ⟨65536, ⟨64, 8192⟩⟩])).heap.process.session.engine.liveBlocks = 0 := by
  refine ⟨by decide +kernel, by decide +kernel, fun routes => ?_, by decide +kernel,
    by decide +kernel, by decide +kernel, by decide +kernel⟩
  have count := routes.engineLoans.length_eq
  revert count
  decide +kernel

end Adapter

end TierHeap
