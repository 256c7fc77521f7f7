import TierHeap.Proofs.Adapter.Serving
import TierHeap.Proofs.Process.Runs

/-!
# Runs of the adapter

A program orders blocks from the adapter and gives them back, outside the engine, and nobody else
takes blocks from the engine.  The engine then holds the blocks of the loans that are aligned to
at most a page, and the system heap gets the orders for all larger alignments, one by one
(`Adapter.Balanced`).  Each request keeps that, whichever way it ends
(`Adapter.Balanced.perform`).
-/

namespace TierHeap

def withinPage (align : Nat) : Bool :=
  align ≤ pageSize

def beyondPage (align : Nat) : Bool :=
  pageSize < align

theorem beyondPage_iff {align : Nat} : beyondPage align = true ↔ ¬withinPage align = true := by
  simp only [withinPage, beyondPage, decide_eq_true_eq, Nat.not_le]

theorem Layout.servedByEngine_outside (layout : Layout) :
    layout.servedByEngine Engine.outside = withinPage layout.align := by
  simp [servedByEngine, withinPage, Engine.outside]

/-- The adapter over recorded backends and a traced system heap, with what was ordered from
it. -/
abbrev Adapter (β σ : Type) :=
  Traced (ProgramHeap (Recorder β) (Traced σ))

namespace Adapter

/-- What a program does about its heap, outside the engine. -/
inductive Request where
  | alloc (layout : Layout)
  | allocZeroed (layout : Layout)
  | realloc (loan : Loan) (newSize : Nat)
  | dealloc (loan : Loan)
  | enable
  | select (tier : Tier)
  | trim
  /-- The program itself writes to memory. -/
  | write (addr : Nat) (bytes : List UInt8)
  /-- Another thread goes on, with an error number of its own. -/
  | turn (thread : Nat) (errno : Int)
  deriving DecidableEq

def Request.Paired
    (loans : List Loan) : Request → Prop
  | .realloc loan _ => loan ∈ loans
  | .dealloc loan => loan ∈ loans
  | _ => True

instance (loans : List Loan) : DecidablePred (Request.Paired loans)
  | .realloc loan _ => inferInstanceAs (Decidable (loan ∈ loans))
  | .dealloc loan => inferInstanceAs (Decidable (loan ∈ loans))
  | .alloc _ | .allocZeroed _ | .enable | .select _ | .trim | .write _ _ | .turn _ _ =>
      inferInstanceAs (Decidable True)

variable {β σ : Type} [Backend β]

def book
    (adapter : Adapter β σ)
    (result : Nat × ProgramHeap (Recorder β) (Traced σ))
    (order : Nat → Order) : Adapter β σ :=
  ⟨result.2, order result.1 :: adapter.orders⟩

/-- Go on with another process, without an order. -/
def withProcess
    (adapter : Adapter β σ)
    (process : ProcessHeap (Recorder β)) : Adapter β σ :=
  { adapter with heap := { adapter.heap with process := process } }

variable [SystemHeap σ]

def perform
    (adapter : Adapter β σ) : Request → Adapter β σ
  | .alloc layout =>
      adapter.book (adapter.heap.alloc Engine.outside layout) (.allocate layout)
  | .allocZeroed layout =>
      adapter.book (adapter.heap.allocZeroed Engine.outside layout) (.allocate layout)
  | .realloc loan newSize =>
      adapter.book (adapter.heap.realloc Engine.outside loan.addr loan.layout newSize)
        (.resize loan newSize)
  | .dealloc loan =>
      ⟨adapter.heap.dealloc Engine.outside loan.addr loan.layout,
       .release loan :: adapter.orders⟩
  | .enable => adapter.withProcess (adapter.heap.process.call .enable).2
  | .select tier => adapter.withProcess (adapter.heap.process.call (.setMode tier)).2
  | .trim => adapter.withProcess (adapter.heap.process.call .trim).2
  | .write addr bytes =>
      adapter.withProcess
        { adapter.heap.process with memory := adapter.heap.process.memory.write addr bytes }
  | .turn thread errno =>
      adapter.withProcess
        { adapter.heap.process with
          thread := thread
          errno := errno }

def run
    (adapter : Adapter β σ)
    (requests : List Request) : Adapter β σ :=
  requests.foldl perform adapter

/-- Zeroing a block changes memory alone. -/
theorem perform_allocZeroed
    (adapter : Adapter β σ)
    (layout : Layout) :
    ∃ memory,
      adapter.perform (.allocZeroed layout) =
        { adapter.perform (.alloc layout) with
          heap := (adapter.perform (.alloc layout)).heap.withMemory memory } := by
  simp only [perform, book]
  rw [ProgramHeap.allocZeroed_eq]
  dsimp only
  split
  · exact ⟨(adapter.heap.alloc Engine.outside layout).2.process.memory, rfl⟩
  · exact ⟨_, rfl⟩

end Adapter

variable {β σ : Type} [Backend β]

def ProcessHeap.segments (process : ProcessHeap β) : List Segment :=
  Tier.all.flatMap fun tier => (process.session.engine.tiers.get tier).arena.held

/-- The backends owe their dealings, and no block of the system heap starts in a segment of the
engine. -/
structure ProgramHeap.Sound (heap : ProgramHeap (Recorder β) (Traced σ)) : Prop where
  abiding : Dealing.Abiding heap.process.dealings
  separate : ∀ loan ∈ heap.system.loans, ∀ segment ∈ heap.process.segments,
    ¬segment.span.has loan.addr = true

instance (heap : ProgramHeap (Recorder β) (Traced σ)) : Decidable heap.Sound :=
  decidable_of_iff
    (Dealing.Abiding heap.process.dealings ∧
      ∀ loan ∈ heap.system.loans, ∀ segment ∈ heap.process.segments,
        ¬segment.span.has loan.addr = true)
    ⟨fun ⟨abiding, separate⟩ => ⟨abiding, separate⟩,
      fun sound => ⟨sound.abiding, sound.separate⟩⟩

theorem ProgramHeap.Sound.transport
    {heap after : ProgramHeap (Recorder β) (Traced σ)}
    (sound : heap.Sound)
    (session : after.process.session = heap.process.session)
    (system : after.system = heap.system) :
    after.Sound where
  abiding := by
    rw [ProcessHeap.dealings, session]
    exact sound.abiding
  separate := by
    rw [system, ProcessHeap.segments, session]
    exact sound.separate

namespace ProcessHeap

variable {process : ProcessHeap (Recorder β)} {flight : List Block}

theorem Kept.start_held
    (kept : process.Kept flight)
    {addr : Nat}
    {block : Block}
    (found : process.block? addr = some block) :
    ∃ segment ∈ process.segments, segment.span.has addr = true := by
  have sameAddr := kept.accounted.filed.get?_addr found
  have member := kept.accounted.filed.mem_blocks_iff.mpr (sameAddr ▸ found)
  have rounded := kept.accounted.backed.reserved block (List.mem_append_left flight member)
  have live := kept.live_of_found (sameAddr ▸ found) (Engine.reserve_bounds rounded).1
  rw [Nat.add_zero, sameAddr] at live
  obtain ⟨tier, segment, held, has⟩ := kept.inside live
  exact ⟨segment, List.mem_flatMap.mpr ⟨tier, tier.mem_all, held⟩, has⟩

/-- A call that is not for blocks changes none. -/
theorem table_call
    {call : Call}
    (other : call.task? (process.session.active process.thread) = none ∨ call = .trim) :
    (process.call call).2.session.engine.table = process.session.engine.table := by
  rcases other with unasked | rfl
  · obtain ⟨log, made⟩ := Session.call_of_no_task unasked
    rw [session_call, made]
  · have asked : Call.task? (process.session.active process.thread) .trim = some .trim := rfl
    obtain ⟨change, log, session, ends⟩ := call_ends asked
    rw [session]
    generalize (process.call .trim).1 = reply at *
    cases ends with
    | trimmed =>
        rfl

end ProcessHeap

namespace Adapter

variable {adapter : Adapter β σ}

/-! ## The balance -/

/-- The engine holds the blocks of the loans up to the alignment of a page, and the system heap
has got all orders for larger alignments. -/
structure Balanced (adapter : Adapter β σ) : Prop where
  installed : adapter.heap.process.isInitialized = true
  kept : adapter.heap.process.Kept []
  backs :
    adapter.heap.process.session.engine.table.Backs
      (adapter.loans.filter fun loan => withinPage loan.layout.align)
  passed : adapter.heap.system.orders = adapter.orders.filter fun order => beyondPage order.align
  due : Order.Due adapter.orders

namespace Balanced

theorem system_loans (balanced : adapter.Balanced) :
    adapter.heap.system.loans = adapter.loans.filter fun loan => beyondPage loan.layout.align := by
  rw [Traced.loans, balanced.passed, Order.loans_filter beyondPage]
  rfl

theorem transport
    (balanced : adapter.Balanced)
    {after : Adapter β σ}
    (installed : after.heap.process.isInitialized = true)
    (session : after.heap.process.session = adapter.heap.process.session)
    (system : after.heap.system.orders = adapter.heap.system.orders)
    (orders : after.orders = adapter.orders) :
    after.Balanced where
  installed := installed
  kept := balanced.kept.transport session
  backs := by
    rw [session, Traced.loans, orders]
    exact balanced.backs
  passed := by
    rw [system, orders]
    exact balanced.passed
  due := by
    rw [orders]
    exact balanced.due

/-- An order that the engine has carried out keeps the balance. -/
theorem ofEngine
    (balanced : adapter.Balanced)
    (order : Order)
    (within : withinPage order.align = true)
    (pairs : order.Pairs adapter.loans)
    {process : ProcessHeap (Recorder β)}
    (installed : process.isInitialized = true)
    (kept : process.Kept [])
    (backs :
      process.session.engine.table.Backs
        (order.settle (adapter.loans.filter fun loan => withinPage loan.layout.align))) :
    Balanced ⟨⟨process, adapter.heap.system⟩, order :: adapter.orders⟩ where
  installed := installed
  kept := kept
  backs := by
    rw [Traced.loans, Order.loans, Order.filter_settle_of_kept within]
    exact backs
  passed := by
    have dropped : ¬beyondPage order.align = true := fun beyond =>
      beyondPage_iff.mp beyond within
    rw [List.filter_cons, if_neg dropped]
    exact balanced.passed
  due := ⟨pairs, balanced.due⟩

/-- An order that the system heap has carried out keeps the balance. -/
theorem ofSystem
    (balanced : adapter.Balanced)
    (order : Order)
    (beyond : ¬withinPage order.align = true)
    (pairs : order.Pairs adapter.loans)
    {process : ProcessHeap (Recorder β)}
    {system : Traced σ}
    (slot : process.isInitialized = true)
    (session : process.session = adapter.heap.process.session)
    (orders : system.orders = order :: adapter.heap.system.orders) :
    Balanced ⟨⟨process, system⟩, order :: adapter.orders⟩ where
  installed := slot
  kept := balanced.kept.transport session
  backs := by
    rw [session, Traced.loans, Order.loans, Order.filter_settle_of_dropped beyond]
    exact balanced.backs
  passed := by
    rw [List.filter_cons, if_pos (beyondPage_iff.mpr beyond), orders, balanced.passed]
  due := ⟨pairs, balanced.due⟩

theorem engineBlock?_eq
    (balanced : adapter.Balanced)
    (addr : Nat) :
    adapter.heap.engineBlock? Engine.outside addr = adapter.heap.process.block? addr := by
  obtain ⟨engine, installed⟩ := Option.isSome_iff_exists.mp balanced.installed
  exact adapter.heap.engineBlock?_outside installed addr

variable {loan : Loan}

/-- The engine has a block for a loan up to the alignment of a page. -/
theorem found_of_within
    (balanced : adapter.Balanced)
    (out : loan ∈ adapter.loans)
    (within : withinPage loan.layout.align = true) :
    ∃ block, block.addr = loan.addr ∧
      adapter.heap.process.session.engine.table.get? block.addr = some block ∧
      block.Serves loan.layout := by
  obtain ⟨block, found, serves⟩ :=
    balanced.backs.serves loan (List.mem_filter.mpr ⟨out, within⟩)
  have sameAddr := balanced.kept.accounted.filed.get?_addr found
  exact ⟨block, sameAddr, by rw [sameAddr, found], serves⟩

/-- The engine has no block at the address of a loan of a larger alignment. -/
theorem absent_of_beyond
    (balanced : adapter.Balanced)
    (sound : adapter.heap.Sound)
    (out : loan ∈ adapter.loans)
    (beyond : ¬withinPage loan.layout.align = true) :
    adapter.heap.engineBlock? Engine.outside loan.addr = none := by
  rw [balanced.engineBlock?_eq]
  by_contra present
  obtain ⟨block, found⟩ := Option.ne_none_iff_exists'.mp present
  obtain ⟨segment, held, has⟩ := balanced.kept.start_held found
  have foreign : loan ∈ adapter.heap.system.loans := by
    rw [balanced.system_loans]
    exact List.mem_filter.mpr ⟨out, beyondPage_iff.mpr beyond⟩
  exact sound.separate loan foreign segment held has

section

variable [SystemHeap σ]

theorem alloc
    (balanced : adapter.Balanced)
    (layout : Layout)
    (sound : (adapter.perform (.alloc layout)).heap.Sound) :
    (adapter.perform (.alloc layout)).Balanced := by
  have abiding := sound.abiding
  simp only [perform, book] at abiding ⊢
  by_cases within : withinPage layout.align = true
  · rw [adapter.heap.alloc_of_served (layout.servedByEngine_outside.trans within)] at abiding ⊢
    have asked : Call.task? (adapter.heap.process.session.active adapter.heap.process.thread)
        (.allocateAligned (max layout.size 1) layout.align) =
          some (.allocate _ (max layout.size 1) layout.align) := rfl
    have installed := adapter.heap.process.isInitialized_call
      (.allocateAligned (max layout.size 1) layout.align)
    have ends := balanced.kept.service_ends asked abiding
    refine balanced.ofEngine (.allocate layout _) within trivial installed
      (balanced.kept.call abiding) ?_
    rcases ends.placed_or_refused with
      ⟨refused, table⟩ | ⟨block, served, -, serves, positive, absent, table⟩
    · rw [refused, table]
      exact balanced.backs
    · rw [served, table, Order.settle]
      have nonnull : block.addr ≠ 0 := Nat.ne_of_gt positive
      rw [if_neg (show (Reply.address block.addr).address?.getD 0 ≠ 0 from nonnull)]
      exact balanced.backs.insert absent (serves.shorter (Nat.le_max_left layout.size 1))
  · have bypassed : layout.servedByEngine Engine.outside = false :=
      layout.servedByEngine_outside.trans (Bool.eq_false_of_not_eq_true within)
    rw [adapter.heap.alloc_of_bypassed bypassed]
    exact balanced.ofSystem (.allocate layout _) within trivial balanced.installed rfl rfl

theorem dealloc
    (balanced : adapter.Balanced)
    (sound : adapter.heap.Sound)
    {loan : Loan}
    (out : loan ∈ adapter.loans) :
    (adapter.perform (.dealloc loan)).Balanced := by
  simp only [perform]
  by_cases within : withinPage loan.layout.align = true
  · obtain ⟨block, sameAddr, found, -⟩ := balanced.found_of_within out within
    rw [sameAddr] at found
    have seen := (balanced.engineBlock?_eq loan.addr).trans found
    rw [adapter.heap.dealloc_of_found loan.layout seen]
    refine balanced.ofEngine (.release loan) within out (adapter.heap.process.isInitialized_call _)
      (balanced.kept.preserved_free loan.addr).kept ?_
    rw [ProcessHeap.session_call, Session.table_free]
    have member : loan ∈ adapter.loans.filter fun loan => withinPage loan.layout.align :=
      List.mem_filter.mpr ⟨out, within⟩
    exact (balanced.backs.perm (List.perm_cons_erase member)).remove
  · have absent := balanced.absent_of_beyond sound out within
    rw [adapter.heap.dealloc_of_absent loan.layout absent]
    exact balanced.ofSystem (.release loan) within out balanced.installed rfl rfl

theorem realloc
    (balanced : adapter.Balanced)
    (sound : adapter.heap.Sound)
    {loan : Loan}
    (out : loan ∈ adapter.loans)
    {newSize : Nat}
    (soundAfter : (adapter.perform (.realloc loan newSize)).heap.Sound) :
    (adapter.perform (.realloc loan newSize)).Balanced := by
  have abiding := soundAfter.abiding
  simp only [perform, book] at abiding ⊢
  by_cases within : withinPage loan.layout.align = true
  · obtain ⟨block, sameAddr, found, serves⟩ := balanced.found_of_within out within
    have seen := (balanced.engineBlock?_eq loan.addr).trans (sameAddr ▸ found)
    rw [adapter.heap.realloc_of_found loan.layout newSize seen] at abiding ⊢
    have system := adapter.heap.system_resizeBlock loan.layout block newSize
    have installed := adapter.heap.isInitialized_resizeBlock loan.layout block newSize
    obtain ⟨ends, preserved⟩ :=
      ProgramHeap.resizeEnds_resize balanced.kept found serves.fits abiding
    generalize adapter.heap.resizeBlock block loan.layout newSize = result at *
    obtain ⟨ptr, process, heap⟩ := result
    dsimp only at *
    subst system
    refine balanced.ofEngine (.resize loan newSize _) within out installed preserved.kept ?_
    have member : loan ∈ adapter.loans.filter fun loan => withinPage loan.layout.align :=
      List.mem_filter.mpr ⟨out, within⟩
    have backs := balanced.backs.perm (List.perm_cons_erase member)
    cases ends with
    | inPlace fits table =>
        have nonnull : block.addr ≠ 0 := Nat.ne_of_gt (balanced.kept.addr_pos found)
        rw [Order.settle, if_neg nonnull, table, sameAddr]
        rw [sameAddr] at found
        refine backs.modify found ?_ ⟨serves.aligned, fits⟩
        exact fun _ => rfl
    | refused table =>
        rw [Order.settle, if_pos rfl, table]
        exact balanced.backs
    | moved tier servesNew placed table =>
        have nonnull := Nat.ne_of_gt placed.positive
        -- The new block enters before the old one leaves, so both loans are out in between.
        rw [Order.settle, if_neg nonnull, table, placed.table, sameAddr]
        exact ((backs.insert placed.absent servesNew).perm (.swap _ _ _)).remove
  · have absent := balanced.absent_of_beyond sound out within
    obtain ⟨memory, made⟩ := adapter.heap.realloc_of_absent loan.layout newSize absent
    rw [made]
    exact balanced.ofSystem (.resize loan newSize _) within out balanced.installed
      (ProcessHeap.session_withMemory _ memory) rfl

/-- Each request keeps the balance, if its loan is out and the parts do as they owe. -/
theorem perform
    (balanced : adapter.Balanced)
    (sound : adapter.heap.Sound)
    {request : Request}
    (paired : request.Paired adapter.loans)
    (soundAfter : (adapter.perform request).heap.Sound) :
    (adapter.perform request).Balanced := by
  have call (call : Call)
      (other : call.task? (adapter.heap.process.session.active adapter.heap.process.thread) =
        none ∨ call = .trim)
      (abiding : Dealing.Abiding (adapter.heap.process.call call).2.dealings) :
      (adapter.withProcess (adapter.heap.process.call call).2).Balanced := by
    refine ⟨adapter.heap.process.isInitialized_call call, balanced.kept.call abiding, ?_,
      balanced.passed, balanced.due⟩
    have backs := balanced.backs
    rw [← ProcessHeap.table_call other] at backs
    exact backs
  cases request with
  | alloc layout =>
      exact balanced.alloc layout soundAfter
  | allocZeroed layout =>
      obtain ⟨memory, made⟩ := adapter.perform_allocZeroed layout
      rw [made] at soundAfter ⊢
      have same := ProcessHeap.session_withMemory
        (adapter.perform (.alloc layout)).heap.process memory
      have zeroed := balanced.alloc layout (soundAfter.transport same.symm rfl)
      exact zeroed.transport zeroed.installed same rfl rfl
  | realloc loan newSize =>
      exact balanced.realloc sound paired soundAfter
  | dealloc loan =>
      exact balanced.dealloc sound paired
  | enable =>
      exact call .enable (.inl rfl) soundAfter.abiding
  | select tier =>
      exact call (.setMode tier) (.inl rfl) soundAfter.abiding
  | trim =>
      exact call .trim (.inr rfl) soundAfter.abiding
  | write addr bytes =>
      exact balanced.transport balanced.installed (ProcessHeap.session_withMemory _ _) rfl rfl
  | turn thread errno =>
      exact balanced.transport balanced.installed (ProcessHeap.session_congr rfl rfl rfl) rfl rfl

end

end Balanced

end Adapter

end TierHeap
