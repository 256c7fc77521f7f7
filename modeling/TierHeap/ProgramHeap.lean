import TierHeap.Layout
import TierHeap.Ordered.NatMap
import TierHeap.ProcessHeap

/-!
# The heap adapter

The adapter serves the heap requests of a whole program from the process engine.  Requests
made inside the engine, and alignments larger than a page, go to the system heap; a release
or a resize goes to whichever of the two holds the address.
-/

namespace TierHeap

/-- A system heap.  A null address stands for a refused request. -/
class SystemHeap (σ : Type) where
  allocate : σ → Layout → Nat × σ
  release : σ → (addr : Nat) → Layout → σ
  /-- Resize a block; its address may change. -/
  resize : σ → (addr : Nat) → Layout → (newSize : Nat) → Nat × σ

/-- A system heap that never uses an address twice. -/
structure BumpHeap where
  next : Nat
  /-- Requests for more bytes than this are refused. -/
  largest : Nat
  /-- The layouts of the live blocks by address. -/
  live : NatMap Layout
  deriving DecidableEq, Repr

namespace BumpHeap

def startingAt (addr largest : Nat) : BumpHeap :=
  ⟨addr, largest, .empty⟩

def allocate
    (heap : BumpHeap)
    (layout : Layout) : Nat × BumpHeap :=
  if heap.largest < layout.size then
    (0, heap)
  else
    let align := max layout.align granule
    let addr := (heap.next + (align - 1)) / align * align
    (addr,
     { heap with next := addr + layout.size + 1, live := heap.live.insert addr layout })

def release
    (heap : BumpHeap)
    (addr : Nat) : BumpHeap :=
  { heap with live := heap.live.erase addr }

/-- Place a block anew with another size; a refusal leaves it where it is. -/
def resize
    (heap : BumpHeap)
    (addr : Nat)
    (layout : Layout)
    (newSize : Nat) : Nat × BumpHeap :=
  match heap.allocate { layout with size := newSize } with
  | (0, heap) => (0, heap)
  | (fresh, heap) => (fresh, heap.release addr)

instance : SystemHeap BumpHeap where
  allocate := allocate
  release heap addr _ := heap.release addr
  resize := resize

end BumpHeap

structure ProgramHeap (β σ : Type) where
  process : ProcessHeap β
  system : σ

namespace ProgramHeap

variable {β σ : Type} [Backend β] [SystemHeap σ]

/-- Allocate a block; `depth` is the number of engine calls open on the thread. -/
def alloc
    (heap : ProgramHeap β σ)
    (depth : Nat)
    (layout : Layout) : Nat × ProgramHeap β σ :=
  if layout.servedByEngine depth then
    let (reply, process) := heap.process.call (.allocateAligned (max layout.size 1) layout.align)
    (reply.address?.getD 0, { heap with process := process })
  else
    let (addr, system) := SystemHeap.allocate heap.system layout
    (addr, { heap with system := system })

def withMemory
    (heap : ProgramHeap β σ)
    (memory : Memory) : ProgramHeap β σ :=
  { heap with process := { heap.process with memory := memory } }

def allocZeroed
    (heap : ProgramHeap β σ)
    (depth : Nat)
    (layout : Layout) : Nat × ProgramHeap β σ :=
  let (addr, heap) := heap.alloc depth layout
  if addr = 0 then (addr, heap)
  else (addr, heap.withMemory (heap.process.memory.fill addr layout.size 0))

/-- The block of the process engine at an address, as seen outside the engine. -/
def engineBlock?
    (heap : ProgramHeap β σ)
    (depth addr : Nat) : Option Block :=
  if depth = 0 then heap.process.slot.bind fun engine => engine.block? addr else none

def dealloc
    (heap : ProgramHeap β σ)
    (depth addr : Nat)
    (layout : Layout) : ProgramHeap β σ :=
  match heap.engineBlock? depth addr with
  | some _ => { heap with process := (heap.process.call (.free addr)).2 }
  | none => { heap with system := SystemHeap.release heap.system addr layout }

/-- Move a block of the engine to a new one on its own tier. -/
def moveBlock
    (heap : ProgramHeap β σ)
    (block : Block)
    (layout : Layout)
    (newSize : Nat) : Nat × ProgramHeap β σ :=
  let (reply, process) :=
    heap.process.call (.allocateOnAligned block.tier (max newSize 1) layout.align)
  match reply.address? with
  | none => (0, { heap with process := process })
  | some fresh =>
      let memory := process.memory.copy block.addr fresh (min layout.size newSize)
      let (_, process) := { process with memory := memory }.call (.free block.addr)
      (fresh, { heap with process := process })

def resizeBlock
    (heap : ProgramHeap β σ)
    (block : Block)
    (layout : Layout)
    (newSize : Nat) : Nat × ProgramHeap β σ :=
  let (reply, process) := heap.process.call (.resize block.addr (max newSize 1))
  let heap := { heap with process := process }
  if reply = .resized true then (block.addr, heap) else heap.moveBlock block layout newSize

/-- Resize a block where it came from, keeping the bytes that both sizes hold. -/
def realloc
    (heap : ProgramHeap β σ)
    (depth addr : Nat)
    (layout : Layout)
    (newSize : Nat) : Nat × ProgramHeap β σ :=
  match heap.engineBlock? depth addr with
  | some block => heap.resizeBlock block layout newSize
  | none =>
      let (fresh, system) := SystemHeap.resize heap.system addr layout newSize
      let memory :=
        if fresh = 0 then heap.process.memory
        else heap.process.memory.copy addr fresh (min layout.size newSize)
      (fresh, { heap with system := system }.withMemory memory)

/-- The bytes that may be used at the start of a live block, of the engine or of the system
heap. -/
def heldBytes?
    (heap : ProgramHeap β BumpHeap)
    (addr : Nat) : Option Nat :=
  match heap.engineBlock? 0 addr with
  | some block => some block.reserved
  | none => (heap.system.live.find? addr).map Layout.size

end ProgramHeap

end TierHeap
