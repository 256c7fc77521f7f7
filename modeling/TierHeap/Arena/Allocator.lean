import TierHeap.Arena.Basic
import TierHeap.Backend.Basic

/-!
# Tier allocators

A tier allocator owns one arena and the backend it grows from.  A request is carved from the
best fitting free range; if there is none, the arena grows by one segment first.  A ceiling
bounds the committed bytes.
-/

namespace TierHeap

/-- A range carved for a request. -/
structure Carve where
  addr : Nat
  reserved : Nat
  /-- A segment was committed for it. -/
  grew : Bool
  deriving DecidableEq, Repr

structure Allocator (β : Type) where
  tier : Tier
  capacity : Option Nat
  /-- The least length of a new segment. -/
  growthUnit : Nat
  backend : β
  arena : Arena

structure ArenaStats where
  tier : Tier
  capacity : Option Nat
  committedBytes : Nat
  peakCommittedBytes : Nat
  segments : Nat
  inUseBytes : Nat
  liveRanges : Nat
  freeBytes : Nat
  freeRanges : Nat
  largestFreeRange : Nat
  growths : Nat
  capacityFailures : Nat
  releasedSegments : Nat
  deriving DecidableEq, Repr

namespace Allocator

variable {β : Type}

/-- An allocator that holds nothing yet.  The segment size is rounded up to whole pages; one
that cannot be rounded falls back to a page. -/
def new
    (tier : Tier)
    (backend : β)
    (capacity : Option Nat)
    (segmentSize : Nat) : Allocator β where
  tier := tier
  capacity := capacity
  growthUnit := (pageAlign? (max segmentSize pageSize)).getD pageSize
  backend := backend
  arena := .empty

def reportedCapacity (allocator : Allocator β) : Nat :=
  allocator.capacity.getD Word.largest

/-- The length of the segment that the arena grows by for so many bytes, if the ceiling
admits one: the growth unit or the request if larger, else as many whole pages as there is
room for, if they hold the request. -/
def growthLength?
    (allocator : Allocator β)
    (minimum : Nat) : Option Nat :=
  let preferred := max minimum allocator.growthUnit
  match allocator.capacity with
  | none => some preferred
  | some capacity =>
      let room := capacity - allocator.arena.committed
      if preferred ≤ room then some preferred
      else if minimum ≤ room then some (pageFloor room)
      else none

def countCapacityFailure (allocator : Allocator β) : Allocator β :=
  { allocator with
    arena :=
      { allocator.arena with capacityFailures := allocator.arena.capacityFailures + 1 } }

def commit
    [Backend β]
    (allocator : Allocator β)
    (depth len : Nat) : Except GrowError Unit × Allocator β :=
  match Backend.commit allocator.backend depth len with
  | (.error err, backend) => (.error (.backend err), { allocator with backend := backend })
  | (.ok segment, backend) =>
      (.ok (), { allocator with backend := backend, arena := allocator.arena.adopt segment })

/-- Grow the arena by one segment that holds so many bytes. -/
def grow
    [Backend β]
    (allocator : Allocator β)
    (depth reserved : Nat) : Except GrowError Unit × Allocator β :=
  match pageAlign? reserved with
  | none =>
      (.error (.capacityExceeded allocator.reportedCapacity allocator.arena.committed reserved),
       allocator)
  | some minimum =>
      match allocator.growthLength? minimum with
      | none =>
          (.error (.capacityExceeded allocator.reportedCapacity allocator.arena.committed minimum),
           allocator.countCapacityFailure)
      | some len => allocator.commit depth len

def carve?
    (allocator : Allocator β)
    (reserved align : Nat) : Option (Nat × Allocator β) :=
  (allocator.arena.carve? reserved align).map fun (addr, arena) =>
    (addr, { allocator with arena := arena })

/-- Carve a request of whole granules with a power-of-two alignment up to a page, growing
the arena by one segment if nothing fits. -/
def allocate
    [Backend β]
    (allocator : Allocator β)
    (depth reserved align : Nat) : Except GrowError Carve × Allocator β :=
  let align := max align granule
  match allocator.carve? reserved align with
  | some (addr, allocator) => (.ok ⟨addr, reserved, false⟩, allocator)
  | none =>
      match allocator.grow depth reserved with
      | (.error err, allocator) => (.error err, allocator)
      | (.ok (), allocator) =>
          match allocator.carve? reserved align with
          | some (addr, allocator) => (.ok ⟨addr, reserved, true⟩, allocator)
          | none =>
              (.error
                (.capacityExceeded allocator.reportedCapacity allocator.arena.committed reserved),
               allocator)

def free
    (allocator : Allocator β)
    (addr reserved : Nat) : Allocator β :=
  { allocator with arena := allocator.arena.free addr reserved }

def resize?
    (allocator : Allocator β)
    (addr oldReserved newReserved : Nat) : Option (Allocator β) :=
  (allocator.arena.resize? addr oldReserved newReserved).map fun arena =>
    { allocator with arena := arena }

/-- Hand segments back to the backend one after the other, until one release fails; the
result holds the bytes handed back. -/
def releaseAll
    [Backend β]
    (depth released : Nat) :
    List Segment → Allocator β → Except BackendError Nat × Allocator β
  | [], allocator => (.ok released, allocator)
  | segment :: rest, allocator =>
      match Backend.release allocator.backend depth segment with
      | (.error err, backend) => (.error err, { allocator with backend := backend })
      | (.ok (), backend) =>
          releaseAll depth (Word.add released segment.len) rest
            { allocator with backend := backend, arena := allocator.arena.letGo segment }

/-- Hand idle segments back to the backend, keeping the lowest one in reserve. -/
def trim
    [Backend β]
    (allocator : Allocator β)
    (depth : Nat) : Except BackendError Nat × Allocator β :=
  releaseAll depth 0 (allocator.arena.idle.drop 1) allocator

/-- Hand every segment back in address order, whatever the backend answers, and give up the
allocator. -/
def close
    [Backend β]
    (allocator : Allocator β)
    (depth : Nat) : β :=
  allocator.arena.held.foldl
    (fun backend segment => (Backend.release backend depth segment).2)
    allocator.backend

def segmentOf?
    (allocator : Allocator β)
    (addr : Nat) : Option Segment :=
  allocator.arena.segmentOf? addr

def contains
    (allocator : Allocator β)
    (addr : Nat) : Bool :=
  (allocator.segmentOf? addr).isSome

def stats (allocator : Allocator β) : ArenaStats where
  tier := allocator.tier
  capacity := allocator.capacity
  committedBytes := allocator.arena.committed
  peakCommittedBytes := allocator.arena.peakCommitted
  segments := allocator.arena.segments.size
  inUseBytes := allocator.arena.inUse
  liveRanges := allocator.arena.live
  freeBytes := allocator.arena.freeBytes
  freeRanges := allocator.arena.freeRanges
  largestFreeRange := allocator.arena.largestFreeRange
  growths := allocator.arena.growths
  capacityFailures := allocator.arena.capacityFailures
  releasedSegments := allocator.arena.releasedSegments

end Allocator

end TierHeap
