import TierHeap.Granularity
import TierHeap.Ordered.NatMap
import TierHeap.Ordered.SizeIndex
import TierHeap.Segment

/-!
# Arenas

An arena is the set of segments a tier holds, with its free ranges.  Free space is kept
twice: by address, to join neighbours, and by size, to find the best fit.  A free range
never spans two segments, so a segment without a block is a single free range.

The arena deals in addresses only.  Sums of addresses and lengths are sums of machine words.
-/

namespace TierHeap

/-- The segments and free ranges of one tier, with its running figures. -/
structure Arena where
  /-- Lengths of the held segments by base. -/
  segments : NatMap Nat
  /-- Lengths of the free ranges by start. -/
  freeByAddr : NatMap Nat
  /-- The free ranges by length. -/
  freeBySize : SizeIndex
  committed : Nat
  peakCommitted : Nat
  inUse : Nat
  live : Nat
  growths : Nat
  /-- The segment of the latest growth. -/
  newest : Option Segment
  capacityFailures : Nat
  releasedSegments : Nat
  deriving DecidableEq, Repr

/-- A free range that can hold a request, and where the request would start. -/
structure Fit where
  addr : Nat
  len : Nat
  start : Nat
  deriving DecidableEq, Repr

namespace Arena

def empty : Arena where
  segments := .empty
  freeByAddr := .empty
  freeBySize := .empty
  committed := 0
  peakCommitted := 0
  inUse := 0
  live := 0
  growths := 0
  newest := none
  capacityFailures := 0
  releasedSegments := 0

instance : Inhabited Arena :=
  ⟨empty⟩

def held (arena : Arena) : List Segment :=
  arena.segments.entries.map fun entry => ⟨entry.1, entry.2⟩

def segmentOf?
    (arena : Arena)
    (addr : Nat) : Option Segment :=
  match arena.segments.atOrBelow? addr with
  | none => none
  | some (base, len) =>
      if (Segment.mk base len).contains addr then some ⟨base, len⟩ else none

def addRange
    (arena : Arena)
    (addr len : Nat) : Arena :=
  { arena with
    freeByAddr := arena.freeByAddr.insert addr len
    freeBySize := arena.freeBySize.insert ⟨len, addr⟩ }

def dropRange
    (arena : Arena)
    (addr len : Nat) : Arena :=
  { arena with
    freeByAddr := arena.freeByAddr.erase addr
    freeBySize := arena.freeBySize.erase ⟨len, addr⟩ }

/-- Join a range that becomes free with the free range that ends where it starts, if both
lie in the same segment. -/
def joinBelow
    (arena : Arena)
    (segment : Segment)
    (addr len : Nat) : Arena × Nat × Nat :=
  match arena.freeByAddr.below? addr with
  | none => (arena, addr, len)
  | some (below, belowLen) =>
      if Word.add below belowLen = addr ∧ segment.base ≤ below then
        (arena.dropRange below belowLen, below, Word.add len belowLen)
      else
        (arena, addr, len)

/-- Join a range that becomes free with the free range that starts where it ends, if both
lie in the same segment. -/
def joinAbove
    (arena : Arena)
    (segment : Segment)
    (addr len : Nat) : Arena × Nat :=
  let next := Word.add addr len
  if next < segment.stop then
    match arena.freeByAddr.find? next with
    | none => (arena, len)
    | some nextLen => (arena.dropRange next nextLen, Word.add len nextLen)
  else
    (arena, len)

/-- Make a range free and join it with its free neighbours in the same segment.  A range
outside every segment is ignored. -/
def insertFree
    (arena : Arena)
    (addr len : Nat) : Arena :=
  match arena.segmentOf? addr with
  | none => arena
  | some segment =>
      let (arena, addr, len) := arena.joinBelow segment addr len
      let (arena, len) := arena.joinAbove segment addr len
      arena.addRange addr len

/-- Where a request would start in a free range, if the range can hold it. -/
def fitIn?
    (reserved align : Nat)
    (range : SizedRange) : Option Fit :=
  match nextMultiple? range.start align with
  | none => none
  | some start =>
      if Word.add (start - range.start) reserved ≤ range.len then
        some ⟨range.start, range.len, start⟩
      else
        none

/-- The first free range in size order that can hold a request. -/
def findFit?
    (arena : Arena)
    (reserved align : Nat) : Option Fit :=
  (arena.freeBySize.atLeast reserved).findSome? (fitIn? reserved align)

/-- Take a request out of the range found for it; what lies before and after stays free. -/
def carveAt
    (arena : Arena)
    (reserved : Nat)
    (fit : Fit) : Arena :=
  let arena := arena.dropRange fit.addr fit.len
  let arena :=
    if fit.addr < fit.start then arena.addRange fit.addr (fit.start - fit.addr) else arena
  let stop := Word.add fit.start reserved
  let tail := Word.sub (Word.add fit.addr fit.len) stop
  let arena := if 0 < tail then arena.addRange stop tail else arena
  { arena with inUse := Word.add arena.inUse reserved, live := arena.live + 1 }

/-- Take a request out of the free space; the result holds its start. -/
def carve?
    (arena : Arena)
    (reserved align : Nat) : Option (Nat × Arena) :=
  (arena.findFit? reserved align).map fun fit => (fit.start, arena.carveAt reserved fit)

def adopt
    (arena : Arena)
    (segment : Segment) : Arena :=
  let committed := Word.add arena.committed segment.len
  let arena :=
    { arena with
      segments := arena.segments.insert segment.base segment.len
      committed := committed
      peakCommitted := max arena.peakCommitted committed
      growths := arena.growths + 1
      newest := some segment }
  arena.addRange segment.base segment.len

def free
    (arena : Arena)
    (addr reserved : Nat) : Arena :=
  { arena with inUse := arena.inUse - reserved, live := arena.live - 1 }.insertFree addr reserved

/-- Resize a carved range without moving it.  Shrinking always succeeds; growing needs the
bytes after the range to be free and in the same segment. -/
def resize?
    (arena : Arena)
    (addr oldReserved newReserved : Nat) : Option Arena :=
  if newReserved = oldReserved then
    some arena
  else if newReserved < oldReserved then
    let released := oldReserved - newReserved
    let arena := { arena with inUse := Word.sub arena.inUse released }
    some (arena.insertFree (Word.add addr newReserved) released)
  else
    let needed := newReserved - oldReserved
    let next := Word.add addr oldReserved
    match arena.segmentOf? addr with
    | none => none
    | some segment =>
        if segment.stop ≤ next then
          none
        else
          match arena.freeByAddr.find? next with
          | none => none
          | some nextLen =>
              if nextLen < needed then
                none
              else
                let arena := arena.dropRange next nextLen
                let arena :=
                  if needed < nextLen then
                    arena.addRange (Word.add next needed) (nextLen - needed)
                  else
                    arena
                some { arena with inUse := Word.add arena.inUse needed }

/-- The segments that are one free range, in address order. -/
def idle (arena : Arena) : List Segment :=
  arena.held.filter fun segment => arena.freeByAddr.find? segment.base == some segment.len

def letGo
    (arena : Arena)
    (segment : Segment) : Arena :=
  let arena := arena.dropRange segment.base segment.len
  { arena with
    segments := arena.segments.erase segment.base
    committed := Word.sub arena.committed segment.len
    releasedSegments := arena.releasedSegments + 1 }

def freeBytes (arena : Arena) : Nat :=
  Word.sum arena.freeByAddr.values

def freeRanges (arena : Arena) : Nat :=
  arena.freeByAddr.size

def largestFreeRange (arena : Arena) : Nat :=
  arena.freeBySize.longest

end Arena

end TierHeap
