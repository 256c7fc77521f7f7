import TierHeap.Word

/-!
# Segments

A segment is a contiguous range of addresses that a backend has committed.
-/

namespace TierHeap

structure Segment where
  base : Nat
  len : Nat
  deriving DecidableEq, Repr, Inhabited

namespace Segment

def stop (segment : Segment) : Nat :=
  Word.add segment.base segment.len

def isEmpty (segment : Segment) : Bool :=
  segment.len == 0

def contains
    (segment : Segment)
    (addr : Nat) : Bool :=
  segment.base ≤ addr && addr < segment.stop

end Segment

end TierHeap
