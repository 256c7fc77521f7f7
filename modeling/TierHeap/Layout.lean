import TierHeap.Granularity

/-!
# Layouts of heap requests

A request to the heap adapter names a size and an alignment.  The engine serves it unless
the calling thread is already inside the engine, or the alignment is larger than a page;
those requests go to the system heap.
-/

namespace TierHeap

/-- The size and alignment of a heap block. -/
structure Layout where
  size : Nat
  align : Nat
  deriving DecidableEq, Repr, Inhabited

/-- The engine serves the layout for a caller with so many engine calls open. -/
def Layout.servedByEngine
    (layout : Layout)
    (depth : Nat) : Bool :=
  layout.align ≤ pageSize && depth == 0

end TierHeap
