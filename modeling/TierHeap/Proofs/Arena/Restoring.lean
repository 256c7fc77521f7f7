import TierHeap.Proofs.Arena.Accounting
import TierHeap.Proofs.Arena.Vacancy

/-!
# Operations that undo each other

The free ranges and the figures of a consistent arena follow from its segments and its
outstanding ranges.  So operations that bring the outstanding ranges back to what they were
bring the arena back too: returning a range right after it was carved (`Consistent.free_carveAt`),
and shortening one right after it has grown (`Consistent.resize?_of_grown`).
-/

namespace TierHeap.Arena

/-- Two arenas that differ in their free ranges and in what is in use only. -/
structure SameSegments (changed arena : Arena) : Prop where
  segments : changed.segments = arena.segments
  committed : changed.committed = arena.committed
  peakCommitted : changed.peakCommitted = arena.peakCommitted
  growths : changed.growths = arena.growths
  newest : changed.newest = arena.newest
  capacityFailures : changed.capacityFailures = arena.capacityFailures
  releasedSegments : changed.releasedSegments = arena.releasedSegments

theorem SameFrame.sameSegments
    {changed arena : Arena}
    {inUse live : Nat}
    (frame : changed.SameFrame { arena with inUse := inUse, live := live }) :
    changed.SameSegments arena :=
  { frame with }

theorem SameSegments.trans
    {first second third : Arena}
    (left : first.SameSegments second)
    (right : second.SameSegments third) :
    first.SameSegments third :=
  ⟨left.segments.trans right.segments, left.committed.trans right.committed,
    left.peakCommitted.trans right.peakCommitted, left.growths.trans right.growths,
    left.newest.trans right.newest, left.capacityFailures.trans right.capacityFailures,
    left.releasedSegments.trans right.releasedSegments⟩

namespace Consistent

variable {arena : Arena} {outstanding : List Span}

/-- What a consistent arena has in use follows from its outstanding ranges, as do its free
ranges. -/
theorem eq_of_sameSegments
    {other : Arena}
    (consistent : arena.Consistent outstanding)
    (otherConsistent : other.Consistent outstanding)
    (same : other.SameSegments arena) :
    other = arena := by
  apply consistent.tiled.eq_of_sameFrame otherConsistent.tiled
  exact
    { same with
      inUse := otherConsistent.inUse.trans consistent.inUse.symm
      live := otherConsistent.live.trans consistent.live.symm }

theorem free_carveAt
    (consistent : arena.Consistent outstanding)
    {reserved align : Nat}
    (positive : 0 < reserved)
    (wholeGranules : reserved % granule = 0)
    (granuleAligned : granule ∣ align)
    {fit : Fit}
    (fits : arena.FitsIn reserved align fit) :
    (arena.carveAt reserved fit).free fit.start reserved = arena := by
  have carved := consistent.carveAt positive wholeGranules granuleAligned fits
  have taken := (sameFrame_carveAt arena reserved fit).sameSegments
  have returned := (sameFrame_free (arena.carveAt reserved fit) fit.start reserved).sameSegments
  exact consistent.eq_of_sameSegments carved.free (returned.trans taken)

theorem resize?_isSome_of_le
    (arena : Arena)
    (addr : Nat)
    {oldReserved newReserved : Nat}
    (notLonger : newReserved ≤ oldReserved) :
    (arena.resize? addr oldReserved newReserved).isSome = true := by
  unfold Arena.resize?
  split
  · rfl
  · rename_i different
    rw [if_pos (Nat.lt_of_le_of_ne notLonger different)]
    rfl

theorem resize?_of_grown
    {addr oldReserved newReserved : Nat}
    (consistent : arena.Consistent (⟨addr, oldReserved⟩ :: outstanding))
    (longer : oldReserved < newReserved)
    (aligned : newReserved % granule = 0)
    {grown : Arena}
    (resized : arena.resize? addr oldReserved newReserved = some grown) :
    grown.resize? addr newReserved oldReserved = some arena := by
  have holds := consistent.tiled.outstanding_inside _ List.mem_cons_self
  have grownConsistent := consistent.resize? (Nat.zero_lt_of_lt longer) aligned resized
  obtain ⟨back, shortened⟩ :=
    Option.isSome_iff_exists.mp (resize?_isSome_of_le grown addr (Nat.le_of_lt longer))
  have backConsistent := grownConsistent.resize? holds.nonempty holds.len_aligned shortened
  have same := (sameFrame_resize? shortened).sameSegments.trans
    (sameFrame_resize? resized).sameSegments
  rw [shortened, consistent.eq_of_sameSegments backConsistent same]

end Consistent

end TierHeap.Arena
