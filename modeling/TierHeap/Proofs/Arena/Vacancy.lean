import TierHeap.Proofs.Arena.Joining
import TierHeap.Proofs.Ordered.Extensionality

/-!
# Runs of bytes that no caller holds

A run of bytes inside one segment is vacant when no outstanding range has a byte of it.  In a
tiled arena the vacant runs are the parts of free ranges (`Tiled.vacant_iff`), since free ranges
are joined wherever they touch.

So the outstanding ranges and the segments leave no choice of the free ranges: a segment that
two arenas share has the same free ranges in both (`Tiled.mem_freeSpans_of_held`), and two arenas
that differ in their free ranges only are equal (`Tiled.eq_of_sameFrame`).
-/

namespace TierHeap.Arena

/-- The address lies in a free range. -/
def IsFree
    (arena : Arena)
    (addr : Nat) : Prop :=
  ∃ span ∈ arena.freeSpans, span.has addr = true

/-- A run of bytes in one segment, none of which is in an outstanding range. -/
structure Vacant
    (arena : Arena)
    (outstanding : List Span)
    (run : Span) : Prop where
  inside : ∃ segment ∈ arena.held, run.Within segment.span
  unheld : ∀ addr, run.has addr = true → ∀ held ∈ outstanding, ¬held.has addr = true

namespace Tiled

variable {arena : Arena} {outstanding : List Span}

/-- The free bytes are those of the segments that no outstanding range has. -/
theorem isFree_iff
    (tiled : arena.Tiled outstanding)
    {addr : Nat} :
    arena.IsFree addr ↔
      (∃ segment ∈ arena.held, segment.span.has addr = true) ∧
        ∀ held ∈ outstanding, ¬held.has addr = true := by
  constructor
  · rintro ⟨free, member, inFree⟩
    obtain ⟨segment, held, within⟩ := (tiled.free_inside free member).inside
    exact ⟨⟨segment, held, Span.has_of_within within inFree⟩,
      fun span spanMember => tiled.free_not_outstanding member spanMember inFree⟩
  · rintro ⟨⟨segment, held, inSegment⟩, unheld⟩
    have covered := Span.cover_pos_of_mem (span_mem_heldSpans held) inSegment
    have uncovered : Span.cover outstanding addr = 0 := Span.cover_eq_zero unheld
    have whole := tiled.exact_cover addr
    exact List.countP_pos_iff.mp (by omega : 0 < Span.cover arena.freeSpans addr)

/-- A free range that ends inside its segment is not followed by a free byte. -/
theorem not_isFree_stop
    (tiled : arena.Tiled outstanding)
    {free : Span}
    (member : free ∈ arena.freeSpans)
    {segment : Segment}
    (held : segment ∈ arena.held)
    (within : free.Within segment.span)
    (inSegment : segment.span.has free.stop = true) :
    ¬arena.IsFree free.stop := by
  rintro ⟨next, nextMember, inNext⟩
  have nonempty := (tiled.free_inside free member).nonempty
  -- The next free range starts where this one ends: it neither overlaps it nor leaves a gap.
  have touches : free.stop = next.start := by
    by_contra apart
    have common : free.has (free.stop - 1) = true ∧ next.has (free.stop - 1) = true := by
      simp only [Span.has_iff, Span.stop] at *
      omega
    have same := tiled.free_eq member nextMember common.1 common.2
    rw [← same, Span.has_iff, Span.stop] at inNext
    omega
  obtain ⟨other, otherHeld, base⟩ := tiled.maximal free member next nextMember touches
  have inOther := Span.has_start other.span (tiled.placed other otherHeld).len_pos
  rw [show other.span.start = free.stop from base.trans touches.symm] at inOther
  obtain rfl := tiled.segment_eq held otherHeld inSegment inOther
  simp only [Span.Within, Span.stop, Segment.span] at *
  omega

theorem vacant_of_free
    (tiled : arena.Tiled outstanding)
    {free run : Span}
    (member : free ∈ arena.freeSpans)
    (within : run.Within free) :
    arena.Vacant outstanding run := by
  obtain ⟨segment, held, freeWithin⟩ := (tiled.free_inside free member).inside
  exact ⟨⟨segment, held, within.trans freeWithin⟩, fun addr inRun span spanMember =>
    tiled.free_not_outstanding member spanMember (Span.has_of_within within inRun)⟩

theorem not_has_of_has
    {span : Span}
    (tiled : arena.Tiled (span :: outstanding))
    {byte : Nat}
    (inSpan : span.has byte = true) :
    ∀ other ∈ outstanding, ¬other.has byte = true := by
  intro other member inOther
  have once := tiled.tiles_once byte
  have covered := Span.cover_pos_of_mem member inOther
  rw [Span.cover_append, Span.cover_cons, if_pos inSpan] at once
  omega

theorem vacant_of_outstanding
    {span run : Span}
    (tiled : arena.Tiled (span :: outstanding))
    (within : run.Within span) :
    arena.Vacant outstanding run := by
  obtain ⟨segment, held, spanWithin⟩ :=
    (tiled.outstanding_inside span List.mem_cons_self).inside
  exact ⟨⟨segment, held, within.trans spanWithin⟩,
    fun _ inRun => tiled.not_has_of_has (Span.has_of_within within inRun)⟩

/-- The vacant runs are the parts of free ranges. -/
theorem vacant_iff
    (tiled : arena.Tiled outstanding)
    {run : Span}
    (nonempty : 0 < run.len) :
    arena.Vacant outstanding run ↔ ∃ free ∈ arena.freeSpans, run.Within free := by
  constructor
  · rintro ⟨⟨segment, held, within⟩, unheld⟩
    have isFree : ∀ addr, run.has addr = true → arena.IsFree addr := fun addr inRun =>
      tiled.isFree_iff.mpr
        ⟨⟨segment, held, Span.has_of_within within inRun⟩, unheld addr inRun⟩
    obtain ⟨free, member, inFree⟩ := isFree run.start (Span.has_start run nonempty)
    refine ⟨free, member, (Span.has_iff.mp inFree).1, ?_⟩
    -- The free range around the start of the run would otherwise end before the run does.
    by_contra early
    have freeWithin : free.Within segment.span :=
      tiled.within_of_has (tiled.free_inside free member) held inFree
        (Span.has_of_within within (Span.has_start run nonempty))
    have inRun : run.has free.stop = true := by
      simp only [Span.has_iff, Span.stop] at *
      omega
    exact tiled.not_isFree_stop member held freeWithin (Span.has_of_within within inRun)
      (isFree free.stop inRun)
  · rintro ⟨free, member, within⟩
    exact tiled.vacant_of_free member within

/-- A free range of a segment is a free range of every arena that holds the segment, with the
same outstanding ranges. -/
theorem mem_freeSpans_of_held
    {other : Arena}
    (tiled : arena.Tiled outstanding)
    (otherTiled : other.Tiled outstanding)
    {segment : Segment}
    (held : segment ∈ arena.held)
    (otherHeld : segment ∈ other.held)
    {span : Span}
    (member : span ∈ arena.freeSpans)
    (within : span.Within segment.span) :
    span ∈ other.freeSpans := by
  have nonempty := (tiled.free_inside span member).nonempty
  have inSpan := Span.has_start span nonempty
  have vacant := tiled.vacant_of_free member (.refl span)
  obtain ⟨wider, widerMember, spanWithin⟩ :=
    (otherTiled.vacant_iff nonempty).mp ⟨⟨segment, otherHeld, within⟩, vacant.unheld⟩
  -- The free range around it in the other arena lies around it here as well.
  have widerHolds := otherTiled.free_inside wider widerMember
  have widerWithin : wider.Within segment.span :=
    otherTiled.within_of_has widerHolds otherHeld (Span.has_of_within spanWithin inSpan)
      (Span.has_of_within within inSpan)
  have widerVacant := otherTiled.vacant_of_free widerMember (.refl wider)
  obtain ⟨widest, widestMember, widerInWidest⟩ :=
    (tiled.vacant_iff widerHolds.nonempty).mp ⟨⟨segment, held, widerWithin⟩, widerVacant.unheld⟩
  obtain rfl : span = widest :=
    tiled.free_eq member widestMember inSpan
      (Span.has_of_within (spanWithin.trans widerInWidest) inSpan)
  exact spanWithin.antisymm widerInWidest ▸ widerMember

theorem mem_freeSpans_iff_of_held_subset
    {other : Arena}
    (tiled : arena.Tiled outstanding)
    (otherTiled : other.Tiled outstanding)
    (fewer : ∀ segment ∈ other.held, segment ∈ arena.held)
    (span : Span) :
    span ∈ other.freeSpans ↔
      span ∈ arena.freeSpans ∧ ∃ segment ∈ other.held, span.Within segment.span := by
  constructor
  · intro member
    obtain ⟨segment, held, within⟩ := (otherTiled.free_inside span member).inside
    exact ⟨otherTiled.mem_freeSpans_of_held tiled held (fewer segment held) member within,
      segment, held, within⟩
  · rintro ⟨member, segment, held, within⟩
    exact tiled.mem_freeSpans_of_held otherTiled (fewer segment held) held member within

/-- Two arenas with the same outstanding ranges that differ in their free ranges only do not
differ. -/
theorem eq_of_sameFrame
    {other : Arena}
    (tiled : arena.Tiled outstanding)
    (otherTiled : other.Tiled outstanding)
    (frame : other.SameFrame arena) :
    other = arena := by
  have same : ∀ span, span ∈ other.freeSpans ↔ span ∈ arena.freeSpans := fun span => by
    rw [tiled.mem_freeSpans_iff_of_held_subset otherTiled (fun _ held => frame.held_eq ▸ held),
      frame.held_eq]
    exact and_iff_left_of_imp fun member => (tiled.free_inside span member).inside
  have byAddr : other.freeByAddr = arena.freeByAddr := by
    apply NatMap.ext_find?
    intro addr
    apply Option.ext
    intro len
    have found := same ⟨addr, len⟩
    rw [mem_freeSpans, mem_freeSpans] at found
    exact found
  have bySize : other.freeBySize = arena.freeBySize := by
    apply SizeIndex.ext_mem
    rintro ⟨len, start⟩
    exact (otherTiled.indexed ⟨start, len⟩).trans
      ((same ⟨start, len⟩).trans (tiled.indexed ⟨start, len⟩).symm)
  obtain ⟨segments, committed, peak, inUse, live, growths, newest, failures, released⟩ := frame
  cases arena
  cases other
  simp only at *
  subst_vars
  rfl

end Tiled

end TierHeap.Arena
