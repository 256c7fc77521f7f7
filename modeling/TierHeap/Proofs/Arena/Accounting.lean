import TierHeap.Proofs.Arena.Operations
import TierHeap.Proofs.Word

/-!
# The figures of an arena

An arena is consistent with the ranges that its callers hold when these tile it and its
figures count them.  Every operation keeps that: carving (`Consistent.carveAt`), returning
(`Consistent.free`) and resizing (`Consistent.resize?`) a range, taking a segment in
(`Consistent.adopt`) and letting an idle one go (`Consistent.letGo`).  No sum wraps around,
since the segments share no byte of the address space.
-/

namespace TierHeap.Arena

/-- The ranges that callers hold tile the arena, and its figures count them. -/
structure Consistent
    (arena : Arena)
    (outstanding : List Span) : Prop where
  tiled : arena.Tiled outstanding
  inUse : arena.inUse = Span.total outstanding
  live : arena.live = outstanding.length
  committed : arena.committed = Span.total arena.heldSpans
  peak : arena.committed ≤ arena.peakCommitted
  growths : arena.growths = arena.held.length + arena.releasedSegments

theorem consistent_empty : Consistent .empty [] where
  tiled := tiled_empty
  inUse := rfl
  live := rfl
  committed := rfl
  peak := Nat.le_refl 0
  growths := rfl

namespace Tiled

variable {arena : Arena} {outstanding : List Span}

theorem held_stop_lt
    (tiled : arena.Tiled outstanding)
    {span : Span}
    (member : span ∈ arena.heldSpans) :
    span.start + span.len < Word.bound := by
  obtain ⟨segment, segmentMember, rfl⟩ := List.mem_map.mp member
  exact (tiled.placed segment segmentMember).fits

/-- The segments hold as many bytes as the free and the outstanding ranges together. -/
theorem total_eq (tiled : arena.Tiled outstanding) :
    Span.total arena.freeSpans + Span.total outstanding = Span.total arena.heldSpans := by
  rw [← Span.total_append]
  apply Span.total_eq_of_cover_eq Word.bound
  · intro addr
    rw [Span.cover_append]
    exact tiled.exact_cover addr
  · intro span member
    rcases List.mem_append.mp member with free | held
    · exact Nat.le_of_lt (tiled.stop_lt (tiled.free_inside span free))
    · exact Nat.le_of_lt (tiled.stop_lt (tiled.outstanding_inside span held))
  · intro span member
    exact Nat.le_of_lt (tiled.held_stop_lt member)

theorem total_held_lt (tiled : arena.Tiled outstanding) :
    Span.total arena.heldSpans < Word.bound := by
  have bound : Span.total arena.heldSpans ≤ Word.largest :=
    Span.total_le_of_cover_le_one
      (fun span member => Nat.le_of_lt_succ (tiled.held_stop_lt member)) tiled.single
  simp only [Word.largest, Word.bound] at *
  omega

theorem total_outstanding_lt (tiled : arena.Tiled outstanding) :
    Span.total outstanding < Word.bound := by
  have whole := tiled.total_eq
  have bound := tiled.total_held_lt
  omega

theorem freeBytes_eq (tiled : arena.Tiled outstanding) :
    arena.freeBytes = Span.total arena.freeSpans := by
  have whole := tiled.total_eq
  have bound := tiled.total_held_lt
  have values : arena.freeByAddr.values = arena.freeSpans.map Span.len := by
    rw [freeSpans, NatMap.values, List.map_map]
    rfl
  rw [freeBytes, values, Word.sum_eq]
  · rfl
  · change Span.total arena.freeSpans < Word.bound
    omega

end Tiled

namespace Consistent

variable {arena : Arena} {outstanding : List Span}

theorem perm
    (consistent : arena.Consistent outstanding)
    {reordered : List Span}
    (same : outstanding.Perm reordered) :
    arena.Consistent reordered :=
  { consistent with
    tiled := consistent.tiled.perm same
    inUse := consistent.inUse.trans (Span.total_perm same)
    live := consistent.live.trans same.length_eq }

theorem carveAt
    (consistent : arena.Consistent outstanding)
    {reserved align : Nat}
    (positive : 0 < reserved)
    (wholeGranules : reserved % granule = 0)
    (granuleAligned : granule ∣ align)
    {fit : Fit}
    (fits : arena.FitsIn reserved align fit) :
    (arena.carveAt reserved fit).Consistent (⟨fit.start, reserved⟩ :: outstanding) := by
  have frame := sameFrame_carveAt arena reserved fit
  have tiled := consistent.tiled.carveAt positive wholeGranules granuleAligned fits
  have held : (arena.carveAt reserved fit).held = arena.held := frame.held_eq
  have bound : reserved + Span.total outstanding < Word.bound := tiled.total_outstanding_lt
  refine ⟨tiled, ?_, ?_, ?_, ?_, ?_⟩
  · rw [frame.inUse, consistent.inUse, Word.add_eq (by omega), Span.total_cons, Nat.add_comm]
  · rw [frame.live, consistent.live, List.length_cons]
  · rw [frame.committed, consistent.committed, heldSpans, heldSpans, held]
  · rw [frame.committed, frame.peakCommitted]
    exact consistent.peak
  · rw [frame.growths, frame.releasedSegments, held]
    exact consistent.growths

theorem free
    {addr reserved : Nat}
    (consistent : arena.Consistent (⟨addr, reserved⟩ :: outstanding)) :
    (arena.free addr reserved).Consistent outstanding := by
  have frame := sameFrame_free arena addr reserved
  have held : (arena.free addr reserved).held = arena.held := frame.held_eq
  refine ⟨consistent.tiled.free, ?_, ?_, ?_, ?_, ?_⟩
  · rw [frame.inUse, consistent.inUse, Span.total_cons, Nat.add_sub_cancel_left]
  · rw [frame.live, consistent.live, List.length_cons, Nat.add_sub_cancel]
  · rw [frame.committed, consistent.committed, heldSpans, heldSpans, held]
  · rw [frame.committed, frame.peakCommitted]
    exact consistent.peak
  · rw [frame.growths, frame.releasedSegments, held]
    exact consistent.growths

theorem resize?
    {addr oldReserved newReserved : Nat}
    (consistent : arena.Consistent (⟨addr, oldReserved⟩ :: outstanding))
    (positive : 0 < newReserved)
    (aligned : newReserved % granule = 0)
    {changed : Arena}
    (resized : arena.resize? addr oldReserved newReserved = some changed) :
    changed.Consistent (⟨addr, newReserved⟩ :: outstanding) := by
  have frame := sameFrame_resize? resized
  have tiled := consistent.tiled.resize? positive aligned resized
  have held : changed.held = arena.held := frame.held_eq
  have before := consistent.tiled.total_outstanding_lt
  have after := tiled.total_outstanding_lt
  rw [Span.total_cons] at before after
  refine ⟨tiled, ?_, ?_, ?_, ?_, ?_⟩
  · rw [frame.inUse, consistent.inUse, Span.total_cons, Span.total_cons]
    simp only at before after ⊢
    split
    · omega
    · split
      · rw [Word.sub_eq (by omega) (by omega)]
        omega
      · rw [Word.add_eq (by omega)]
        omega
  · rw [frame.live, consistent.live, List.length_cons, List.length_cons]
  · rw [frame.committed, consistent.committed, heldSpans, heldSpans, held]
  · rw [frame.committed, frame.peakCommitted]
    exact consistent.peak
  · rw [frame.growths, frame.releasedSegments, held]
    exact consistent.growths

theorem committed_adopt
    (consistent : arena.Consistent outstanding)
    {segment : Segment}
    (placed : segment.Placed)
    (apart : ∀ held ∈ arena.held, segment.span.Apart held.span) :
    (arena.adopt segment).committed = arena.committed + segment.len := by
  have bound := (consistent.tiled.adopt placed apart).total_held_lt
  have total : Span.total (arena.adopt segment).heldSpans =
      segment.len + Span.total arena.heldSpans :=
    Span.total_perm ((consistent.tiled.held_adopt_perm placed apart).map Segment.span)
  rw [total, ← consistent.committed, Nat.add_comm] at bound
  exact Word.add_eq bound

theorem adopt
    (consistent : arena.Consistent outstanding)
    {segment : Segment}
    (placed : segment.Placed)
    (apart : ∀ held ∈ arena.held, segment.span.Apart held.span) :
    (arena.adopt segment).Consistent outstanding := by
  have held := consistent.tiled.held_adopt_perm placed apart
  have total : Span.total (arena.adopt segment).heldSpans =
      segment.len + Span.total arena.heldSpans :=
    Span.total_perm (held.map Segment.span)
  refine ⟨consistent.tiled.adopt placed apart, consistent.inUse, consistent.live, ?_, ?_, ?_⟩
  · rw [consistent.committed_adopt placed apart, total, consistent.committed, Nat.add_comm]
  · exact Nat.le_max_right _ _
  · change arena.growths + 1 = _ + arena.releasedSegments
    rw [held.length_eq, List.length_cons, consistent.growths, Nat.add_right_comm]

theorem letGo
    (consistent : arena.Consistent outstanding)
    {segment : Segment}
    (member : segment ∈ arena.held)
    (idle : arena.freeByAddr.find? segment.base = some segment.len) :
    (arena.letGo segment).Consistent outstanding := by
  have held : arena.held.Perm (segment :: (arena.letGo segment).held) :=
    Tiled.held_erase_perm member
  have spans : arena.heldSpans.Perm (segment.span :: (arena.letGo segment).heldSpans) :=
    held.map _
  have total := Span.total_perm spans
  have bound := consistent.tiled.total_held_lt
  have whole := consistent.committed
  rw [total, Span.total_cons] at bound whole
  simp only [Segment.span] at bound whole
  have difference :
      Word.sub arena.committed segment.len = Span.total (arena.letGo segment).heldSpans := by
    rw [Word.sub_eq (by omega) (by omega)]
    omega
  refine ⟨consistent.tiled.letGo member idle, consistent.inUse, consistent.live, difference,
    ?_, ?_⟩
  · have peak := consistent.peak
    change Word.sub arena.committed segment.len ≤ arena.peakCommitted
    omega
  · have growths := consistent.growths
    rw [held.length_eq, List.length_cons] at growths
    change arena.growths = _ + (arena.releasedSegments + 1)
    omega

end Consistent

end TierHeap.Arena
