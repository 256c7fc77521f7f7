import TierHeap.Proofs.Arena.Tiling

/-!
# Joining free neighbours

A range that becomes free is joined with the free ranges before and after it in the same
segment.  Each join takes the neighbour out of the free space and makes the outstanding range
longer, so the tiling is kept; what remains at either end is clear, and the joined range can
be put back (`Tiled.insertFree`).
-/

namespace TierHeap.Arena

/-- Two arenas that differ in their free ranges only. -/
structure SameFrame (changed arena : Arena) : Prop where
  segments : changed.segments = arena.segments
  committed : changed.committed = arena.committed
  peakCommitted : changed.peakCommitted = arena.peakCommitted
  inUse : changed.inUse = arena.inUse
  live : changed.live = arena.live
  growths : changed.growths = arena.growths
  newest : changed.newest = arena.newest
  capacityFailures : changed.capacityFailures = arena.capacityFailures
  releasedSegments : changed.releasedSegments = arena.releasedSegments

theorem SameFrame.refl (arena : Arena) : arena.SameFrame arena :=
  ⟨rfl, rfl, rfl, rfl, rfl, rfl, rfl, rfl, rfl⟩

theorem SameFrame.trans
    {first second third : Arena}
    (left : first.SameFrame second)
    (right : second.SameFrame third) :
    first.SameFrame third :=
  ⟨left.segments.trans right.segments, left.committed.trans right.committed,
    left.peakCommitted.trans right.peakCommitted, left.inUse.trans right.inUse,
    left.live.trans right.live, left.growths.trans right.growths,
    left.newest.trans right.newest, left.capacityFailures.trans right.capacityFailures,
    left.releasedSegments.trans right.releasedSegments⟩

theorem SameFrame.held_eq
    {changed arena : Arena}
    (same : changed.SameFrame arena) :
    changed.held = arena.held := by
  rw [held, held, same.segments]

theorem sameFrame_dropRange
    (arena : Arena)
    (addr len : Nat) :
    (arena.dropRange addr len).SameFrame arena :=
  ⟨rfl, rfl, rfl, rfl, rfl, rfl, rfl, rfl, rfl⟩

theorem sameFrame_addRange
    (arena : Arena)
    (addr len : Nat) :
    (arena.addRange addr len).SameFrame arena :=
  ⟨rfl, rfl, rfl, rfl, rfl, rfl, rfl, rfl, rfl⟩

theorem sameFrame_joinBelow
    (arena : Arena)
    (segment : Segment)
    (addr len : Nat) :
    (arena.joinBelow segment addr len).1.SameFrame arena := by
  unfold joinBelow
  split
  · exact .refl arena
  · split
    · exact sameFrame_dropRange arena _ _
    · exact .refl arena

theorem sameFrame_joinAbove
    (arena : Arena)
    (segment : Segment)
    (addr len : Nat) :
    (arena.joinAbove segment addr len).1.SameFrame arena := by
  simp only [joinAbove]
  split
  · split
    · exact .refl arena
    · exact sameFrame_dropRange arena _ _
  · exact .refl arena

theorem sameFrame_insertFree
    (arena : Arena)
    (addr len : Nat) :
    (arena.insertFree addr len).SameFrame arena := by
  unfold insertFree
  split
  · exact .refl arena
  · rename_i segment _
    exact
      (sameFrame_addRange _ _ _).trans <|
        (sameFrame_joinAbove _ _ _ _).trans <|
          sameFrame_joinBelow arena segment addr len

/-- The segments do not overlap, and each ends inside the address space. -/
structure Laid (arena : Arena) : Prop where
  apart : arena.heldSpans.Pairwise Span.Apart
  fits : ∀ segment ∈ arena.held, segment.base + segment.len < Word.bound

namespace Laid

variable {arena : Arena} {segment : Segment} {addr : Nat}

theorem segment_stop
    (laid : arena.Laid)
    (member : segment ∈ arena.held) :
    segment.stop = segment.base + segment.len :=
  Word.add_eq (laid.fits segment member)

theorem contains_iff
    (laid : arena.Laid)
    (member : segment ∈ arena.held) :
    segment.contains addr = true ↔ segment.span.has addr = true := by
  rw [Segment.contains, laid.segment_stop member, Span.has_iff, Bool.and_eq_true,
    decide_eq_true_eq, decide_eq_true_eq, Segment.span]

/-- The segment found for an address is the held segment that it lies in. -/
theorem segmentOf?_eq_some_iff (laid : arena.Laid) :
    arena.segmentOf? addr = some segment ↔
      segment ∈ arena.held ∧ segment.span.has addr = true := by
  rw [segmentOf?, NatMap.atOrBelow?_eq_below?]
  constructor
  · intro found
    split at found
    · cases found
    · rename_i base len below
      split at found
      · rename_i inside
        cases found
        have member : (⟨base, len⟩ : Segment) ∈ arena.held :=
          mem_held.mpr ((arena.segments.below?_eq_some_iff _).mp below).1
        exact ⟨member, (laid.contains_iff member).mp inside⟩
      · cases found
  · rintro ⟨member, inside⟩
    have bounds := Span.has_iff.mp inside
    simp only [Segment.span] at bounds
    have below : arena.segments.below? (addr + 1) = some (segment.base, segment.len) := by
      refine (arena.segments.below?_eq_some_iff _).mpr ⟨mem_held.mp member, by omega, ?_⟩
      intro entry entryMember before
      by_contra beyond
      -- A segment that starts between the base and the address would overlap this one.
      have otherMember : (⟨entry.1, entry.2⟩ : Segment) ∈ arena.held :=
        mem_held.mpr (arena.segments.find?_eq_some_iff.mpr entryMember)
      have different : segment.span ≠ Segment.span ⟨entry.1, entry.2⟩ := by
        intro same
        exact beyond (Nat.le_of_eq (congrArg Span.start same).symm)
      have apart :=
        laid.apart.forall (span_mem_heldSpans member) (span_mem_heldSpans otherMember) different
      simp only [Span.Apart, Span.stop, Segment.span] at apart
      omega
    simp only [below, (laid.contains_iff member).mpr inside, if_true]

end Laid

namespace Tiled

variable {arena : Arena} {outstanding : List Span}

theorem laid (tiled : arena.Tiled outstanding) : arena.Laid :=
  ⟨tiled.heldSpans_apart, fun segment member => (tiled.placed segment member).fits⟩

theorem segment_stop
    (tiled : arena.Tiled outstanding)
    {segment : Segment}
    (member : segment ∈ arena.held) :
    segment.stop = segment.base + segment.len :=
  tiled.laid.segment_stop member

/-- The segment found for an address is the held segment that it lies in. -/
theorem segmentOf?_eq_some_iff
    (tiled : arena.Tiled outstanding)
    {addr : Nat}
    {segment : Segment} :
    arena.segmentOf? addr = some segment ↔
      segment ∈ arena.held ∧ segment.span.has addr = true :=
  tiled.laid.segmentOf?_eq_some_iff

theorem exists_segmentOf?
    (tiled : arena.Tiled outstanding)
    {span : Span}
    (holds : arena.Holds span) :
    ∃ segment ∈ arena.held,
      arena.segmentOf? span.start = some segment ∧ span.Within segment.span := by
  obtain ⟨segment, member, within⟩ := holds.inside
  have inside := Span.has_of_within within (Span.has_start _ holds.nonempty)
  exact ⟨segment, member, tiled.segmentOf?_eq_some_iff.mpr ⟨member, inside⟩, within⟩

/-! ## The neighbour below -/

/-- A free range that ends where an outstanding range starts, in another segment, ends where
its segment does. -/
theorem isBase_of_ends_outside
    (tiled : arena.Tiled outstanding)
    {free : Span}
    (freeMember : free ∈ arena.freeSpans)
    {segment : Segment}
    (member : segment ∈ arena.held)
    {addr : Nat}
    (inside : segment.span.has addr = true)
    (ends : free.stop = addr)
    (outside : free.start < segment.base) :
    segment.base = addr := by
  have bounds := Span.has_iff.mp inside
  simp only [Segment.span, Span.stop] at bounds ends
  by_contra different
  -- Otherwise the free range would reach across the base of the segment.
  have inFree : free.has segment.base = true := by
    rw [Span.has_iff]
    omega
  have inSegment : segment.span.has segment.base = true :=
    Span.has_start segment.span (tiled.placed segment member).len_pos
  have within :=
    tiled.within_of_has (tiled.free_inside free freeMember) member inFree inSegment
  have starts := within.1
  simp only [Segment.span] at starts
  omega

/-- The greatest free range below an outstanding one is the only one that can touch it. -/
theorem below?_of_ends
    (tiled : arena.Tiled outstanding)
    {free : Span}
    (freeMember : free ∈ arena.freeSpans)
    {addr : Nat}
    (ends : free.stop = addr) :
    arena.freeByAddr.below? addr = some (free.start, free.len) := by
  have nonempty := (tiled.free_inside free freeMember).nonempty
  simp only [Span.stop] at ends
  refine (arena.freeByAddr.below?_eq_some_iff _).mpr
    ⟨mem_freeSpans.mp freeMember, by omega, ?_⟩
  intro entry entryMember before
  by_contra beyond
  have otherMember : (⟨entry.1, entry.2⟩ : Span) ∈ arena.freeSpans :=
    mem_freeSpans.mpr (arena.freeByAddr.find?_eq_some_iff.mpr entryMember)
  have inOther := Span.has_start _ (tiled.free_inside _ otherMember).nonempty
  have inFree : free.has entry.1 = true := by
    rw [Span.has_iff]
    omega
  have same := tiled.free_eq otherMember freeMember inOther inFree
  subst same
  exact beyond (Nat.le_refl _)

/-- After the join with the neighbour below, the longer range is outstanding in the same
segment and clear below. -/
theorem joinBelow
    {addr len : Nat}
    (tiled : arena.Tiled (⟨addr, len⟩ :: outstanding))
    {segment : Segment}
    (member : segment ∈ arena.held)
    (within : Span.Within ⟨addr, len⟩ segment.span) :
    ∃ joined addr' len',
      arena.joinBelow segment addr len = (joined, addr', len') ∧
        joined.Tiled (⟨addr', len'⟩ :: outstanding) ∧
        Span.Within ⟨addr', len'⟩ segment.span ∧ joined.ClearBelow addr' := by
  have holds := tiled.outstanding_inside _ List.mem_cons_self
  have inside := Span.has_of_within within (Span.has_start _ holds.nonempty)
  rw [Arena.joinBelow]
  cases below : arena.freeByAddr.below? addr with
  | none =>
      refine ⟨arena, addr, len, rfl, tiled, within, ?_⟩
      intro free freeMember ends
      rw [tiled.below?_of_ends freeMember ends] at below
      cases below
  | some entry =>
      obtain ⟨start, belowLen⟩ := entry
      have neighbour := (arena.freeByAddr.below?_eq_some_iff _).mp below
      have freeMember : (⟨start, belowLen⟩ : Span) ∈ arena.freeSpans :=
        mem_freeSpans.mpr neighbour.1
      have freeHolds := tiled.free_inside _ freeMember
      have exact : Word.add start belowLen = start + belowLen :=
        Word.add_eq (tiled.stop_lt freeHolds)
      by_cases touches : Word.add start belowLen = addr ∧ segment.base ≤ start
      · have ends : start + belowLen = addr := exact ▸ touches.1
        subst ends
        have sum : Word.add len belowLen = belowLen + len := by
          rw [Word.add_eq, Nat.add_comm]
          have fits := tiled.stop_lt holds
          simp only at fits
          omega
        have belowWithin : Span.Within ⟨start, belowLen⟩ segment.span := by
          have upper := within.1
          have inner := Span.has_iff.mp inside
          simp only [Segment.span, Span.Within, Span.stop] at *
          omega
        have joinedWithin : Span.Within ⟨start, belowLen + len⟩ segment.span := by
          simp only [Segment.span, Span.Within, Span.stop] at *
          omega
        have taken := tiled.take neighbour.1
        refine ⟨arena.dropRange start belowLen, start, belowLen + len, ?_, ?_, joinedWithin, ?_⟩
        · simp only [touches, and_self, if_true, sum]
        · exact taken.join member belowWithin within
        · intro free keptMember touchesJoined
          have kept := (freeSpans_dropRange_perm neighbour.1).mem_iff.mpr
            (List.mem_cons_of_mem _ keptMember)
          exact tiled.maximal free kept _ freeMember touchesJoined
      · refine ⟨arena, addr, len, by simp only [touches, if_false], tiled, within, ?_⟩
        intro free otherMember ends
        have same := tiled.below?_of_ends otherMember ends
        rw [below, Option.some.injEq, Prod.mk.injEq] at same
        obtain ⟨rfl, rfl⟩ := same
        have outside : free.start < segment.base := by
          by_contra notBefore
          exact touches ⟨exact.trans ends, Nat.le_of_not_lt notBefore⟩
        exact ⟨segment, member,
          tiled.isBase_of_ends_outside otherMember member inside ends outside⟩

/-- A free range that follows an outstanding one in its segment joins it, and nothing free
touches the longer range above. -/
theorem joinNext
    {addr len nextLen : Nat}
    (tiled : arena.Tiled (⟨addr, len⟩ :: outstanding))
    {segment : Segment}
    (member : segment ∈ arena.held)
    (within : Span.Within ⟨addr, len⟩ segment.span)
    (before : addr + len < segment.base + segment.len)
    (found : arena.freeByAddr.find? (addr + len) = some nextLen) :
    (arena.dropRange (addr + len) nextLen).Tiled (⟨addr, len + nextLen⟩ :: outstanding) ∧
      (arena.dropRange (addr + len) nextLen).ClearAbove (addr + (len + nextLen)) := by
  have nextMember : (⟨addr + len, nextLen⟩ : Span) ∈ arena.freeSpans := mem_freeSpans.mpr found
  have nextHolds := tiled.free_inside _ nextMember
  have nextInside : segment.span.has (addr + len) = true := by
    have lower := within.1
    simp only [Segment.span, Span.has_iff] at *
    omega
  have nextWithin :=
    tiled.within_of_has nextHolds member (Span.has_start _ nextHolds.nonempty) nextInside
  have taken := (tiled.take found).perm (.swap _ _ _)
  refine ⟨taken.join member within nextWithin, ?_⟩
  intro free freeMember starts
  have kept : free ∈ arena.freeSpans :=
    (freeSpans_dropRange_perm found).mem_iff.mpr (List.mem_cons_of_mem _ freeMember)
  have touches : (⟨addr + len, nextLen⟩ : Span).stop = free.start := by
    rw [← starts, Span.stop, Nat.add_assoc]
  rw [starts]
  exact tiled.maximal _ nextMember free kept touches

/-- After the join with the neighbour above, the longer range is outstanding in the same
segment and clear at both ends. -/
theorem joinAbove
    {addr len : Nat}
    (tiled : arena.Tiled (⟨addr, len⟩ :: outstanding))
    {segment : Segment}
    (member : segment ∈ arena.held)
    (within : Span.Within ⟨addr, len⟩ segment.span)
    (clearBelow : arena.ClearBelow addr) :
    ∃ joined len',
      arena.joinAbove segment addr len = (joined, len') ∧
        joined.Tiled (⟨addr, len'⟩ :: outstanding) ∧
        joined.ClearBelow addr ∧ joined.ClearAbove (addr + len') := by
  have holds := tiled.outstanding_inside _ List.mem_cons_self
  have next : Word.add addr len = addr + len := Word.add_eq (tiled.stop_lt holds)
  simp only [Arena.joinAbove, next, tiled.segment_stop member]
  by_cases before : addr + len < segment.base + segment.len
  · rw [if_pos before]
    cases found : arena.freeByAddr.find? (addr + len) with
    | none =>
        refine ⟨arena, len, rfl, tiled, clearBelow, ?_⟩
        intro free freeMember starts
        rw [starts, mem_freeSpans.mp freeMember] at found
        cases found
    | some nextLen =>
        obtain ⟨joined, clearAbove⟩ := tiled.joinNext member within before found
        have fits := joined.stop_lt (joined.outstanding_inside _ List.mem_cons_self)
        have sum : Word.add len nextLen = len + nextLen := by
          rw [Word.add_eq]
          exact Nat.lt_of_le_of_lt (Nat.le_add_left _ addr) fits
        refine ⟨arena.dropRange (addr + len) nextLen, len + nextLen, by simp only [sum],
          joined, ?_, clearAbove⟩
        intro free freeMember ends
        have kept : free ∈ arena.freeSpans :=
          (freeSpans_dropRange_perm found).mem_iff.mpr (List.mem_cons_of_mem _ freeMember)
        exact clearBelow free kept ends
  · rw [if_neg before]
    refine ⟨arena, len, rfl, tiled, clearBelow, ?_⟩
    intro free freeMember starts
    have upper := within.2
    simp only [Segment.span, Span.stop] at upper
    have follows : free.start = segment.base + segment.len := by omega
    rw [starts]
    exact tiled.isBase_of_follows (tiled.free_inside free freeMember) member follows

/-- An outstanding range that becomes free leaves the tiling of the others. -/
theorem insertFree
    {addr len : Nat}
    (tiled : arena.Tiled (⟨addr, len⟩ :: outstanding)) :
    (arena.insertFree addr len).Tiled outstanding := by
  obtain ⟨segment, member, found, within⟩ :=
    tiled.exists_segmentOf? (tiled.outstanding_inside _ List.mem_cons_self)
  obtain ⟨below, addr', len', belowEq, belowTiled, belowWithin, clearBelow⟩ :=
    tiled.joinBelow member within
  have belowMember : segment ∈ below.held := by
    have frame := sameFrame_joinBelow arena segment addr len
    rw [belowEq] at frame
    exact frame.held_eq ▸ member
  obtain ⟨above, len'', aboveEq, aboveTiled, stillBelow, clearAbove⟩ :=
    belowTiled.joinAbove belowMember belowWithin clearBelow
  simp only at found
  simp only [Arena.insertFree, found, belowEq, aboveEq]
  exact aboveTiled.put stillBelow clearAbove

end Tiled

end TierHeap.Arena
