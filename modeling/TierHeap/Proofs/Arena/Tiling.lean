import TierHeap.Arena.Basic
import TierHeap.Proofs.Arena.Span
import TierHeap.Proofs.Ordered.Entries

/-!
# The tiling of an arena

An arena is tiled when its free ranges and the ranges that callers hold cover every address
exactly as often as its segments do, which is at most once, and when no two free ranges of
one segment touch.

Every operation on the free space is a sequence of four moves on the tiling: a free range is
taken out and becomes outstanding (`Tiled.take`), an outstanding range is put back
(`Tiled.put`), and outstanding ranges are split (`Tiled.split`) or joined (`Tiled.join`).
Only putting a range back has a condition on its neighbours: none may touch it inside its
segment.  A segment enters the tiling as an outstanding range (`Tiled.extend`) and leaves it
the same way (`Tiled.shrink`).
-/

namespace TierHeap

/-- A segment of whole pages that lies in the address space, clear of address zero. -/
structure Segment.Placed (segment : Segment) : Prop where
  base_pos : 0 < segment.base
  base_aligned : segment.base % pageSize = 0
  len_pos : 0 < segment.len
  len_aligned : segment.len % pageSize = 0
  fits : segment.base + segment.len < Word.bound

namespace Arena

/-- The free ranges in address order. -/
def freeSpans (arena : Arena) : List Span :=
  arena.freeByAddr.entries.map fun entry => ⟨entry.1, entry.2⟩

/-- The held segments as ranges of addresses. -/
def heldSpans (arena : Arena) : List Span :=
  arena.held.map Segment.span

/-- A held segment starts at the address. -/
def IsBase
    (arena : Arena)
    (addr : Nat) : Prop :=
  ∃ segment ∈ arena.held, segment.base = addr

/-- No free range of the segment around an address ends there. -/
def ClearBelow
    (arena : Arena)
    (addr : Nat) : Prop :=
  ∀ span ∈ arena.freeSpans, span.stop = addr → arena.IsBase addr

/-- No free range of the segment that ends at an address or around it starts there. -/
def ClearAbove
    (arena : Arena)
    (addr : Nat) : Prop :=
  ∀ span ∈ arena.freeSpans, addr = span.start → arena.IsBase addr

/-- A nonempty range of whole granules inside one held segment. -/
structure Holds
    (arena : Arena)
    (span : Span) : Prop where
  nonempty : 0 < span.len
  start_aligned : span.start % granule = 0
  len_aligned : span.len % granule = 0
  inside : ∃ segment ∈ arena.held, span.Within segment.span

/-- The segments, the free ranges and the ranges that callers hold fit together. -/
structure Tiled
    (arena : Arena)
    (outstanding : List Span) : Prop where
  /-- No byte is lost and none is counted twice. -/
  exact_cover : ∀ addr,
    Span.cover arena.freeSpans addr + Span.cover outstanding addr =
      Span.cover arena.heldSpans addr
  /-- No two segments overlap. -/
  single : ∀ addr, Span.cover arena.heldSpans addr ≤ 1
  placed : ∀ segment ∈ arena.held, segment.Placed
  free_inside : ∀ span ∈ arena.freeSpans, arena.Holds span
  outstanding_inside : ∀ span ∈ outstanding, arena.Holds span
  /-- Free ranges touch only where a segment starts. -/
  maximal : ∀ first ∈ arena.freeSpans, ∀ second ∈ arena.freeSpans,
    first.stop = second.start → arena.IsBase second.start
  /-- The index by size holds the same ranges. -/
  indexed : ∀ span : Span,
    (⟨span.len, span.start⟩ : SizedRange) ∈ arena.freeBySize.ranges ↔ span ∈ arena.freeSpans

theorem mem_freeSpans
    {arena : Arena}
    {span : Span} :
    span ∈ arena.freeSpans ↔ arena.freeByAddr.find? span.start = some span.len := by
  rw [NatMap.find?_eq_some_iff, freeSpans, List.mem_map]
  constructor
  · rintro ⟨entry, member, rfl⟩
    exact member
  · intro member
    exact ⟨(span.start, span.len), member, rfl⟩

theorem mem_held
    {arena : Arena}
    {segment : Segment} :
    segment ∈ arena.held ↔ arena.segments.find? segment.base = some segment.len := by
  rw [NatMap.find?_eq_some_iff, held, List.mem_map]
  constructor
  · rintro ⟨entry, member, rfl⟩
    exact member
  · intro member
    exact ⟨(segment.base, segment.len), member, rfl⟩

theorem span_mem_heldSpans
    {arena : Arena}
    {segment : Segment}
    (member : segment ∈ arena.held) :
    segment.span ∈ arena.heldSpans :=
  List.mem_map_of_mem member

theorem tiled_empty : Tiled .empty [] where
  exact_cover _ := rfl
  single _ := Nat.zero_le 1
  placed _ member := nomatch member
  free_inside _ member := nomatch member
  outstanding_inside _ member := nomatch member
  maximal _ member := nomatch member
  indexed _ := by simp [empty, freeSpans, NatMap.empty]

namespace Tiled

variable {arena : Arena} {outstanding : List Span}

/-! ## Reading a tiling -/

/-- The figures and the order of the outstanding ranges do not matter. -/
theorem transport
    (tiled : arena.Tiled outstanding)
    {changed : Arena}
    (sameSegments : changed.segments = arena.segments)
    (sameFree : changed.freeByAddr = arena.freeByAddr)
    (sameIndex : changed.freeBySize = arena.freeBySize)
    {reordered : List Span}
    (sameOutstanding : outstanding.Perm reordered) :
    changed.Tiled reordered := by
  obtain ⟨segments, freeByAddr, freeBySize, _⟩ := arena
  obtain ⟨segments', freeByAddr', freeBySize', _⟩ := changed
  obtain rfl : segments' = segments := sameSegments
  obtain rfl : freeByAddr' = freeByAddr := sameFree
  obtain rfl : freeBySize' = freeBySize := sameIndex
  exact
    { exact_cover := fun addr => by
        rw [← Span.cover_perm sameOutstanding addr]
        exact tiled.exact_cover addr
      single := tiled.single
      placed := tiled.placed
      free_inside := fun span member => by
        obtain ⟨nonempty, startAligned, lenAligned, inside⟩ := tiled.free_inside span member
        exact ⟨nonempty, startAligned, lenAligned, inside⟩
      outstanding_inside := fun span member => by
        obtain ⟨nonempty, startAligned, lenAligned, inside⟩ :=
          tiled.outstanding_inside span (sameOutstanding.mem_iff.mpr member)
        exact ⟨nonempty, startAligned, lenAligned, inside⟩
      maximal := tiled.maximal
      indexed := tiled.indexed }

theorem perm
    (tiled : arena.Tiled outstanding)
    {reordered : List Span}
    (same : outstanding.Perm reordered) :
    arena.Tiled reordered :=
  tiled.transport rfl rfl rfl same

theorem tiles_once
    (tiled : arena.Tiled outstanding)
    (addr : Nat) :
    Span.cover (arena.freeSpans ++ outstanding) addr ≤ 1 := by
  rw [Span.cover_append, tiled.exact_cover]
  exact tiled.single addr

theorem free_not_outstanding
    (tiled : arena.Tiled outstanding)
    {free held : Span}
    (freeMember : free ∈ arena.freeSpans)
    (heldMember : held ∈ outstanding)
    {addr : Nat}
    (inFree : free.has addr = true) :
    ¬held.has addr = true := by
  intro inHeld
  have once := tiled.tiles_once addr
  have freeCovered := Span.cover_pos_of_mem freeMember inFree
  have heldCovered := Span.cover_pos_of_mem heldMember inHeld
  rw [Span.cover_append] at once
  omega

theorem free_eq
    (tiled : arena.Tiled outstanding)
    {first second : Span}
    (firstMember : first ∈ arena.freeSpans)
    (secondMember : second ∈ arena.freeSpans)
    {addr : Nat}
    (inFirst : first.has addr = true)
    (inSecond : second.has addr = true) :
    first = second :=
  Span.eq_of_cover_le_one (tiled.tiles_once addr) (List.mem_append_left _ firstMember)
    (List.mem_append_left _ secondMember) inFirst inSecond

theorem segment_eq
    (tiled : arena.Tiled outstanding)
    {first second : Segment}
    (firstMember : first ∈ arena.held)
    (secondMember : second ∈ arena.held)
    {addr : Nat}
    (inFirst : first.span.has addr = true)
    (inSecond : second.span.has addr = true) :
    first = second := by
  have same :=
    Span.eq_of_cover_le_one (tiled.single addr) (span_mem_heldSpans firstMember)
      (span_mem_heldSpans secondMember) inFirst inSecond
  obtain ⟨base, len⟩ := first
  obtain ⟨base', len'⟩ := second
  simpa [Segment.span] using same

theorem heldSpans_apart (tiled : arena.Tiled outstanding) :
    arena.heldSpans.Pairwise Span.Apart := by
  refine Span.pairwise_apart_of_cover_le_one ?_ tiled.single
  intro span member
  obtain ⟨segment, held, rfl⟩ := List.mem_map.mp member
  exact (tiled.placed segment held).len_pos

/-- A held range that shares an address with a segment lies in that segment. -/
theorem within_of_has
    (tiled : arena.Tiled outstanding)
    {span : Span}
    (holds : arena.Holds span)
    {segment : Segment}
    (member : segment ∈ arena.held)
    {addr : Nat}
    (inSpan : span.has addr = true)
    (inSegment : segment.span.has addr = true) :
    span.Within segment.span := by
  obtain ⟨other, otherMember, within⟩ := holds.inside
  have same := tiled.segment_eq member otherMember inSegment (Span.has_of_within within inSpan)
  rw [same]
  exact within

theorem stop_lt
    (tiled : arena.Tiled outstanding)
    {span : Span}
    (holds : arena.Holds span) :
    span.start + span.len < Word.bound := by
  obtain ⟨segment, member, within⟩ := holds.inside
  have fits := (tiled.placed segment member).fits
  simp only [Span.Within, Span.stop, Segment.span] at within
  omega

/-- A range that starts where a segment ends starts a segment of its own. -/
theorem isBase_of_follows
    (tiled : arena.Tiled outstanding)
    {span : Span}
    (holds : arena.Holds span)
    {segment : Segment}
    (member : segment ∈ arena.held)
    (follows : span.start = segment.base + segment.len) :
    arena.IsBase span.start := by
  obtain ⟨other, otherMember, within⟩ := holds.inside
  refine ⟨other, otherMember, ?_⟩
  by_contra later
  have nonempty := holds.nonempty
  have segmentNonempty := (tiled.placed segment member).len_pos
  simp only [Span.Within, Span.stop, Segment.span] at within
  have inOther : other.span.has (segment.base + segment.len - 1) = true := by
    simp only [Span.has_iff, Segment.span]
    omega
  have inSegment : segment.span.has (segment.base + segment.len - 1) = true := by
    simp only [Span.has_iff, Segment.span]
    omega
  have same := tiled.segment_eq otherMember member inOther inSegment
  subst same
  omega

theorem freeSpans_dropRange_perm
    {addr len : Nat}
    (found : arena.freeByAddr.find? addr = some len) :
    arena.freeSpans.Perm (⟨addr, len⟩ :: (arena.dropRange addr len).freeSpans) :=
  (NatMap.entries_erase_perm found).map _

theorem freeSpans_addRange_perm
    {addr : Nat}
    (absent : arena.freeByAddr.find? addr = none)
    (len : Nat) :
    (arena.addRange addr len).freeSpans.Perm (⟨addr, len⟩ :: arena.freeSpans) :=
  (NatMap.entries_insert_perm absent len).map _

/-- Take a free range out: it becomes outstanding. -/
theorem take
    (tiled : arena.Tiled outstanding)
    {addr len : Nat}
    (found : arena.freeByAddr.find? addr = some len) :
    (arena.dropRange addr len).Tiled (⟨addr, len⟩ :: outstanding) := by
  have free := freeSpans_dropRange_perm found
  have taken : (⟨addr, len⟩ : Span) ∈ arena.freeSpans := mem_freeSpans.mpr found
  have kept : ∀ span ∈ (arena.dropRange addr len).freeSpans, span ∈ arena.freeSpans :=
    fun span member => free.mem_iff.mpr (List.mem_cons_of_mem _ member)
  have holds : ∀ span, arena.Holds span → (arena.dropRange addr len).Holds span :=
    fun span held => ⟨held.nonempty, held.start_aligned, held.len_aligned, held.inside⟩
  refine
    { exact_cover := fun tested => ?_
      single := tiled.single
      placed := tiled.placed
      free_inside := fun span member => holds span (tiled.free_inside span (kept span member))
      outstanding_inside := fun span member => ?_
      maximal := fun first firstMember second secondMember touches =>
        tiled.maximal first (kept first firstMember) second (kept second secondMember) touches
      indexed := fun span => ?_ }
  · have before := tiled.exact_cover tested
    rw [Span.cover_perm free, Span.cover_cons] at before
    rw [Span.cover_cons, ← Nat.add_assoc, Nat.add_right_comm]
    exact before
  · rcases List.mem_cons.mp member with rfl | later
    · exact holds _ (tiled.free_inside _ taken)
    · exact holds span (tiled.outstanding_inside span later)
  · have before := tiled.indexed span
    rw [mem_freeSpans] at before ⊢
    simp only [dropRange, SizeIndex.mem_erase, NatMap.find?_erase, before]
    by_cases same : span.start = addr
    · rw [same, found]
      simp [eq_comm]
    · simp [same]

/-- Put an outstanding range back that no free range of its segment touches. -/
theorem put
    {addr len : Nat}
    (tiled : arena.Tiled (⟨addr, len⟩ :: outstanding))
    (clearBelow : arena.ClearBelow addr)
    (clearAbove : arena.ClearAbove (addr + len)) :
    (arena.addRange addr len).Tiled outstanding := by
  have holdsPut : arena.Holds ⟨addr, len⟩ := tiled.outstanding_inside _ List.mem_cons_self
  have absent : arena.freeByAddr.find? addr = none := by
    by_contra present
    obtain ⟨other, found⟩ := Option.ne_none_iff_exists'.mp present
    have member : (⟨addr, other⟩ : Span) ∈ arena.freeSpans := mem_freeSpans.mpr found
    have inFree := Span.has_start _ (tiled.free_inside _ member).nonempty
    exact tiled.free_not_outstanding member List.mem_cons_self inFree
      (Span.has_start _ holdsPut.nonempty)
  have free := freeSpans_addRange_perm absent len
  have holds : ∀ span, arena.Holds span → (arena.addRange addr len).Holds span :=
    fun span held => ⟨held.nonempty, held.start_aligned, held.len_aligned, held.inside⟩
  refine
    { exact_cover := fun tested => ?_
      single := tiled.single
      placed := tiled.placed
      free_inside := fun span member => ?_
      outstanding_inside := fun span member =>
        holds span (tiled.outstanding_inside span (List.mem_cons_of_mem _ member))
      maximal := fun first firstMember second secondMember touches => ?_
      indexed := fun span => ?_ }
  · have before := tiled.exact_cover tested
    rw [Span.cover_cons] at before
    rw [Span.cover_perm free, Span.cover_cons, Nat.add_right_comm, Nat.add_assoc]
    exact before
  · rcases List.mem_cons.mp (free.mem_iff.mp member) with rfl | earlier
    · exact holds _ holdsPut
    · exact holds span (tiled.free_inside span earlier)
  · have nonempty := holdsPut.nonempty
    rcases List.mem_cons.mp (free.mem_iff.mp firstMember) with rfl | firstEarlier <;>
      rcases List.mem_cons.mp (free.mem_iff.mp secondMember) with rfl | secondEarlier
    · simp only [Span.stop] at touches nonempty
      omega
    · exact touches ▸ clearAbove second secondEarlier touches
    · exact clearBelow first firstEarlier touches
    · exact tiled.maximal first firstEarlier second secondEarlier touches
  · have before := tiled.indexed span
    rw [mem_freeSpans] at before ⊢
    simp only [addRange, SizeIndex.mem_insert, NatMap.find?_insert, before, SizedRange.mk.injEq]
    by_cases same : span.start = addr
    · rw [same, absent]
      simp [eq_comm]
    · simp [same]

theorem split
    {start first second : Nat}
    (tiled : arena.Tiled (⟨start, first + second⟩ :: outstanding))
    (firstNonempty : 0 < first)
    (secondNonempty : 0 < second)
    (aligned : first % granule = 0) :
    arena.Tiled (⟨start, first⟩ :: ⟨start + first, second⟩ :: outstanding) := by
  have whole := tiled.outstanding_inside _ List.mem_cons_self
  obtain ⟨segment, member, within⟩ := whole.inside
  have startAligned := whole.start_aligned
  have lenAligned := whole.len_aligned
  simp only [Span.Within, Span.stop, granule] at within startAligned lenAligned aligned
  refine
    { tiled with
      exact_cover := fun addr => ?_
      outstanding_inside := fun span spanMember => ?_ }
  · rw [Span.cover_split]
    exact tiled.exact_cover addr
  · rcases List.mem_cons.mp spanMember with rfl | later
    · refine ⟨firstNonempty, startAligned, aligned, segment, member, ?_⟩
      simp only [Span.Within, Span.stop]
      omega
    · rcases List.mem_cons.mp later with rfl | rest
      · refine ⟨secondNonempty, ?_, ?_, segment, member, ?_⟩
        · simp only [granule]
          omega
        · simp only [granule]
          omega
        · simp only [Span.Within, Span.stop]
          omega
      · exact tiled.outstanding_inside span (List.mem_cons_of_mem _ rest)

/-- Join two outstanding ranges that follow each other in one segment. -/
theorem join
    {start first second : Nat}
    (tiled : arena.Tiled (⟨start, first⟩ :: ⟨start + first, second⟩ :: outstanding))
    {segment : Segment}
    (member : segment ∈ arena.held)
    (firstWithin : Span.Within ⟨start, first⟩ segment.span)
    (secondWithin : Span.Within ⟨start + first, second⟩ segment.span) :
    arena.Tiled (⟨start, first + second⟩ :: outstanding) := by
  have firstHolds := tiled.outstanding_inside _ List.mem_cons_self
  have secondHolds :=
    tiled.outstanding_inside _ (List.mem_cons_of_mem _ List.mem_cons_self)
  refine
    { tiled with
      exact_cover := fun addr => ?_
      outstanding_inside := fun span spanMember => ?_ }
  · rw [← Span.cover_split]
    exact tiled.exact_cover addr
  · rcases List.mem_cons.mp spanMember with rfl | later
    · have firstNonempty := firstHolds.nonempty
      have firstAligned := firstHolds.len_aligned
      have secondAligned := secondHolds.len_aligned
      simp only [Span.Within, Span.stop] at *
      refine ⟨?_, firstHolds.start_aligned, ?_, segment, member, ?_⟩
      · simp only
        omega
      · simp only [granule] at *
        omega
      · simp only [Span.Within, Span.stop]
        omega
    · exact
        tiled.outstanding_inside span
          (List.mem_cons_of_mem _ (List.mem_cons_of_mem _ later))

end Tiled

end Arena

end TierHeap
