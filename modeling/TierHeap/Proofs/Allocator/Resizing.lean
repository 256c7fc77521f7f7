import TierHeap.Proofs.Allocator.Reached
import TierHeap.Proofs.Arena.Restoring

/-!
# Resizing in place

A range can always be shortened.  It can be lengthened exactly if the bytes that it would take in
lie in its segment and are in no other outstanding range; the code looks at one free range only,
and that is enough since free ranges are joined wherever they touch (`Tiled.resize?_isSome_iff`).
A range that has grown gives back all that it took when it is shortened again
(`Tenancy.resizes_in_place`).
-/

namespace TierHeap

namespace Arena.Tiled

variable {arena : Arena} {outstanding : List Span}

theorem resize?_isSome_iff_find?
    (tiled : arena.Tiled outstanding)
    {span : Span}
    (member : span ∈ outstanding)
    {segment : Segment}
    (held : segment ∈ arena.held)
    (within : span.Within segment.span)
    {reserved : Nat}
    (longer : span.len < reserved) :
    (arena.resize? span.start span.len reserved).isSome = true ↔
      span.stop < segment.base + segment.len ∧
        ∃ len, arena.freeByAddr.find? span.stop = some len ∧ reserved ≤ span.len + len := by
  have holds := tiled.outstanding_inside span member
  have next : Word.add span.start span.len = span.stop := Word.add_eq (tiled.stop_lt holds)
  have ofStart : arena.segmentOf? span.start = some segment :=
    tiled.segmentOf?_eq_some_iff.mpr
      ⟨held, Span.has_of_within within (Span.has_start span holds.nonempty)⟩
  unfold Arena.resize?
  rw [if_neg (Nat.ne_of_gt longer), if_neg (Nat.lt_asymm longer)]
  simp only [next, ofStart, tiled.segment_stop held]
  by_cases before : span.stop < segment.base + segment.len
  · rw [if_neg (Nat.not_le.mpr before)]
    cases arena.freeByAddr.find? span.stop with
    | none =>
        simp
    | some len =>
        by_cases enough : reserved ≤ span.len + len
        · have room : ¬len < reserved - span.len := by omega
          simp [room, before, enough]
        · have short : len < reserved - span.len := by omega
          simp [short, enough]
  · rw [if_pos (Nat.le_of_not_lt before)]
    simp [before]

/-- A range can grow exactly over bytes of its segment that no caller holds. -/
theorem resize?_isSome_iff
    (tiled : arena.Tiled outstanding)
    {span : Span}
    (member : span ∈ outstanding)
    {reserved : Nat}
    (longer : span.len < reserved) :
    (arena.resize? span.start span.len reserved).isSome = true ↔
      ∃ segment ∈ arena.held, segment.span.has span.start = true ∧
        ∀ byte, span.stop ≤ byte → byte < span.start + reserved →
          segment.span.has byte = true ∧ ∀ held ∈ outstanding, ¬held.has byte = true := by
  have holds := tiled.outstanding_inside span member
  have nonempty := holds.nonempty
  have inSpan := Span.has_start span nonempty
  constructor
  · intro resized
    obtain ⟨segment, held, within⟩ := holds.inside
    obtain ⟨before, len, found, enough⟩ :=
      (tiled.resize?_isSome_iff_find? member held within longer).mp resized
    have free : (⟨span.stop, len⟩ : Span) ∈ arena.freeSpans := mem_freeSpans.mpr found
    have freeHolds := tiled.free_inside _ free
    have inSegment : segment.span.has span.stop = true := by
      simp only [Span.has_iff, Span.Within, Span.stop, Segment.span] at *
      omega
    have freeWithin :=
      tiled.within_of_has freeHolds held (Span.has_start _ freeHolds.nonempty) inSegment
    refine ⟨segment, held, Span.has_of_within within inSpan, fun byte after inside => ?_⟩
    have inFree : (⟨span.stop, len⟩ : Span).has byte = true := by
      simp only [Span.has_iff, Span.stop] at *
      omega
    exact ⟨Span.has_of_within freeWithin inFree,
      fun other otherMember => tiled.free_not_outstanding free otherMember inFree⟩
  · rintro ⟨segment, held, inSegment, unheld⟩
    have within := tiled.within_of_has holds held inSpan inSegment
    have stopAtMost : span.start + reserved ≤ segment.span.stop := by
      have last := (unheld (span.start + reserved - 1) (by simp only [Span.stop]; omega)
        (by omega)).1
      simp only [Span.has_iff, Span.stop] at *
      omega
    have vacant : arena.Vacant outstanding ⟨span.stop, reserved - span.len⟩ := by
      refine ⟨⟨segment, held, ?_⟩, fun byte inRun => ?_⟩
      · simp only [Span.Within, Span.stop] at *
        omega
      · simp only [Span.has_iff, Span.stop] at inRun
        exact (unheld byte (by simp only [Span.stop]; omega) (by omega)).2
    obtain ⟨free, freeMember, runWithin⟩ := (tiled.vacant_iff (by simp only; omega)).mp vacant
    -- The free range around the bytes starts with them, as the byte before is in the range.
    have starts : free.start = span.stop := by
      by_contra different
      have inFree : free.has (span.stop - 1) = true := by
        simp only [Span.has_iff, Span.Within, Span.stop] at *
        omega
      refine tiled.free_not_outstanding freeMember member inFree ?_
      simp only [Span.has_iff, Span.stop]
      omega
    refine (tiled.resize?_isSome_iff_find? member held within longer).mpr
      ⟨?_, free.len, starts ▸ mem_freeSpans.mp freeMember, ?_⟩
    · simp only [Segment.span, Span.stop] at stopAtMost ⊢
      omega
    · simp only [Span.Within, Span.stop] at runWithin starts
      omega

end Arena.Tiled

namespace Tenancy

variable {β : Type}

/-- What a range leaves that was resized in place. -/
structure Resized
    (before after : Tenancy (Recorder β))
    (span : Span)
    (reserved : Nat) : Prop where
  outstanding : after.outstanding = ⟨span.start, reserved⟩ :: before.outstanding.erase span
  books : after.Accounted
  /-- The bytes of the range are free but for those that it has now, and no others change. -/
  free : ∀ byte, after.allocator.arena.IsFree byte ↔
    (before.allocator.arena.IsFree byte ∨ span.has byte = true) ∧
      ¬Span.has ⟨span.start, reserved⟩ byte = true
  segments : after.allocator.arena.held = before.allocator.arena.held
  inUse : after.allocator.stats.inUseBytes + span.len =
    before.allocator.stats.inUseBytes + reserved
  live : after.allocator.stats.liveRanges = before.allocator.stats.liveRanges
  backend : after.allocator.backend = before.allocator.backend

/-- How a range of a caller is resized in place. -/
structure ResizesInPlace
    [Backend β]
    (tenancy : Tenancy (Recorder β))
    (span : Span)
    (reserved : Nat) : Prop where
  shortens : reserved ≤ span.len →
    (tenancy.allocator.resize? span.start span.len reserved).isSome = true
  /-- It grows over bytes of its segment that no caller holds, and over nothing else. -/
  grows : span.len < reserved →
    ((tenancy.allocator.resize? span.start span.len reserved).isSome = true ↔
      ∃ segment ∈ tenancy.allocator.arena.held, segment.span.has span.start = true ∧
        ∀ byte, span.stop ≤ byte → byte < span.start + reserved →
          segment.span.has byte = true ∧
            ∀ held ∈ tenancy.outstanding, ¬held.has byte = true)
  refused : tenancy.allocator.resize? span.start span.len reserved = none →
    ∀ depth, tenancy.step depth (.resize span reserved) = tenancy
  resized : ∀ after, tenancy.allocator.resize? span.start span.len reserved = some after →
    ∀ depth, (tenancy.step depth (.resize span reserved)).allocator = after ∧
      Resized tenancy (tenancy.step depth (.resize span reserved)) span reserved
  /-- A range that has grown gives everything back when it is shortened again. -/
  restores : span.len < reserved →
    ∀ after, tenancy.allocator.resize? span.start span.len reserved = some after →
      after.resize? span.start reserved span.len = some tenancy.allocator

theorem resized_of_resize?
    {tenancy : Tenancy (Recorder β)}
    (consistent : tenancy.allocator.Consistent tenancy.outstanding)
    {span : Span}
    (member : span ∈ tenancy.outstanding)
    {reserved : Nat}
    (positive : 0 < reserved)
    (aligned : reserved % granule = 0)
    {after : Allocator (Recorder β)}
    (resized : tenancy.allocator.resize? span.start span.len reserved = some after) :
    Resized tenancy ⟨after, ⟨span.start, reserved⟩ :: tenancy.outstanding.erase span⟩ span
      reserved := by
  have before := consistent.perm (List.perm_cons_erase member)
  have consistentAfter := before.resize? positive aligned resized
  obtain ⟨arena, found, rfl⟩ := Allocator.resize?_eq_some resized
  have held : arena.held = tenancy.allocator.arena.held := (Arena.sameFrame_resize? found).held_eq
  have live : arena.live = tenancy.allocator.arena.live := (Arena.sameFrame_resize? found).live
  obtain ⟨segment, segmentHeld, within⟩ :=
    (before.arena.tiled.outstanding_inside span List.mem_cons_self).inside
  refine ⟨rfl, accounted_of_consistent consistentAfter.arena, fun byte => ?_, held, ?_, live, rfl⟩
  · have unshared : span.has byte = true →
        ∀ other ∈ tenancy.outstanding.erase span, ¬other.has byte = true :=
      before.arena.tiled.not_has_of_has
    rw [before.arena.tiled.isFree_iff, consistentAfter.arena.tiled.isFree_iff]
    simp only [held, List.forall_mem_cons]
    constructor
    · rintro ⟨inSegment, outside, unheld⟩
      by_cases inSpan : span.has byte = true
      · exact ⟨.inr inSpan, outside⟩
      · exact ⟨.inl ⟨inSegment, inSpan, unheld⟩, outside⟩
    · rintro ⟨⟨inSegment, -, unheld⟩ | inSpan, outside⟩
      · exact ⟨inSegment, outside, unheld⟩
      · exact ⟨⟨segment, segmentHeld, Span.has_of_within within inSpan⟩, outside, unshared inSpan⟩
  · have inUseBefore := before.arena.inUse
    have inUseAfter := consistentAfter.arena.inUse
    rw [Span.total_cons] at inUseBefore inUseAfter
    change arena.inUse + span.len = tenancy.allocator.arena.inUse + reserved
    simp only at inUseBefore inUseAfter
    omega

variable [Backend β]

/-- In every state, every range that a caller holds is resized in place exactly if it is made
shorter or all bytes that it takes in are free ones of its segment. -/
theorem resizes_in_place
    {tenancy : Tenancy (Recorder β)}
    (reached : tenancy.Reached)
    {span : Span}
    (member : span ∈ tenancy.outstanding)
    {reserved : Nat}
    (positive : 0 < reserved)
    (aligned : reserved % granule = 0) :
    ResizesInPlace tenancy span reserved where
  shortens notLonger := by
    rw [Allocator.resize?, Option.isSome_map]
    exact Arena.Consistent.resize?_isSome_of_le _ _ notLonger
  grows longer := by
    rw [Allocator.resize?, Option.isSome_map]
    exact reached.consistent.arena.tiled.resize?_isSome_iff member longer
  refused failed depth := by
    simp only [step, failed]
  resized after succeeded depth := by
    simp only [step, succeeded, true_and]
    exact resized_of_resize? reached.consistent member positive aligned succeeded
  restores longer after succeeded := by
    obtain ⟨arena, found, rfl⟩ := Allocator.resize?_eq_some succeeded
    have consistent := reached.consistent.arena.perm (List.perm_cons_erase member)
    rw [Allocator.resize?, consistent.resize?_of_grown longer aligned found]
    rfl

def oneGap : List Request :=
  [.allocate 512 16, .allocate 256 16, .allocate 3328 16, .free ⟨66048, 256⟩]

def gapped : Tenancy (Recorder SimulatedBackend) :=
  (start .host (Recorder.start (SimulatedBackend.upwards 65536 0 [])) none 4096).run 0 oneGap

/-- The range below the gap grows over all of it, but not by another granule. -/
theorem resizes_in_place_oneGap :
    ResizesInPlace gapped ⟨65536, 512⟩ 768 ∧
      (gapped.allocator.resize? 65536 512 768).isSome = true ∧
      ResizesInPlace gapped ⟨65536, 512⟩ 784 ∧
      (gapped.allocator.resize? 65536 512 784).isSome = false := by
  have reached : gapped.Reached :=
    (Reached.start .host (SimulatedBackend.upwards 65536 0 []) none 4096).run
      (by decide +kernel) (by decide +kernel)
  have member : (⟨65536, 512⟩ : Span) ∈ gapped.outstanding := by
    decide +kernel
  exact
    ⟨resizes_in_place reached member (by decide) (by decide), by decide +kernel,
      resizes_in_place reached member (by decide) (by decide), by decide +kernel⟩

end Tenancy

end TierHeap
