import TierHeap.Proofs.Arena.Operations
import TierHeap.Proofs.Arena.Vacancy

/-!
# Idle segments

A segment is idle when it is a single free range.  In a tiled arena these are the segments
that no outstanding range lies in (`Tiled.mem_idle_iff`), since the free ranges of a segment
are joined wherever they touch.  Letting idle segments go one after the other leaves the
others idle, in the same order (`idle_foldl_letGo`).
-/

namespace TierHeap.Arena

theorem held_ascending (arena : Arena) :
    arena.held.Pairwise fun first second => first.base < second.base :=
  List.pairwise_map.mpr arena.segments.ascending

theorem idle_ascending (arena : Arena) :
    arena.idle.Pairwise fun first second => first.base < second.base :=
  arena.held_ascending.filter _

theorem idle_nodup (arena : Arena) : arena.idle.Nodup :=
  arena.held_nodup.sublist List.filter_sublist

theorem mem_idle_drop_one_iff
    {arena : Arena}
    {segment : Segment} :
    segment ∈ arena.idle.drop 1 ↔
      segment ∈ arena.idle ∧ ∃ lower ∈ arena.idle, lower.base < segment.base := by
  have ascending := arena.idle_ascending
  cases whole : arena.idle with
  | nil =>
      simp
  | cons first rest =>
      rw [whole, List.pairwise_cons] at ascending
      rw [List.drop_one, List.tail_cons]
      constructor
      · intro member
        exact ⟨List.mem_cons_of_mem first member, first, List.mem_cons_self,
          ascending.1 segment member⟩
      · rintro ⟨member, lower, lowerMember, below⟩
        -- The first idle segment has none below it.
        rcases List.mem_cons.mp member with rfl | later
        · rcases List.mem_cons.mp lowerMember with rfl | above
          · exact absurd below (Nat.lt_irrefl _)
          · exact absurd below (Nat.lt_asymm (ascending.1 lower above))
        · exact later

theorem idle_letGo
    (arena : Arena)
    (segment : Segment) :
    (arena.letGo segment).idle = arena.idle.filter fun other => other.base != segment.base := by
  have held :
      (arena.letGo segment).held =
        arena.held.filter fun other => other.base != segment.base := by
    rw [Arena.held, Arena.held, List.filter_map]
    rfl
  rw [idle, idle, held, List.filter_filter, List.filter_filter]
  apply List.filter_congr
  intro other _
  change ((arena.freeByAddr.erase segment.base).find? other.base == some other.len &&
      other.base != segment.base) = _
  rw [NatMap.find?_erase]
  by_cases same : other.base = segment.base
  · simp [same]
  · simp [same, Bool.and_comm]

/-- Letting the idle segments after the first go, up to one of them, leaves the first and those
from that one on. -/
theorem idle_foldl_letGo
    {arena : Arena}
    {first : Segment}
    {returned rest : List Segment}
    (whole : arena.idle = first :: (returned ++ rest)) :
    (returned.foldl letGo arena).idle = first :: rest := by
  induction returned generalizing arena with
  | nil =>
      exact whole
  | cons segment returned inductionHypothesis =>
      apply inductionHypothesis
      have ascending := arena.idle_ascending
      rw [whole, List.cons_append, List.pairwise_cons, List.pairwise_cons] at ascending
      obtain ⟨firstBelow, segmentBelow, -⟩ := ascending
      have firstOther : (first.base != segment.base) = true := by
        simpa using Nat.ne_of_lt (firstBelow segment List.mem_cons_self)
      have laterOther : ∀ other ∈ returned ++ rest, (other.base != segment.base) = true := by
        intro other member
        simpa using Nat.ne_of_gt (segmentBelow other member)
      rw [idle_letGo, whole, List.cons_append, List.filter_cons, if_pos firstOther,
        List.filter_cons, if_neg (by simp), List.filter_eq_self.mpr laterOther]

namespace Tiled

variable {arena : Arena} {outstanding : List Span}

theorem free_of_apart
    (tiled : arena.Tiled outstanding)
    {segment : Segment}
    (held : segment ∈ arena.held)
    (apart : ∀ span ∈ outstanding, segment.span.Apart span) :
    segment.span ∈ arena.freeSpans := by
  have inSegment := Span.has_start segment.span (tiled.placed segment held).len_pos
  have vacant : arena.Vacant outstanding segment.span :=
    ⟨⟨segment, held, .refl _⟩, fun addr inside span member =>
      Span.not_has_of_apart (apart span member) inside⟩
  obtain ⟨free, member, within⟩ :=
    (tiled.vacant_iff (tiled.placed segment held).len_pos).mp vacant
  have freeWithin : free.Within segment.span :=
    tiled.within_of_has (tiled.free_inside free member) held
      (Span.has_of_within within inSegment) inSegment
  exact within.antisymm freeWithin ▸ member

theorem apart_iff_not_within
    (tiled : arena.Tiled outstanding)
    {segment : Segment}
    (held : segment ∈ arena.held)
    {span : Span}
    (member : span ∈ outstanding) :
    segment.span.Apart span ↔ ¬span.Within segment.span := by
  have holds := tiled.outstanding_inside span member
  constructor
  · intro apart within
    have inSpan := Span.has_start span holds.nonempty
    exact Span.not_has_of_apart apart (Span.has_of_within within inSpan) inSpan
  · intro outside
    by_contra overlap
    obtain ⟨addr, inSegment, inSpan⟩ :=
      Span.exists_common_of_not_apart (tiled.placed segment held).len_pos holds.nonempty overlap
    exact outside (tiled.within_of_has holds held inSpan inSegment)

/-- The idle segments are those that no outstanding range lies in. -/
theorem mem_idle_iff
    (tiled : arena.Tiled outstanding)
    {segment : Segment} :
    segment ∈ arena.idle ↔
      segment ∈ arena.held ∧ ∀ span ∈ outstanding, segment.span.Apart span := by
  rw [mem_idle]
  constructor
  · rintro ⟨held, idle⟩
    refine ⟨held, fun span member => (tiled.apart_iff_not_within held member).mpr ?_⟩
    intro within
    have free : segment.span ∈ arena.freeSpans := mem_freeSpans.mpr idle
    have inSpan := Span.has_start span (tiled.outstanding_inside span member).nonempty
    exact tiled.free_not_outstanding free member (Span.has_of_within within inSpan) inSpan
  · rintro ⟨held, apart⟩
    exact ⟨held, mem_freeSpans.mp (tiled.free_of_apart held apart)⟩

end Tiled

end TierHeap.Arena
