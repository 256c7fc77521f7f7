import TierHeap.Proofs.Allocator.Lending

/-!
# What a trim hands back

A trim asks its backend to take the idle segments but the lowest one back, one after the other,
until one is refused.  Whatever the backend answers, the committed bytes fall by the lengths of
the segments that it took (`Consistent.trim_ends`).  The trim has a figure, which is then their
sum, only if none was refused; a refusal leaves no figure, whatever was taken back before it.
-/

namespace TierHeap

namespace Arena

theorem mem_held_letGo
    {arena : Arena}
    {segment other : Segment}
    (held : segment ∈ arena.held)
    (otherHeld : other ∈ arena.held)
    (different : other ≠ segment) :
    other ∈ (arena.letGo segment).held := by
  have same : arena.held.Perm (segment :: (arena.letGo segment).held) :=
    Tiled.held_erase_perm held
  exact (List.mem_cons.mp (same.mem_iff.mp otherHeld)).resolve_left different

/-- Segments that are let go one after the other are the ones that the arena holds no more. -/
theorem held_foldl_letGo_perm
    {arena : Arena}
    {returned : List Segment}
    (distinct : returned.Nodup)
    (held : ∀ segment ∈ returned, segment ∈ arena.held) :
    arena.held.Perm (returned ++ (returned.foldl letGo arena).held) := by
  induction returned generalizing arena with
  | nil =>
      exact .refl _
  | cons segment returned inductionHypothesis =>
      obtain ⟨absent, restDistinct⟩ := List.nodup_cons.mp distinct
      have segmentHeld := held segment List.mem_cons_self
      have first : arena.held.Perm (segment :: (arena.letGo segment).held) :=
        Tiled.held_erase_perm segmentHeld
      have restHeld : ∀ other ∈ returned, other ∈ (arena.letGo segment).held :=
        fun other member =>
          mem_held_letGo segmentHeld (held other (List.mem_cons_of_mem _ member))
            fun same => absent (same ▸ member)
      exact first.trans ((inductionHypothesis restDistinct restHeld).cons segment)

theorem mem_held_foldl_letGo_iff
    {arena : Arena}
    {returned : List Segment}
    (distinct : returned.Nodup)
    (held : ∀ segment ∈ returned, segment ∈ arena.held)
    {segment : Segment} :
    segment ∈ (returned.foldl letGo arena).held ↔
      segment ∈ arena.held ∧ segment ∉ returned := by
  have parted := held_foldl_letGo_perm distinct held
  have disjoint := (List.nodup_append.mp (parted.nodup_iff.mp arena.held_nodup)).2.2
  rw [parted.mem_iff, List.mem_append]
  constructor
  · intro kept
    exact ⟨.inr kept, fun gone => disjoint segment gone segment kept rfl⟩
  · rintro ⟨gone | kept, remains⟩
    · exact absurd gone remains
    · exact kept

end Arena

namespace Allocator

variable {β : Type} {allocator : Allocator (Recorder β)}

def handedBack (answers : List (Segment × Bool)) : Nat :=
  Span.total ((takenBack answers).map Segment.span)

theorem handedBack_eq_sum (answers : List (Segment × Bool)) :
    handedBack answers = ((takenBack answers).map Segment.len).sum := by
  rw [handedBack, Span.total, List.map_map]
  rfl

theorem AskedInOrder.takenBack_sublist
    {segments : List Segment}
    {answers : List (Segment × Bool)}
    (asked : AskedInOrder segments answers) :
    (takenBack answers).Sublist segments :=
  (List.filter_sublist.map Prod.fst).trans asked.isPrefix.sublist

/-- How a trim ends, given the segments that the backend was asked about with its answers. -/
structure TrimEnds
    (before after : Allocator (Recorder β))
    (figure : Except BackendError Nat)
    (answers : List (Segment × Bool)) : Prop where
  /-- The backend is asked about the idle segments but the lowest, in address order. -/
  asked : AskedInOrder (before.arena.idle.drop 1) answers
  dealings : after.backend.dealings = Dealing.releases answers ++ before.backend.dealings
  /-- The committed bytes fall by what was taken back. -/
  committed : before.arena.committed = after.arena.committed + handedBack answers
  /-- The figure is what was taken back; after a refusal there is none. -/
  figure : figure.toOption = if Unrefused answers then some (handedBack answers) else none

variable [Backend β]

theorem Consistent.trim_ends
    {outstanding : List Span}
    (consistent : allocator.Consistent outstanding)
    (depth : Nat) :
    ∃ answers, TrimEnds allocator (allocator.trim depth).2 (allocator.trim depth).1 answers := by
  obtain ⟨answers, asked, dealings, arena, figure⟩ := allocator.trim_cases depth
  have returned : (takenBack answers).Sublist allocator.arena.held :=
    (asked.takenBack_sublist.trans (List.drop_sublist 1 _)).trans List.filter_sublist
  have held := Arena.held_foldl_letGo_perm (allocator.arena.held_nodup.sublist returned)
    fun segment member => returned.subset member
  have spans : allocator.arena.heldSpans.Perm
      ((takenBack answers).map Segment.span ++ (allocator.trim depth).2.arena.heldSpans) := by
    have mapped := held.map Segment.span
    rw [List.map_append, ← arena] at mapped
    exact mapped
  have committed : allocator.arena.committed =
      (allocator.trim depth).2.arena.committed + handedBack answers := by
    rw [consistent.arena.committed, (consistent.trim depth).arena.committed,
      Span.total_perm spans, Span.total_append, handedBack, Nat.add_comm]
  -- The segments were held together before, so the sum of their lengths does not wrap around.
  have bound := consistent.arena.tiled.total_held_lt
  rw [← consistent.arena.committed, committed] at bound
  refine ⟨answers, asked, dealings, committed, ?_⟩
  have sum := handedBack_eq_sum answers
  rw [figure, Word.sum_eq (by omega), ← sum]

end Allocator

end TierHeap
