import TierHeap.Engine.Calls
import TierHeap.Proofs.Allocator.Consistency
import TierHeap.Proofs.Backend.Recording

/-!
# Blocks and the tiers that back them

The blocks that an engine has given out are backed when each tier's allocator is consistent
with the ranges of its blocks and every block is as long as its size rounds up to.  The
operations of an allocator keep that; which blocks are in the table and which are on their way
into it or out of it makes no difference here.

The segments of one tier are apart because its arena is consistent; those of different tiers
are apart because the backends owe it (`Abiding`).  Together, no two blocks overlap
(`Backed.pairwise_apart`).
-/

namespace TierHeap

def Block.span (block : Block) : Span :=
  ⟨block.addr, block.reserved⟩

def Block.spansOf
    (tier : Tier)
    (blocks : List Block) : List Span :=
  (blocks.filter fun block => block.tier = tier).map Block.span

/-- The backends of both tiers owe what they have dealt, and neither has lent a segment that
overlaps one of the other. -/
structure Dealing.Abiding (dealings : PerTier (List Dealing)) : Prop where
  honest : ∀ tier, Honest (dealings.get tier)
  apart : ∀ host ∈ lent dealings.host, ∀ cxl ∈ lent dealings.cxl, host.span.Apart cxl.span

instance : DecidablePred Dealing.Abiding := fun dealings =>
  decidable_of_iff
    ((Dealing.Honest dealings.host ∧ Dealing.Honest dealings.cxl) ∧
      ∀ host ∈ Dealing.lent dealings.host, ∀ cxl ∈ Dealing.lent dealings.cxl,
        host.span.Apart cxl.span)
    ⟨fun ⟨⟨host, cxl⟩, apart⟩ => ⟨fun tier => by cases tier <;> assumption, apart⟩,
      fun abiding => ⟨⟨abiding.honest .host, abiding.honest .cxl⟩, abiding.apart⟩⟩

def PerTier.dealings
    {β : Type}
    (tiers : PerTier (Allocator (Recorder β))) : PerTier (List Dealing) :=
  tiers.map fun allocator => allocator.backend.dealings

theorem Dealing.Abiding.honest_tier
    {β : Type}
    {tiers : PerTier (Allocator (Recorder β))}
    (abiding : Abiding tiers.dealings)
    (tier : Tier) :
    Honest (tiers.get tier).backend.dealings := by
  have honest := abiding.honest tier
  rw [PerTier.dealings, PerTier.get_map] at honest
  exact honest

/-- Each allocator accounts for the ranges of its tier, and every block is rounded up. -/
structure Backed
    {β : Type}
    (tiers : PerTier (Allocator (Recorder β)))
    (blocks : List Block) : Prop where
  consistent : ∀ tier, (tiers.get tier).Consistent (Block.spansOf tier blocks)
  reserved : ∀ block ∈ blocks, Engine.reserve block.size = .ok block.reserved

theorem Engine.reserve_eq_ok
    {size reserved : Nat}
    (found : Engine.reserve size = .ok reserved) :
    0 < size ∧ size ≤ largestRequest ∧ granuleAlign? size = some reserved := by
  unfold Engine.reserve at found
  split at found
  · cases found
  · rename_i valid
    split at found
    · rename_i rounded
      cases found
      exact ⟨by omega, by omega, rounded⟩
    · cases found

theorem Engine.reserve_bounds
    {size reserved : Nat}
    (found : Engine.reserve size = .ok reserved) :
    0 < reserved ∧ reserved % granule = 0 ∧ size ≤ reserved := by
  obtain ⟨positive, -, rounded⟩ := Engine.reserve_eq_ok found
  obtain ⟨aligned, large, -, -⟩ := granuleAlign?_bounds rounded
  exact ⟨by omega, aligned, large⟩

theorem Engine.reserveAligned_eq_ok
    {size align reserved : Nat}
    (found : Engine.reserveAligned size align = .ok reserved) :
    isPowerOfTwo align = true ∧ align ≤ pageSize ∧ Engine.reserve size = .ok reserved := by
  unfold Engine.reserveAligned at found
  split at found
  · rename_i valid
    exact ⟨valid.1, valid.2, found⟩
  · cases found

/-- Only the size can be at fault: all sizes in bounds can be rounded up. -/
theorem Engine.reserve_eq_error
    {size : Nat}
    {err : RequestError}
    (failed : Engine.reserve size = .error err) :
    err = .invalidSize size ∧ (size = 0 ∨ largestRequest < size) := by
  unfold Engine.reserve at failed
  split at failed
  · rename_i outOfBounds
    cases failed
    exact ⟨rfl, outOfBounds⟩
  · split at failed
    · cases failed
    · rename_i inBounds unrounded
      have fits : size + (granule - 1) < Word.bound := by
        simp only [largestRequest, granule, Word.bound] at *
        omega
      have rounded : granuleAlign? size = some _ := roundUp?_eq_some_iff.mpr ⟨fits, rfl⟩
      rw [rounded] at unrounded
      cases unrounded

theorem Engine.reserveAligned_eq_error
    {size align : Nat}
    {err : RequestError}
    (failed : Engine.reserveAligned size align = .error err) :
    err = .invalidSize size ∨ err = .invalidAlignment align := by
  unfold Engine.reserveAligned at failed
  split at failed
  · exact .inl (Engine.reserve_eq_error failed).1
  · cases failed
    exact .inr rfl

theorem Engine.reserveAligned_granule (size : Nat) :
    Engine.reserveAligned size granule = Engine.reserve size := by
  rw [Engine.reserveAligned, if_pos (by decide)]

namespace Block

variable {tier : Tier} {block : Block} {blocks : List Block}

theorem spansOf_cons_self
    (block : Block)
    (blocks : List Block) :
    spansOf block.tier (block :: blocks) = block.span :: spansOf block.tier blocks := by
  simp [spansOf]

theorem spansOf_cons_other
    (other : block.tier ≠ tier)
    (blocks : List Block) :
    spansOf tier (block :: blocks) = spansOf tier blocks := by
  simp [spansOf, other]

theorem spansOf_perm
    {reordered : List Block}
    (same : blocks.Perm reordered)
    (tier : Tier) :
    (spansOf tier blocks).Perm (spansOf tier reordered) :=
  (same.filter _).map _

theorem span_mem_spansOf
    (member : block ∈ blocks) :
    block.span ∈ spansOf block.tier blocks :=
  List.mem_map_of_mem (List.mem_filter.mpr ⟨member, by simp⟩)

end Block

namespace Backed

variable {β : Type} {tiers : PerTier (Allocator (Recorder β))} {blocks : List Block}

theorem perm
    (backed : Backed tiers blocks)
    {reordered : List Block}
    (same : blocks.Perm reordered) :
    Backed tiers reordered where
  consistent tier := (backed.consistent tier).perm (Block.spansOf_perm same tier)
  reserved block member := backed.reserved block (same.mem_iff.mpr member)

/-- A change of one tier's allocator leaves the blocks of the other tier alone. -/
theorem set
    (backed : Backed tiers blocks)
    {tier : Tier}
    {after : Allocator (Recorder β)}
    {changed : List Block}
    (consistent : after.Consistent (Block.spansOf tier changed))
    (elsewhere : ∀ other, other ≠ tier →
      Block.spansOf other changed = Block.spansOf other blocks)
    (reserved : ∀ block ∈ changed, Engine.reserve block.size = .ok block.reserved) :
    Backed (tiers.set tier after) changed where
  consistent other := by
    by_cases same : other = tier
    · subst same
      rw [PerTier.get_set_self]
      exact consistent
    · rw [PerTier.get_set_other tiers same, elsewhere other same]
      exact backed.consistent other
  reserved := reserved

/-! ## Operations of the allocators -/

theorem free
    {block : Block}
    (backed : Backed tiers (block :: blocks)) :
    Backed
      (tiers.modify block.tier fun allocator => allocator.free block.addr block.reserved)
      blocks := by
  have consistent := backed.consistent block.tier
  rw [Block.spansOf_cons_self] at consistent
  apply backed.set consistent.free
  · intro other different
    rw [Block.spansOf_cons_other (Ne.symm different)]
  · intro held member
    exact backed.reserved held (List.mem_cons_of_mem _ member)

theorem resize?
    {block : Block}
    (backed : Backed tiers (block :: blocks))
    {newSize newReserved : Nat}
    (rounded : Engine.reserve newSize = .ok newReserved)
    {after : Allocator (Recorder β)}
    (resized : (tiers.get block.tier).resize? block.addr block.reserved newReserved = some after) :
    Backed (tiers.set block.tier after)
      ({ block with size := newSize, reserved := newReserved } :: blocks) := by
  have consistent := backed.consistent block.tier
  rw [Block.spansOf_cons_self] at consistent
  obtain ⟨positive, aligned, -⟩ := Engine.reserve_bounds rounded
  apply backed.set
  · have changed := consistent.resize? positive aligned resized
    have spans := Block.spansOf_cons_self
      { block with size := newSize, reserved := newReserved } blocks
    rw [spans]
    exact changed
  · intro other different
    have otherTier : block.tier ≠ other := Ne.symm different
    rw [Block.spansOf_cons_other otherTier, Block.spansOf_cons_other]
    exact otherTier
  · intro held member
    rcases List.mem_cons.mp member with rfl | old
    · exact rounded
    · exact backed.reserved held (List.mem_cons_of_mem _ old)

section

variable [Backend β]

theorem allocate_ok
    (backed : Backed tiers blocks)
    {tier : Tier}
    {depth size reserved align : Nat}
    (rounded : Engine.reserveAligned size align = .ok reserved)
    {carve : Carve}
    {after : Allocator (Recorder β)}
    (allocated : (tiers.get tier).allocate depth reserved align = (.ok carve, after))
    (honest : Dealing.Honest after.backend.dealings) :
    Backed (tiers.set tier after) (⟨carve.addr, size, carve.reserved, tier⟩ :: blocks) := by
  obtain ⟨power, small, exact⟩ := Engine.reserveAligned_eq_ok rounded
  obtain ⟨positive, aligned, -⟩ := Engine.reserve_bounds exact
  obtain ⟨same, consistent⟩ :=
    (backed.consistent tier).allocate_ok positive aligned power small allocated honest
  apply backed.set
  · rw [Block.spansOf_cons_self ⟨carve.addr, size, carve.reserved, tier⟩]
    exact consistent
  · intro other different
    rw [Block.spansOf_cons_other]
    exact Ne.symm different
  · intro block member
    rcases List.mem_cons.mp member with rfl | old
    · rw [same]
      exact exact
    · exact backed.reserved block old

theorem allocate_error
    (backed : Backed tiers blocks)
    {tier : Tier}
    {depth size reserved align : Nat}
    (rounded : Engine.reserveAligned size align = .ok reserved)
    {err : GrowError}
    {after : Allocator (Recorder β)}
    (allocated : (tiers.get tier).allocate depth reserved align = (.error err, after))
    (honest : Dealing.Honest after.backend.dealings) :
    Backed (tiers.set tier after) blocks := by
  obtain ⟨-, -, exact⟩ := Engine.reserveAligned_eq_ok rounded
  obtain ⟨positive, -, -⟩ := Engine.reserve_bounds exact
  exact backed.set ((backed.consistent tier).allocate_error positive allocated honest)
    (fun _ _ => rfl) backed.reserved

theorem trim
    (backed : Backed tiers blocks)
    (tier : Tier)
    (depth : Nat) :
    Backed (tiers.set tier ((tiers.get tier).trim depth).2) blocks :=
  backed.set ((backed.consistent tier).trim depth) (fun _ _ => rfl) backed.reserved

end

theorem holds
    (backed : Backed tiers blocks)
    {block : Block}
    (member : block ∈ blocks) :
    (tiers.get block.tier).arena.Holds block.span :=
  (backed.consistent block.tier).arena.tiled.outstanding_inside _ (Block.span_mem_spansOf member)

theorem pairwise_apart_tier
    (backed : Backed tiers blocks)
    (tier : Tier) :
    (blocks.filter fun block => block.tier = tier).Pairwise
      fun first second => first.span.Apart second.span := by
  have tiled := (backed.consistent tier).arena.tiled
  refine List.pairwise_map.mp (Span.pairwise_apart_of_cover_le_one ?_ ?_)
  · intro span member
    exact (tiled.outstanding_inside span member).nonempty
  · intro addr
    have once := tiled.tiles_once addr
    rw [Span.cover_append] at once
    exact Nat.le_trans (Nat.le_add_left _ _) once

theorem segments_apart
    (backed : Backed tiers blocks)
    (abiding : Dealing.Abiding tiers.dealings)
    {first second : Tier}
    (different : first ≠ second)
    {firstSegment secondSegment : Segment}
    (firstMember : firstSegment ∈ (tiers.get first).arena.held)
    (secondMember : secondSegment ∈ (tiers.get second).arena.held) :
    firstSegment.span.Apart secondSegment.span := by
  have firstLent := (backed.consistent first).lent.mem_iff.mpr firstMember
  have secondLent := (backed.consistent second).lent.mem_iff.mpr secondMember
  cases first with
  | host =>
      cases second with
      | host =>
          exact absurd rfl different
      | cxl =>
          exact abiding.apart _ firstLent _ secondLent
  | cxl =>
      cases second with
      | host =>
          exact (abiding.apart _ secondLent _ firstLent).symm
      | cxl =>
          exact absurd rfl different

/-- An idle segment shares no address with any block. -/
theorem idle_apart
    (backed : Backed tiers blocks)
    (abiding : Dealing.Abiding tiers.dealings)
    {tier : Tier}
    {segment : Segment}
    (idle : segment ∈ (tiers.get tier).arena.idle)
    {block : Block}
    (member : block ∈ blocks) :
    segment.span.Apart block.span := by
  obtain ⟨held, free⟩ := Arena.mem_idle.mp idle
  by_cases own : block.tier = tier
  · subst own
    have tiled := (backed.consistent block.tier).arena.tiled
    have freeMember : segment.span ∈ (tiers.get block.tier).arena.freeSpans :=
      Arena.mem_freeSpans.mpr free
    have blockMember := Block.span_mem_spansOf member
    have freeNonempty := (tiled.free_inside _ freeMember).nonempty
    have blockNonempty := (tiled.outstanding_inside _ blockMember).nonempty
    by_contra overlap
    obtain ⟨addr, inFree, inBlock⟩ :=
      Span.exists_common_of_not_apart freeNonempty blockNonempty overlap
    exact tiled.free_not_outstanding freeMember blockMember inFree inBlock
  · obtain ⟨other, otherHeld, within⟩ := (backed.holds member).inside
    have apart := backed.segments_apart abiding (Ne.symm own) held otherHeld
    simp only [Span.Apart, Span.Within] at *
    omega

/-- A list is pairwise related if its parts by tier are and if so are blocks of different
tiers. -/
theorem pairwise_of_tiers
    {related : Block → Block → Prop}
    (within : ∀ tier, (blocks.filter fun block => block.tier = tier).Pairwise related)
    (across : ∀ first ∈ blocks, ∀ second ∈ blocks,
      first.tier ≠ second.tier → related first second) :
    blocks.Pairwise related := by
  induction blocks with
  | nil =>
      exact .nil
  | cons block rest inductionHypothesis =>
      refine List.pairwise_cons.mpr ⟨?_, inductionHypothesis ?_ ?_⟩
      · intro other member
        by_cases same : block.tier = other.tier
        · have ofTier := within block.tier
          rw [List.filter_cons_of_pos (by simp)] at ofTier
          refine (List.pairwise_cons.mp ofTier).1 other (List.mem_filter.mpr ⟨member, ?_⟩)
          simp [same]
        · exact across block List.mem_cons_self other (List.mem_cons_of_mem _ member) same
      · intro tier
        exact (within tier).sublist ((List.sublist_cons_self block rest).filter _)
      · intro first firstMember second secondMember
        exact across first (List.mem_cons_of_mem _ firstMember) second
          (List.mem_cons_of_mem _ secondMember)

/-- No two blocks overlap, whatever their tiers. -/
theorem pairwise_apart
    (backed : Backed tiers blocks)
    (abiding : Dealing.Abiding tiers.dealings) :
    blocks.Pairwise fun first second => first.span.Apart second.span := by
  apply pairwise_of_tiers backed.pairwise_apart_tier
  intro first firstMember second secondMember different
  obtain ⟨firstSegment, firstHeld, firstWithin⟩ := (backed.holds firstMember).inside
  obtain ⟨secondSegment, secondHeld, secondWithin⟩ := (backed.holds secondMember).inside
  have apart := backed.segments_apart abiding different firstHeld secondHeld
  simp only [Span.Apart, Span.Within] at *
  omega

end Backed

end TierHeap
