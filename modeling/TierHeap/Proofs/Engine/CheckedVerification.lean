import TierHeap.Proofs.Allocator.Checked
import TierHeap.Proofs.Engine.Verification

/-!
# Verification whose sums are checked

Verification adds up where blocks and segments end, the bytes of the blocks of each tier, and the
free bytes that the figures of a tier show.  Its checked form gives up where such a sum is no
machine word; for an engine whose books are kept, it never does, whatever is in flight.
-/

namespace TierHeap

namespace BlockTally

def countChecked?
    (tally : BlockTally)
    (block : Block) : Option BlockTally := do
  let blocks ← Word.addChecked? tally.blocks 1
  let requested ← Word.addChecked? tally.requestedBytes block.size
  let reserved ← Word.addChecked? tally.reservedBytes block.reserved
  some ⟨blocks, requested, reserved⟩

/-- Blocks that are still to be counted can be, since of those counted there are no more, and
no more was asked for by them, than bytes are set aside for them. -/
structure Room
    (tally : BlockTally)
    (rest : List Block) : Prop where
  blocks : tally.blocks ≤ tally.reservedBytes
  requested : tally.requestedBytes ≤ tally.reservedBytes
  reserved : tally.reservedBytes + (rest.map Block.reserved).sum < Word.bound

theorem Room.count
    {tally : BlockTally}
    {block : Block}
    {rest : List Block}
    (room : tally.Room (block :: rest))
    (positive : 0 < block.reserved)
    (rounded : block.size ≤ block.reserved) :
    tally.countChecked? block = some (tally.count block) ∧ (tally.count block).Room rest := by
  obtain ⟨blocks, requested, reserved⟩ := room
  rw [List.map_cons, List.sum_cons] at reserved
  have blocksFit : tally.blocks + 1 < Word.bound := by omega
  have requestedFits : tally.requestedBytes + block.size < Word.bound := by omega
  have reservedFits : tally.reservedBytes + block.reserved < Word.bound := by omega
  constructor
  · simp only [countChecked?, BlockTally.count, Word.addChecked?_of_lt blocksFit,
      Word.addChecked?_of_lt requestedFits, Word.addChecked?_of_lt reservedFits,
      Word.add_eq requestedFits, Word.add_eq reservedFits, Option.bind_eq_bind, Option.bind_some]
  · refine ⟨?_, ?_, ?_⟩ <;>
      simp only [BlockTally.count, Word.add_eq requestedFits, Word.add_eq reservedFits] <;> omega

end BlockTally

def Allocator.statsChecked?
    {β : Type}
    (allocator : Allocator β) : Option ArenaStats :=
  allocator.arena.freeBytesChecked?.map fun freeBytes =>
    { allocator.stats with freeBytes := freeBytes }

namespace Engine

variable {β : Type}

def insideArenaChecked?
    (engine : Engine β)
    (block : Block) : Option Bool := do
  match ← (engine.tiers.get block.tier).arena.segmentOfChecked? block.addr with
  | none => some false
  | some segment => do
      let stop ← Word.addChecked? block.addr block.reserved
      let segmentStop ← segment.stopChecked?
      some (decide (stop ≤ segmentStop))

def overlappingChecked?
    (previous : Option Block)
    (block : Block) : Option (Option Block) :=
  match previous with
  | none => some none
  | some held => do
      let stop ← Word.addChecked? held.addr held.reserved
      some (if block.addr < stop then some held else none)

def verifyBlocksChecked?
    (engine : Engine β) :
    Option Block → PerTier BlockTally → List Block →
      Option (Except InvariantViolation (PerTier BlockTally))
  | _, tallies, [] => some (.ok tallies)
  | previous, tallies, block :: rest => do
      match ← overlappingChecked? previous block with
      | some held => some (.error (.overlap held.addr block.addr))
      | none =>
          match ← engine.insideArenaChecked? block with
          | true => do
              let tally ← (tallies.get block.tier).countChecked? block
              engine.verifyBlocksChecked? (some block) (tallies.set block.tier tally) rest
          | false => some (.error (.outsideArena block.addr block.tier))

def verifyTierChecked?
    (engine : Engine β)
    (tallies : PerTier BlockTally)
    (tier : Tier) : Option (Except InvariantViolation Unit) := do
  let stats ← (engine.tiers.get tier).statsChecked?
  let tally := tallies.get tier
  if tally.reservedBytes ≠ stats.inUseBytes then
    some (.error (.bytesMismatch tier tally.reservedBytes stats.inUseBytes))
  else if tally.blocks ≠ stats.liveRanges then
    some (.error (.countMismatch tier tally.blocks stats.liveRanges))
  else
    some (.ok ())

def verifyChecked? (engine : Engine β) : Option (Except InvariantViolation Unit) := do
  match ← engine.verifyBlocksChecked? none (.both .zero) engine.table.snapshot with
  | .error violation => some (.error violation)
  | .ok tallies =>
      match ← engine.verifyTierChecked? tallies .host with
      | .error violation => some (.error violation)
      | .ok () => engine.verifyTierChecked? tallies .cxl

theorem overlappingChecked?_eq
    {previous : Option Block}
    (fits : ∀ held ∈ previous, held.addr + held.reserved < Word.bound)
    (block : Block) :
    overlappingChecked? previous block =
      some (previous.filter fun held => block.addr < Word.add held.addr held.reserved) := by
  cases previous with
  | none =>
      rfl
  | some held =>
      have heldFits := fits held rfl
      simp only [overlappingChecked?, Word.addChecked?_of_lt heldFits, Word.add_eq heldFits,
        Option.bind_eq_bind, Option.bind_some, Option.filter_some, decide_eq_true_eq]

theorem insideArenaChecked?_eq
    {engine : Engine β}
    {block : Block}
    (laid : (engine.tiers.get block.tier).arena.Laid)
    (fits : block.addr + block.reserved < Word.bound) :
    engine.insideArenaChecked? block = some (engine.insideArena block) := by
  simp only [insideArenaChecked?, insideArena, Allocator.segmentOf?, laid.segmentOfChecked?_eq,
    Option.bind_eq_bind, Option.bind_some]
  cases found : (engine.tiers.get block.tier).arena.segmentOf? block.addr with
  | none =>
      rfl
  | some segment =>
      have member := (laid.segmentOf?_eq_some_iff.mp found).1
      simp only [Word.addChecked?_of_lt fits, Word.add_eq fits, laid.stopChecked?_eq member,
        Option.bind_some]

theorem verifyBlocksChecked?_eq
    {engine : Engine β}
    (laid : ∀ tier, (engine.tiers.get tier).arena.Laid)
    {blocks : List Block}
    (fits : ∀ block ∈ blocks, block.addr + block.reserved < Word.bound)
    (positive : ∀ block ∈ blocks, 0 < block.reserved)
    (rounded : ∀ block ∈ blocks, block.size ≤ block.reserved)
    {previous : Option Block}
    (previousFits : ∀ held ∈ previous, held.addr + held.reserved < Word.bound)
    {tallies : PerTier BlockTally}
    (room : ∀ tier, (tallies.get tier).Room (blocks.filter fun block => block.tier = tier)) :
    engine.verifyBlocksChecked? previous tallies blocks =
      some (engine.verifyBlocks previous tallies blocks) := by
  induction blocks generalizing previous tallies with
  | nil =>
      rfl
  | cons block rest inductionHypothesis =>
      obtain ⟨blockFits, restFit⟩ := List.forall_mem_cons.mp fits
      obtain ⟨blockPositive, restPositive⟩ := List.forall_mem_cons.mp positive
      obtain ⟨blockRounded, restRounded⟩ := List.forall_mem_cons.mp rounded
      have own := room block.tier
      rw [List.filter_cons_of_pos (by simp)] at own
      obtain ⟨counted, ownRoom⟩ := own.count blockPositive blockRounded
      have nextRoom : ∀ tier,
          ((tallies.modify block.tier (·.count block)).get tier).Room
            (rest.filter fun block => block.tier = tier) := by
        intro tier
        by_cases same : block.tier = tier
        · subst same
          rw [PerTier.modify, PerTier.get_set_self]
          exact ownRoom
        · have other := room tier
          rw [List.filter_cons_of_neg (by simpa)] at other
          rw [PerTier.modify, PerTier.get_set_other _ (Ne.symm same)]
          exact other
      have heldFits : ∀ held ∈ some block, held.addr + held.reserved < Word.bound := by
        simpa using blockFits
      have next := inductionHypothesis restFit restPositive restRounded heldFits nextRoom
      rw [verifyBlocksChecked?, verifyBlocks, overlappingChecked?_eq previousFits]
      cases previous.filter fun held => block.addr < Word.add held.addr held.reserved with
      | some held =>
          rfl
      | none =>
          simp only [Option.bind_eq_bind, Option.bind_some,
            insideArenaChecked?_eq (laid block.tier) blockFits]
          cases engine.insideArena block with
          | false =>
              rfl
          | true =>
              simp only [counted, Option.bind_some]
              exact next

namespace Accounted

variable {engine : Engine (Recorder β)} {flight : List Block}

/-- The blocks of one tier in the table fit in the address space together. -/
theorem reservedOf_lt
    (accounted : engine.Accounted flight)
    (tier : Tier) :
    engine.reservedOf tier < Word.bound := by
  have bound := (accounted.backed.consistent tier).arena.tiled.total_outstanding_lt
  rw [Block.total_spansOf, List.filter_append, List.map_append, List.sum_append] at bound
  exact Nat.lt_of_le_of_lt (Nat.le_add_right _ _) bound

theorem verifyTierChecked?_eq
    (accounted : engine.Accounted flight)
    (tallies : PerTier BlockTally)
    (tier : Tier) :
    engine.verifyTierChecked? tallies tier = some (engine.verifyTier tallies tier) := by
  have stats : (engine.tiers.get tier).statsChecked? = some (engine.tierStats tier) := by
    rw [Allocator.statsChecked?, (accounted.backed.consistent tier).arena.freeBytesChecked?_eq]
    rfl
  simp only [verifyTierChecked?, verifyTier, stats, Option.bind_eq_bind, Option.bind_some]
  split
  · rfl
  · split <;> rfl

theorem verifyChecked?_eq (accounted : engine.Accounted flight) :
    engine.verifyChecked? = some engine.verify := by
  have measurable := accounted.measurable
  have permutation := snapshot_perm engine.table
  have member {block : Block} (listed : block ∈ engine.table.snapshot) :
      block ∈ engine.table.blocks := permutation.mem_iff.mp listed
  have rounded : ∀ block ∈ engine.table.snapshot, block.size ≤ block.reserved := by
    intro block listed
    have inBooks := List.mem_append_left flight (member listed)
    exact (reserve_bounds (accounted.backed.reserved block inBooks)).2.2
  have room : ∀ tier, ((PerTier.both BlockTally.zero).get tier).Room
      (engine.table.snapshot.filter fun block => block.tier = tier) := by
    intro tier
    have zero : (PerTier.both BlockTally.zero).get tier = .zero := by cases tier <;> rfl
    have total :
        ((engine.table.snapshot.filter fun block => block.tier = tier).map Block.reserved).sum =
          engine.reservedOf tier :=
      ((permutation.filter _).map Block.reserved).sum_eq
    rw [zero]
    refine ⟨Nat.le_refl 0, Nat.le_refl 0, ?_⟩
    rw [total]
    exact (Nat.zero_add _).symm ▸ accounted.reservedOf_lt tier
  have nothing : ∀ held ∈ (none : Option Block), held.addr + held.reserved < Word.bound := by
    simp
  have blocks :=
    verifyBlocksChecked?_eq measurable.laid
      (fun block listed => measurable.fits block (member listed))
      (fun block listed => measurable.positive block (member listed)) rounded
      nothing room
  simp only [verifyChecked?, Engine.verify, blocks, Option.bind_eq_bind, Option.bind_some]
  cases engine.verifyBlocks none (.both .zero) engine.table.snapshot with
  | error violation =>
      rfl
  | ok tallies =>
      simp only [accounted.verifyTierChecked?_eq, Option.bind_some]
      cases engine.verifyTier tallies .host <;> rfl

end Accounted

end Engine

end TierHeap
