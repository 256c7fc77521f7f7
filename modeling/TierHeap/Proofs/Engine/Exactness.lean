import TierHeap.Engine.Queries
import TierHeap.Proofs.Arena.Joining
import TierHeap.Proofs.Engine.Backing

/-!
# Verification is exact

The check of an engine compares each block with the one before it in address order only, and with
the one segment that it finds for the block's address.  That is enough: whatever the table and the
tiers hold, it passes just those engines whose blocks do not overlap, lie in segments of their
tiers and add up to the figures of the tiers, and what it reports of another engine is so
(`verify_exact`).  The engine need not have come about by calls; all that is asked for is that
ranges can be compared (`Measurable`).
-/

namespace TierHeap

namespace BlockTally

theorem foldl_count
    (blocks : List Block)
    (tally : BlockTally) :
    blocks.foldl count tally =
      ⟨tally.blocks + blocks.length,
        (blocks.map Block.size).foldl Word.add tally.requestedBytes,
        (blocks.map Block.reserved).foldl Word.add tally.reservedBytes⟩ := by
  induction blocks generalizing tally with
  | nil =>
      rfl
  | cons block rest inductionHypothesis =>
      rw [List.foldl_cons, inductionHypothesis, List.length_cons, Nat.add_comm rest.length 1,
        ← Nat.add_assoc]
      rfl

/-- Blocks counted for their tiers, in the order they come. -/
def countAll
    (tallies : PerTier BlockTally)
    (blocks : List Block) : PerTier BlockTally :=
  blocks.foldl (fun tallies block => tallies.modify block.tier (·.count block)) tallies

theorem get_countAll
    (tier : Tier)
    (blocks : List Block)
    (tallies : PerTier BlockTally) :
    (countAll tallies blocks).get tier =
      (blocks.filter fun block => block.tier = tier).foldl count (tallies.get tier) := by
  rw [countAll]
  induction blocks generalizing tallies with
  | nil =>
      rfl
  | cons block rest inductionHypothesis =>
      rw [List.foldl_cons, inductionHypothesis]
      by_cases same : block.tier = tier
      · subst same
        rw [PerTier.modify, PerTier.get_set_self, List.filter_cons_of_pos (by simp),
          List.foldl_cons]
      · have other : tier ≠ block.tier := Ne.symm same
        rw [PerTier.modify, PerTier.get_set_other _ other, List.filter_cons_of_neg (by simpa)]

end BlockTally

theorem Block.total_spansOf
    (tier : Tier)
    (blocks : List Block) :
    Span.total (Block.spansOf tier blocks) =
      ((blocks.filter fun block => block.tier = tier).map Block.reserved).sum := by
  rw [Span.total, Block.spansOf, List.map_map]
  rfl

namespace Engine

variable {β : Type} {engine : Engine β}

/-- Every block has a byte, the segments of a tier do not overlap, and no block and no segment
reaches beyond the address space.  Nothing is said about how table and tiers go together. -/
structure Measurable (engine : Engine β) : Prop where
  positive : ∀ block ∈ engine.table.blocks, 0 < block.reserved
  fits : ∀ block ∈ engine.table.blocks, block.addr + block.reserved < Word.bound
  laid : ∀ tier, (engine.tiers.get tier).arena.Laid

/-- The block starts in a segment of its tier and ends no later than that segment. -/
def Houses
    (engine : Engine β)
    (block : Block) : Prop :=
  ∃ segment ∈ (engine.tiers.get block.tier).arena.held,
    segment.span.has block.addr = true ∧ block.addr + block.reserved ≤ segment.span.stop

def blocksOf
    (engine : Engine β)
    (tier : Tier) : List Block :=
  engine.table.blocks.filter fun block => block.tier = tier

def reservedOf
    (engine : Engine β)
    (tier : Tier) : Nat :=
  ((engine.blocksOf tier).map Block.reserved).sum

/-- Table and tiers agree. -/
structure Coherent (engine : Engine β) : Prop where
  apart : engine.table.blocks.Pairwise fun first second => first.span.Apart second.span
  housed : ∀ block ∈ engine.table.blocks, engine.Houses block
  bytes : ∀ tier, engine.reservedOf tier = (engine.tierStats tier).inUseBytes
  count : ∀ tier, (engine.blocksOf tier).length = (engine.tierStats tier).liveRanges

/-- A violation is as it is reported. -/
def Suffers (engine : Engine β) : InvariantViolation → Prop
  | .overlap first second =>
      ∃ held block, List.Subperm [held, block] engine.table.blocks ∧
        held.addr = first ∧ block.addr = second ∧
          ∃ addr, held.span.has addr = true ∧ block.span.has addr = true
  | .outsideArena addr tier =>
      ∃ block ∈ engine.table.blocks, block.addr = addr ∧ block.tier = tier ∧
        ¬engine.Houses block
  | .bytesMismatch tier table arena =>
      table = engine.reservedOf tier ∧ arena = (engine.tierStats tier).inUseBytes ∧ table ≠ arena
  | .countMismatch tier table arena =>
      table = (engine.blocksOf tier).length ∧ arena = (engine.tierStats tier).liveRanges ∧
        table ≠ arena

theorem snapshot_perm (table : BlockTable) : table.snapshot.Perm table.blocks :=
  List.mergeSort_perm _ _

theorem snapshot_sorted (table : BlockTable) :
    table.snapshot.Pairwise fun first second => first.addr ≤ second.addr := by
  have sorted : table.snapshot.Pairwise
      fun first second => decide (first.addr ≤ second.addr) = true :=
    List.pairwise_mergeSort (fun first second third => by simpa using Nat.le_trans)
      (fun first second => by simpa using Nat.le_total first.addr second.addr) table.blocks
  exact sorted.imp fun ordered => of_decide_eq_true ordered

/-! ## One block after the other -/

/-- The first block ends no later than the second starts. -/
def Precedes (first second : Block) : Prop :=
  first.addr + first.reserved ≤ second.addr

theorem Precedes.trans
    {first second third : Block}
    (left : Precedes first second)
    (right : Precedes second third) :
    Precedes first third := by
  rw [Precedes] at *
  omega

instance : Trans Precedes Precedes Precedes :=
  ⟨Precedes.trans⟩

/-- Every block is compared with the one before it, and no violation is made up. -/
theorem verifyBlocks_cases
    (engine : Engine β)
    (previous : Option Block)
    (blocks : List Block)
    (fits : ∀ block ∈ previous.toList ++ blocks, block.addr + block.reserved < Word.bound)
    (tallies : PerTier BlockTally) :
    ((previous.toList ++ blocks).IsChain Precedes ∧
        (∀ block ∈ blocks, engine.insideArena block = true) ∧
          engine.verifyBlocks previous tallies blocks = .ok (BlockTally.countAll tallies blocks)) ∨
      (∃ held block, [held, block] <:+: previous.toList ++ blocks ∧
        ¬Precedes held block ∧
          engine.verifyBlocks previous tallies blocks = .error (.overlap held.addr block.addr)) ∨
      ∃ block ∈ blocks, engine.insideArena block = false ∧
        engine.verifyBlocks previous tallies blocks =
          .error (.outsideArena block.addr block.tier) := by
  induction blocks generalizing previous tallies with
  | nil =>
      refine .inl ⟨?_, by simp, rfl⟩
      cases previous <;> simp
  | cons block rest inductionHypothesis =>
      -- The block before this one may be missing, and is all that is left of the earlier ones.
      by_cases clear : ∀ held ∈ previous, Precedes held block
      · have kept :
            (previous.filter fun held => block.addr < Word.add held.addr held.reserved) =
              none := by
          rw [Option.filter_eq_none_iff]
          intro held isPrevious
          have heldFits := fits held (by simp [Option.mem_def.mp isPrevious])
          have before := clear held isPrevious
          rw [Precedes] at before
          rw [Word.add_eq heldFits, decide_eq_true_eq]
          omega
        have chained {others : List Block} (chain : (block :: others).IsChain Precedes) :
            (previous.toList ++ block :: others).IsChain Precedes := by
          cases previous with
          | none =>
              exact chain
          | some held =>
              exact List.isChain_cons_cons.mpr ⟨clear held rfl, chain⟩
        cases inside : engine.insideArena block with
        | false =>
            refine .inr (.inr ⟨block, List.mem_cons_self, inside, ?_⟩)
            rw [verifyBlocks, kept, if_neg (by simp [inside])]
        | true =>
            have next := inductionHypothesis (some block)
              (fun other member => fits other (List.mem_append_right _ member))
              (tallies.modify block.tier (·.count block))
            have step : engine.verifyBlocks previous tallies (block :: rest) =
                engine.verifyBlocks (some block) (tallies.modify block.tier (·.count block))
                  rest := by
              rw [verifyBlocks, kept, if_pos inside]
            rw [step]
            rcases next with
              ⟨chain, others, checked⟩ | ⟨first, second, neighbours, overlap, found⟩ |
                ⟨stray, member, outside, found⟩
            · exact .inl ⟨chained chain, List.forall_mem_cons.mpr ⟨inside, others⟩, checked⟩
            · exact .inr (.inl ⟨first, second,
                neighbours.trans (List.suffix_append _ _).isInfix, overlap, found⟩)
            · exact .inr (.inr ⟨stray, List.mem_cons_of_mem _ member, outside, found⟩)
      · obtain ⟨held, isPrevious, overlap⟩ := by
          simpa only [not_forall, exists_prop] using clear
        cases isPrevious
        refine .inr (.inl ⟨held, block, ⟨[], rest, rfl⟩, overlap, ?_⟩)
        have heldFits := fits held (by simp)
        rw [verifyBlocks, Option.filter_some, if_pos]
        rw [Precedes] at overlap
        rw [Word.add_eq heldFits, decide_eq_true_eq]
        omega

namespace Measurable

variable (measurable : engine.Measurable)

include measurable

/-- The one segment that is found for a block decides whether it is housed. -/
theorem insideArena_iff
    {block : Block}
    (member : block ∈ engine.table.blocks) :
    engine.insideArena block = true ↔ engine.Houses block := by
  have laid := measurable.laid block.tier
  rw [insideArena, Houses, Allocator.segmentOf?]
  split
  · rename_i segment found
    obtain ⟨held, inside⟩ := laid.segmentOf?_eq_some_iff.mp found
    rw [decide_eq_true_eq, Word.add_eq (measurable.fits block member), laid.segment_stop held]
    constructor
    · exact fun ends => ⟨segment, held, inside, ends⟩
    · rintro ⟨other, otherHeld, otherInside, ends⟩
      rw [laid.segmentOf?_eq_some_iff.mpr ⟨otherHeld, otherInside⟩] at found
      cases found
      exact ends
  · rename_i absent
    refine iff_of_false (by simp) ?_
    rintro ⟨other, otherHeld, otherInside, -⟩
    rw [laid.segmentOf?_eq_some_iff.mpr ⟨otherHeld, otherInside⟩] at absent
    cases absent

/-- Blocks that do not overlap fit into the address space together. -/
theorem total_reserved_lt
    (apart : engine.table.blocks.Pairwise fun first second => first.span.Apart second.span) :
    (engine.table.blocks.map Block.reserved).sum < Word.bound := by
  have spans : (engine.table.blocks.map Block.span).Pairwise Span.Apart :=
    List.pairwise_map.mpr apart
  have below : ∀ span ∈ engine.table.blocks.map Block.span,
      span.start + span.len ≤ Word.largest := by
    intro span member
    obtain ⟨block, inTable, rfl⟩ := List.mem_map.mp member
    exact Nat.le_of_lt_succ (measurable.fits block inTable)
  have total := Span.total_le_of_cover_le_one below (Span.cover_le_one_of_pairwise_apart spans)
  rw [Span.total, List.map_map] at total
  exact Nat.lt_succ_of_le total

/-- The blocks are counted for their tiers, in whatever order they come. -/
theorem counted
    (apart : engine.table.blocks.Pairwise fun first second => first.span.Apart second.span)
    {blocks : List Block}
    (same : blocks.Perm engine.table.blocks)
    (tier : Tier) :
    ((BlockTally.countAll (.both .zero) blocks).get tier).reservedBytes = engine.reservedOf tier ∧
      ((BlockTally.countAll (.both .zero) blocks).get tier).blocks =
        (engine.blocksOf tier).length := by
  have ofTier : (blocks.filter fun block => block.tier = tier).Perm (engine.blocksOf tier) :=
    same.filter _
  have part : engine.reservedOf tier ≤ (engine.table.blocks.map Block.reserved).sum :=
    (List.filter_sublist.map Block.reserved).sum_le_sum fun _ _ => Nat.zero_le _
  have total :
      ((blocks.filter fun block => block.tier = tier).map Block.reserved).sum =
        engine.reservedOf tier :=
    (ofTier.map Block.reserved).sum_eq
  have bound := measurable.total_reserved_lt apart
  have zero : (PerTier.both BlockTally.zero).get tier = .zero := by cases tier <;> rfl
  rw [BlockTally.get_countAll, zero, BlockTally.foldl_count]
  dsimp only [BlockTally.zero]
  rw [Word.foldl_add_eq (by omega), Nat.zero_add, Nat.zero_add]
  exact ⟨total, ofTier.length_eq⟩

/-- The totals of one tier are compared exactly. -/
theorem verifyTier_cases
    (apart : engine.table.blocks.Pairwise fun first second => first.span.Apart second.span)
    {blocks : List Block}
    (same : blocks.Perm engine.table.blocks)
    (tier : Tier) :
    (engine.verifyTier (BlockTally.countAll (.both .zero) blocks) tier = .ok () ∧
        engine.reservedOf tier = (engine.tierStats tier).inUseBytes ∧
          (engine.blocksOf tier).length = (engine.tierStats tier).liveRanges) ∨
      ∃ violation,
        engine.verifyTier (BlockTally.countAll (.both .zero) blocks) tier = .error violation ∧
          engine.Suffers violation := by
  obtain ⟨total, number⟩ := measurable.counted apart same tier
  dsimp only [verifyTier]
  rw [total, number]
  by_cases bytes : engine.reservedOf tier = (engine.tierStats tier).inUseBytes
  · rw [if_neg (not_not.mpr bytes)]
    by_cases count : (engine.blocksOf tier).length = (engine.tierStats tier).liveRanges
    · rw [if_neg (not_not.mpr count)]
      exact .inl ⟨rfl, bytes, count⟩
    · rw [if_pos count]
      exact .inr ⟨_, rfl, rfl, rfl, count⟩
  · rw [if_pos bytes]
    exact .inr ⟨_, rfl, rfl, rfl, bytes⟩

/-- Verification succeeds where table and tiers agree, or reports what is so. -/
theorem verify_cases :
    (engine.verify = .ok () ∧ engine.Coherent) ∨
      ∃ violation, engine.verify = .error violation ∧ engine.Suffers violation := by
  have permutation := snapshot_perm engine.table
  have member {block : Block} (listed : block ∈ engine.table.snapshot) :
      block ∈ engine.table.blocks := permutation.mem_iff.mp listed
  rcases verifyBlocks_cases engine none engine.table.snapshot
      (fun block listed => measurable.fits block (member listed)) (.both .zero) with
    ⟨chain, inside, checked⟩ | ⟨held, block, neighbours, overlap, found⟩ |
      ⟨block, listed, outside, found⟩
  · -- Blocks that follow each other step by step do so at any distance.
    have apart : engine.table.blocks.Pairwise fun first second => first.span.Apart second.span :=
      (permutation.pairwise_iff fun apart => Span.Apart.symm apart).mp
        (chain.pairwise.imp fun precedes => .inl precedes)
    have housed : ∀ block ∈ engine.table.blocks, engine.Houses block := fun block inTable =>
      (measurable.insideArena_iff inTable).mp (inside block (permutation.mem_iff.mpr inTable))
    rw [verify, checked]
    dsimp only
    rcases measurable.verifyTier_cases apart permutation .host with
      ⟨host, hostBytes, hostCount⟩ | ⟨violation, host, suffered⟩
    · rw [host]
      dsimp only
      rcases measurable.verifyTier_cases apart permutation .cxl with
        ⟨cxl, cxlBytes, cxlCount⟩ | ⟨violation, cxl, suffered⟩
      · refine .inl ⟨cxl, apart, housed, fun tier => ?_, fun tier => ?_⟩ <;>
          cases tier <;> assumption
      · exact .inr ⟨violation, cxl, suffered⟩
    · rw [host]
      exact .inr ⟨violation, rfl, suffered⟩
  · refine .inr ⟨.overlap held.addr block.addr, by rw [verify, found], held, block, ?_, rfl, rfl,
      block.addr, ?_, ?_⟩
    · exact neighbours.sublist.subperm.trans permutation.subperm
    · -- The later of two neighbours does not start before the earlier one.
      have ordered := (snapshot_sorted engine.table).sublist neighbours.sublist
      have start := (List.pairwise_cons.mp ordered).1 block (List.mem_singleton_self block)
      rw [Precedes] at overlap
      simp only [Span.has_iff, Block.span]
      omega
    · have positive := measurable.positive block (member (neighbours.subset (by simp)))
      exact Span.has_start block.span positive
  · refine .inr ⟨.outsideArena block.addr block.tier, by rw [verify, found], block, member listed,
      rfl, rfl, fun housed => ?_⟩
    rw [(measurable.insideArena_iff (member listed)).mpr housed] at outside
    cases outside

omit measurable in
/-- Where table and tiers agree, there is nothing to report. -/
theorem not_coherent_of_suffers
    {violation : InvariantViolation}
    (suffered : engine.Suffers violation) :
    ¬engine.Coherent := by
  intro coherent
  cases violation with
  | overlap first second =>
      obtain ⟨held, block, both, -, -, addr, inHeld, inBlock⟩ := suffered
      obtain ⟨listed, reordered, isSublist⟩ := both
      have apart := coherent.apart.sublist isSublist
      rw [reordered.pairwise_iff fun apart => Span.Apart.symm apart] at apart
      exact Span.not_has_of_apart
        ((List.pairwise_cons.mp apart).1 block (List.mem_singleton_self block)) inHeld inBlock
  | outsideArena addr tier =>
      obtain ⟨block, inTable, -, -, homeless⟩ := suffered
      exact homeless (coherent.housed block inTable)
  | bytesMismatch tier table arena =>
      obtain ⟨rfl, rfl, different⟩ := suffered
      exact different (coherent.bytes tier)
  | countMismatch tier table arena =>
      obtain ⟨rfl, rfl, different⟩ := suffered
      exact different (coherent.count tier)

theorem verify_eq_ok_iff : engine.verify = .ok () ↔ engine.Coherent := by
  rcases measurable.verify_cases with ⟨verified, coherent⟩ | ⟨violation, found, suffered⟩
  · exact iff_of_true verified coherent
  · refine iff_of_false (by simp [found]) (not_coherent_of_suffers suffered)

end Measurable

/-- Whatever an engine holds, it is verified just where table and tiers agree, and what is
reported of another one is so. -/
theorem verify_exact (measurable : engine.Measurable) :
    (engine.verify = .ok () ↔ engine.Coherent) ∧
      ∀ violation, engine.verify = .error violation → engine.Suffers violation := by
  refine ⟨measurable.verify_eq_ok_iff, fun violation found => ?_⟩
  rcases measurable.verify_cases with ⟨verified, -⟩ | ⟨reported, other, suffered⟩
  · rw [verified] at found
    cases found
  · rw [other] at found
    cases found
    exact suffered

def tenanted : Engine SimulatedBackend :=
  ((withBackends Config.standard .initial (.both (.upwards 65536 0 []))).1.allocateOn .host 64).2

/-- The range of the block is returned behind the back of the table. -/
def drifted : Engine SimulatedBackend :=
  tenanted.giveBack ⟨65536, 64, 64, .host⟩

/-- The block is missing in the figures of its tier, and this is what is reported. -/
theorem verify_exact_drifted :
    drifted.verify = .error (.bytesMismatch .host 64 0) ∧
      ¬drifted.Coherent ∧ drifted.Suffers (.bytesMismatch .host 64 0) := by
  have table : drifted.table.blocks = [⟨65536, 64, 64, .host⟩] := by decide +kernel
  have measurable : drifted.Measurable := by
    refine ⟨?_, ?_, fun tier => ⟨?_, ?_⟩⟩
    · rw [table]
      decide
    · rw [table]
      decide
    · cases tier <;> decide +kernel
    · cases tier <;> decide +kernel
  have found : drifted.verify = .error (.bytesMismatch .host 64 0) := by decide +kernel
  obtain ⟨passes, reports⟩ := verify_exact measurable
  refine ⟨found, fun coherent => ?_, reports _ found⟩
  rw [passes.mpr coherent] at found
  cases found

end Engine

end TierHeap
