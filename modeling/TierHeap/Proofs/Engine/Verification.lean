import TierHeap.Proofs.Arena.Accounting
import TierHeap.Proofs.Engine.Accounting
import TierHeap.Proofs.Engine.Exactness
import TierHeap.Proofs.Metrics

/-!
# Why verification succeeds

With nothing in flight, blocks that the tiers back do not overlap, lie in segments of their tiers
and add up to what the tiers have given out (`Accounted.coherent`), which is all that verification
asks for.  With nothing left to count, the gauges show the same blocks (`Accounted.reconciled`).
-/

namespace TierHeap

namespace Engine

variable {β : Type}

/-- The table agrees with the tiers and with the gauges. -/
structure Reconciled (engine : Engine β) : Prop where
  verified : engine.verify = .ok ()
  live : ∀ tier,
    (engine.metrics.tiers.get tier).liveBlocks =
      (engine.table.blocks.filter fun block => block.tier = tier).length
  bytes : ∀ tier,
    (engine.metrics.tiers.get tier).outstandingBytes =
      ((engine.table.blocks.filter fun block => block.tier = tier).map Block.size).sum
  liveBlocks : engine.metrics.liveBlocks = engine.liveBlocks
  outstandingBytes :
    engine.metrics.outstandingBytes = (engine.table.blocks.map Block.size).sum

namespace Accounted

variable {engine : Engine (Recorder β)} {flight : List Block}

/-- Blocks that the tiers back can be compared. -/
theorem measurable (accounted : engine.Accounted flight) : engine.Measurable where
  positive _ member :=
    (accounted.backed.holds (List.mem_append_left flight member)).nonempty
  fits block member :=
    (accounted.backed.consistent block.tier).arena.tiled.stop_lt
      (accounted.backed.holds (List.mem_append_left flight member))
  laid tier := (accounted.backed.consistent tier).arena.tiled.laid

theorem pairwise_apart
    (accounted : engine.Accounted flight)
    (abiding : Dealing.Abiding engine.tiers.dealings) :
    engine.table.blocks.Pairwise fun first second => first.span.Apart second.span :=
  (List.pairwise_append.mp (accounted.backed.pairwise_apart abiding)).1

/-- With nothing in flight, table and tiers agree. -/
theorem coherent
    (accounted : engine.Accounted [])
    (abiding : Dealing.Abiding engine.tiers.dealings) :
    engine.Coherent where
  apart := accounted.pairwise_apart abiding
  housed block member := by
    have holds := accounted.backed.holds (List.mem_append_left [] member)
    obtain ⟨segment, held, within⟩ := holds.inside
    have start : block.span.has block.addr = true := Span.has_start block.span holds.nonempty
    exact ⟨segment, held, Span.has_of_within within start, within.2⟩
  bytes tier := by
    have consistent := (accounted.backed.consistent tier).arena
    rw [List.append_nil] at consistent
    exact (Block.total_spansOf tier engine.table.blocks).symm.trans consistent.inUse.symm
  count tier := by
    have consistent := (accounted.backed.consistent tier).arena
    rw [List.append_nil] at consistent
    have live := consistent.live
    rw [Block.spansOf, List.length_map] at live
    exact live.symm

/-- With nothing in flight, verification succeeds. -/
theorem verify_eq_ok
    (accounted : engine.Accounted [])
    (abiding : Dealing.Abiding engine.tiers.dealings) :
    engine.verify = .ok () :=
  accounted.measurable.verify_eq_ok_iff.mpr (accounted.coherent abiding)

/-- With nothing in flight and nothing left to count, the gauges are those of the table. -/
theorem reconciled
    (accounted : engine.Accounted [])
    (gauged : engine.metrics.Gauged [] engine.table.blocks)
    (abiding : Dealing.Abiding engine.tiers.dealings) :
    engine.Reconciled := by
  -- Every block takes at least one byte, so their number is a word as well.
  have reserved :=
    accounted.measurable.total_reserved_lt (accounted.pairwise_apart abiding)
  have bounds : ∀ block ∈ engine.table.blocks,
      0 < block.reserved ∧ block.size ≤ block.reserved := by
    intro block member
    obtain ⟨positive, -, large⟩ :=
      reserve_bounds (accounted.backed.reserved block (List.mem_append_left [] member))
    exact ⟨positive, large⟩
  have fits (measure : Block → Nat)
      (small : ∀ block ∈ engine.table.blocks, measure block ≤ block.reserved) :
      Block.measured measure .host engine.table.blocks +
        Block.measured measure .cxl engine.table.blocks < Word.bound := by
    rw [Block.measured_host_add_cxl]
    exact Nat.lt_of_le_of_lt (List.sum_le_sum small) reserved
  have liveFits := fits (fun _ => 1) fun block member => (bounds block member).1
  have bytesFit := fits Block.size fun block member => (bounds block member).2
  have live (tier : Tier) := (gauged.live tier).eq_measured (by cases tier <;> omega)
  have bytes (tier : Tier) := (gauged.bytes tier).eq_measured (by cases tier <;> omega)
  refine ⟨accounted.verify_eq_ok abiding, ?_, bytes, ?_, ?_⟩
  · intro tier
    rw [live tier, Block.measured_one]
  · have host := live .host
    have cxl := live .cxl
    simp only [PerTier.get] at host cxl
    rw [Metrics.liveBlocks, host, cxl, Word.add_eq liveFits, Block.measured_host_add_cxl,
      liveBlocks, BlockTable.size_eq_length]
    simp
  · have host := bytes .host
    have cxl := bytes .cxl
    simp only [PerTier.get] at host cxl
    rw [Metrics.outstandingBytes, host, cxl, Word.add_eq bytesFit,
      Block.measured_host_add_cxl]

end Accounted

end Engine

end TierHeap
