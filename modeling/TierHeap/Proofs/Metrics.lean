import Mathlib.Algebra.BigOperators.Ring.Finset
import TierHeap.BlockTable
import TierHeap.Granularity
import TierHeap.Metrics

/-!
# What gauges show

Blocks are counted after they have been entered, and discounted after they have been taken
out.  In between the gauges differ from the table by the blocks that are incoming or outgoing,
and may even wrap around below zero; the difference is exact up to the bound of words
(`Metrics.Gauged`).  With no block on its way the gauges are those of the table.
-/

namespace TierHeap

def Block.measured
    (measure : Block → Nat)
    (tier : Tier)
    (blocks : List Block) : Nat :=
  ((blocks.filter fun block => block.tier = tier).map measure).sum

namespace Block

variable {measure : Block → Nat} {tier : Tier}

theorem measured_perm
    {blocks reordered : List Block}
    (same : blocks.Perm reordered) :
    measured measure tier blocks = measured measure tier reordered :=
  ((same.filter _).map measure).sum_eq

theorem measured_cons
    (block : Block)
    (blocks : List Block) :
    measured measure tier (block :: blocks) =
      (if block.tier = tier then measure block else 0) + measured measure tier blocks := by
  by_cases same : block.tier = tier
  · simp [measured, same]
  · simp [measured, same]

theorem measured_one
    (tier : Tier)
    (blocks : List Block) :
    measured (fun _ => 1) tier blocks =
      (blocks.filter fun block => block.tier = tier).length := by
  simp [measured]

theorem measured_host_add_cxl
    (measure : Block → Nat)
    (blocks : List Block) :
    measured measure .host blocks + measured measure .cxl blocks =
      (blocks.map measure).sum := by
  induction blocks with
  | nil =>
      rfl
  | cons block rest inductionHypothesis =>
      rw [measured_cons, measured_cons, List.map_cons, List.sum_cons, ← inductionHypothesis]
      cases block.tier with
      | host =>
          rw [if_pos rfl, if_neg (by decide)]
          omega
      | cxl =>
          rw [if_neg (by decide), if_pos rfl]
          omega

end Block

/-- A gauge that counts the incoming blocks as well shows what the standing ones measure. -/
structure Balanced
    (gauge : Nat)
    (measure : Block → Nat)
    (tier : Tier)
    (incoming standing : List Block) : Prop where
  word : gauge < Word.bound
  level :
    (gauge + Block.measured measure tier incoming) % Word.bound =
      Block.measured measure tier standing % Word.bound

namespace Balanced

variable {gauge : Nat} {measure : Block → Nat} {tier : Tier} {incoming standing : List Block}
  {block : Block}

theorem perm
    (balanced : Balanced gauge measure tier incoming standing)
    {incoming' standing' : List Block}
    (sameIncoming : incoming.Perm incoming')
    (sameStanding : standing.Perm standing') :
    Balanced gauge measure tier incoming' standing' := by
  refine ⟨balanced.word, ?_⟩
  rw [← Block.measured_perm sameIncoming, ← Block.measured_perm sameStanding]
  exact balanced.level

/-- A block on its way in stands already. -/
theorem enter
    (balanced : Balanced gauge measure tier incoming standing)
    (block : Block) :
    Balanced gauge measure tier (block :: incoming) (block :: standing) := by
  have level := balanced.level
  refine ⟨balanced.word, ?_⟩
  simp only [Block.measured_cons, Word.bound] at level ⊢
  omega

theorem other_incoming
    (balanced : Balanced gauge measure tier (block :: incoming) standing)
    (other : block.tier ≠ tier) :
    Balanced gauge measure tier incoming standing := by
  have level := balanced.level
  rw [Block.measured_cons, if_neg other, Nat.zero_add] at level
  exact ⟨balanced.word, level⟩

theorem other_standing
    (balanced : Balanced gauge measure tier incoming (block :: standing))
    (other : block.tier ≠ tier) :
    Balanced gauge measure tier incoming standing := by
  have level := balanced.level
  rw [Block.measured_cons, if_neg other, Nat.zero_add] at level
  exact ⟨balanced.word, level⟩

theorem count
    (balanced : Balanced gauge measure tier (block :: incoming) standing)
    (own : block.tier = tier)
    {amount : Nat}
    (exact : amount % Word.bound = measure block % Word.bound) :
    Balanced (Word.add gauge amount) measure tier incoming standing := by
  have level := balanced.level
  rw [Block.measured_cons, if_pos own] at level
  refine ⟨Nat.mod_lt _ (by decide), ?_⟩
  simp only [Word.add, Word.bound] at *
  omega

theorem discount
    (balanced : Balanced gauge measure tier incoming (block :: standing))
    (own : block.tier = tier)
    {amount : Nat}
    (small : amount ≤ Word.bound)
    (exact : amount % Word.bound = measure block % Word.bound) :
    Balanced (Word.sub gauge amount) measure tier incoming standing := by
  have level := balanced.level
  rw [Block.measured_cons, if_pos own] at level
  refine ⟨Nat.mod_lt _ (by decide), ?_⟩
  simp only [Word.sub, Word.bound] at *
  omega

/-- A block that changes in place makes no difference but that of its measures. -/
theorem change
    {changed : Block}
    (balanced : Balanced gauge measure tier (changed :: incoming) (block :: standing))
    (ownChanged : changed.tier = tier)
    (own : block.tier = tier)
    {after : Nat}
    (word : after < Word.bound)
    (exact :
      (after + measure block) % Word.bound = (gauge + measure changed) % Word.bound) :
    Balanced after measure tier incoming standing := by
  have level := balanced.level
  rw [Block.measured_cons, Block.measured_cons, if_pos own, if_pos ownChanged] at level
  refine ⟨word, ?_⟩
  simp only [Word.bound] at *
  omega

/-- With no block on its way in, the gauge is exact. -/
theorem eq_measured
    (balanced : Balanced gauge measure tier [] standing)
    (fits : Block.measured measure tier standing < Word.bound) :
    gauge = Block.measured measure tier standing := by
  have level := balanced.level
  have none : Block.measured measure tier [] = 0 := rfl
  rw [none, Nat.add_zero, Nat.mod_eq_of_lt balanced.word, Nat.mod_eq_of_lt fits] at level
  exact level

end Balanced

namespace Metrics

/-- The gauges of both tiers, with the incoming blocks, show the standing ones. -/
structure Gauged
    (metrics : Metrics)
    (incoming standing : List Block) : Prop where
  live : ∀ tier,
    Balanced (metrics.tiers.get tier).liveBlocks (fun _ => 1) tier incoming standing
  bytes : ∀ tier,
    Balanced (metrics.tiers.get tier).outstandingBytes Block.size tier incoming standing

theorem gauged_zero : zero.Gauged [] [] := by
  refine ⟨fun tier => ⟨?_, ?_⟩, fun tier => ⟨?_, ?_⟩⟩ <;> cases tier <;> decide

namespace Gauged

variable {metrics : Metrics} {incoming standing : List Block} {block : Block}

theorem perm
    (gauged : metrics.Gauged incoming standing)
    {incoming' standing' : List Block}
    (sameIncoming : incoming.Perm incoming')
    (sameStanding : standing.Perm standing') :
    metrics.Gauged incoming' standing' :=
  ⟨fun tier => (gauged.live tier).perm sameIncoming sameStanding,
    fun tier => (gauged.bytes tier).perm sameIncoming sameStanding⟩

theorem enter
    (gauged : metrics.Gauged incoming standing)
    (block : Block) :
    metrics.Gauged (block :: incoming) (block :: standing) :=
  ⟨fun tier => (gauged.live tier).enter block, fun tier => (gauged.bytes tier).enter block⟩

/-- Only the gauges matter. -/
theorem transport
    (gauged : metrics.Gauged incoming standing)
    {changed : Metrics}
    (live : ∀ tier,
      (changed.tiers.get tier).liveBlocks = (metrics.tiers.get tier).liveBlocks)
    (bytes : ∀ tier,
      (changed.tiers.get tier).outstandingBytes = (metrics.tiers.get tier).outstandingBytes) :
    changed.Gauged incoming standing := by
  refine ⟨fun tier => ?_, fun tier => ?_⟩
  · rw [live tier]
    exact gauged.live tier
  · rw [bytes tier]
    exact gauged.bytes tier

theorem onAllocate
    (gauged : metrics.Gauged (block :: incoming) standing)
    (grew : Bool) :
    (metrics.onAllocate block.tier block.size grew).Gauged incoming standing := by
  simp only [Metrics.onAllocate, PerTier.modify]
  refine ⟨fun tier => ?_, fun tier => ?_⟩
  · by_cases own : block.tier = tier
    · subst own
      rw [PerTier.get_set_self]
      exact (gauged.live block.tier).count rfl rfl
    · rw [PerTier.get_set_other _ (Ne.symm own)]
      exact (gauged.live tier).other_incoming own
  · by_cases own : block.tier = tier
    · subst own
      rw [PerTier.get_set_self]
      exact (gauged.bytes block.tier).count rfl (Nat.mod_mod _ _)
    · rw [PerTier.get_set_other _ (Ne.symm own)]
      exact (gauged.bytes tier).other_incoming own

theorem onFree (gauged : metrics.Gauged incoming (block :: standing)) :
    (metrics.onFree block.tier block.size).Gauged incoming standing := by
  simp only [Metrics.onFree, PerTier.modify]
  refine ⟨fun tier => ?_, fun tier => ?_⟩
  · by_cases own : block.tier = tier
    · subst own
      rw [PerTier.get_set_self]
      exact (gauged.live block.tier).discount rfl (by decide) rfl
    · rw [PerTier.get_set_other _ (Ne.symm own)]
      exact (gauged.live tier).other_standing own
  · by_cases own : block.tier = tier
    · subst own
      have small : Word.wrap block.size ≤ Word.bound :=
        Nat.le_of_lt (Nat.mod_lt _ (by decide))
      rw [PerTier.get_set_self]
      exact (gauged.bytes block.tier).discount rfl small (Nat.mod_mod _ _)
    · rw [PerTier.get_set_other _ (Ne.symm own)]
      exact (gauged.bytes tier).other_standing own

theorem onResize
    {changed : Block}
    (gauged : metrics.Gauged (changed :: incoming) (block :: standing))
    (sameTier : changed.tier = block.tier)
    (small : block.size ≤ Word.bound) :
    (metrics.onResize block.tier block.size changed.size).Gauged incoming standing := by
  simp only [Metrics.onResize, PerTier.modify]
  refine ⟨fun tier => ?_, fun tier => ?_⟩
  · by_cases own : block.tier = tier
    · subst own
      rw [PerTier.get_set_self]
      exact (gauged.live block.tier).change sameTier rfl (gauged.live block.tier).word rfl
    · have otherChanged : changed.tier ≠ tier := by rwa [sameTier]
      rw [PerTier.get_set_other _ (Ne.symm own)]
      exact ((gauged.live tier).other_incoming otherChanged).other_standing own
  · by_cases own : block.tier = tier
    · subst own
      rw [PerTier.get_set_self]
      apply (gauged.bytes block.tier).change sameTier rfl
      · simp only [TierCounters.countResize]
        split
        · exact Nat.mod_lt _ (by decide)
        · exact Nat.mod_lt _ (by decide)
      · simp only [TierCounters.countResize, Word.add, Word.sub, Word.bound] at *
        split <;> omega
    · have otherChanged : changed.tier ≠ tier := by rwa [sameTier]
      rw [PerTier.get_set_other _ (Ne.symm own)]
      exact ((gauged.bytes tier).other_incoming otherChanged).other_standing own

/-- What counts no block leaves the gauges as they are. -/
theorem onOutOfMemory
    (gauged : metrics.Gauged incoming standing)
    (tier : Tier) :
    (metrics.onOutOfMemory tier).Gauged incoming standing := by
  refine gauged.transport ?_ ?_ <;> intro other <;> cases tier <;> cases other <;> rfl

end Gauged

end Metrics

end TierHeap
