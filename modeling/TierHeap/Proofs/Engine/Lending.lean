import TierHeap.Proofs.Allocator.Lending
import TierHeap.Proofs.Engine.Runs
import TierHeap.Proofs.Engine.Tasks

/-!
# Segments lent to an engine

Each allocator of an engine is seen as a tenancy whose callers hold the ranges of all blocks,
those of the other tier included.  Every call is a step of both tenancies, and over backends
that owe their dealings both are sound at every moment; so what holds of an allocator by itself
holds of the two that an engine owns (`Session.lending_calls`).
-/

namespace TierHeap

variable {β : Type}

/-- Over backends that owe their dealings, blocks of the other tier lie in no segment of a
tier. -/
theorem Engine.Accounted.sound
    {engine : Engine (Recorder β)}
    {flight : List Block}
    (accounted : engine.Accounted flight)
    (abiding : Dealing.Abiding engine.tiers.dealings)
    (tier : Tier)
    {ranges : List Span}
    (held : ranges.Perm ((engine.table.blocks ++ flight).map Block.span)) :
    Tenancy.Sound ⟨engine.tiers.get tier, ranges⟩ := by
  refine ⟨_, accounted.backed.consistent tier, ?_, ?_⟩
  · intro span member
    obtain ⟨block, isBlock, rfl⟩ := List.mem_map.mp member
    exact held.mem_iff.mpr (List.mem_map_of_mem (List.mem_filter.mp isBlock).1)
  · intro span member
    obtain ⟨block, isBlock, rfl⟩ := List.mem_map.mp (held.mem_iff.mp member)
    by_cases own : block.tier = tier
    · subst own
      exact .inl (Block.span_mem_spansOf isBlock)
    · refine .inr fun segment segmentHeld => ?_
      obtain ⟨other, otherHeld, within⟩ := (accounted.backed.holds isBlock).inside
      have apart :=
        accounted.backed.segments_apart abiding (Ne.symm own) segmentHeld otherHeld
      simp only [Span.Apart, Span.Within] at *
      omega

namespace Tenancy

variable [Backend β]

/-- A step of one tier's allocator is no step of the other one. -/
theorem advances_set
    {tiers : PerTier (Allocator (Recorder β))}
    {changed : Tier}
    {allocator : Allocator (Recorder β)}
    {before after : List Span}
    (advances : Advances ⟨tiers.get changed, before⟩ ⟨allocator, after⟩)
    (tier : Tier) :
    Advances ⟨tiers.get tier, before⟩ ⟨(tiers.set changed allocator).get tier, after⟩ := by
  by_cases same : tier = changed
  · subst same
    rw [PerTier.get_set_self]
    exact advances
  · rw [PerTier.get_set_other tiers same]
    exact advances_of_same_dealings rfl

end Tenancy

namespace Session

def closed
    [Backend β]
    (session : Session β) : PerTier β :=
  (session.engine.close session.bank).1

/-- The allocator of one tier, with the ranges of all blocks. -/
def tenancy
    (tier : Tier)
    (session : Session β) : Tenancy β :=
  ⟨session.engine.tiers.get tier, session.engine.table.blocks.map Block.span⟩

variable [Backend β]

theorem advances_call
    (session : Session (Recorder β))
    (thread : Nat)
    (call : Call)
    (tier : Tier) :
    Tenancy.Advances (session.tenancy tier) ((session.call thread call).2.tenancy tier) := by
  cases asked : call.task? (session.active thread) with
  | none =>
      obtain ⟨log, same⟩ := call_of_no_task asked
      rw [same]
      exact Tenancy.advances_of_same_dealings rfl
  | some task =>
      obtain ⟨reply, change, log, made, ends⟩ := call_ends asked
      rw [made]
      cases ends with
      | exhausted valid tried | allocated valid tried =>
          exact Tenancy.advances_set (Tenancy.advances_allocate tried _ _) tier
      | freed found =>
          exact Tenancy.advances_set (Tenancy.advances_free _ _ _ _ _) tier
      | resized valid found tried =>
          exact Tenancy.advances_set (Tenancy.advances_resize? tried _ _) tier
      | trimmed =>
          exact .trimmed Engine.depth (PerTier.get_map _ _ _) rfl
      | _ =>
          exact Tenancy.advances_of_same_dealings rfl

/-- The segments of both tiers of an engine, with calls made one at a time. -/
theorem lending_calls
    (config : Config)
    (bank : RegisterBank)
    (backends : PerTier β)
    (tier : Tier)
    {calls : List (Nat × Call)}
    (abiding : ∀ before, before <+: calls →
      Dealing.Abiding
        ((opening config bank (backends.map Recorder.start)).run before).dealings) :
    Tenancy.Lending
      (fun before =>
        ((opening config bank (backends.map Recorder.start)).run before).tenancy tier)
      calls
      (((opening config bank (backends.map Recorder.start)).run calls).closed.get tier) := by
  rw [closed, Engine.close, PerTier.get_ofFn]
  refine Tenancy.lending_of_advances ?_ ?_ ?_ Engine.outside
  · cases tier <;> rfl
  · intro before isPrefix
    have accounted :=
      (accounted_run (Engine.accounted_withBackends config bank backends)
        (Engine.undisturbed_withBackends config bank (backends.map Recorder.start))
        fun earlier isEarlier => abiding earlier (isEarlier.trans isPrefix)).1
    apply accounted.sound (abiding before isPrefix) tier
    rw [List.append_nil]
  · intro before step _
    rw [run_snoc]
    exact advances_call _ step.1 step.2 tier

end Session

end TierHeap
