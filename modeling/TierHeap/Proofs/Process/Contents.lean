import TierHeap.Proofs.Allocator.Figures
import TierHeap.Proofs.Engine.Changes
import TierHeap.Proofs.Memory
import TierHeap.Proofs.Process.Sessions

/-!
# What calls do to memory

A call touches memory only where it takes in a segment that was just lent.  Such a segment is
apart from all segments that the tiers held before, so no byte in one of these changes
(`ProcessHeap.Kept.byteAt_call`); in particular no byte of a live block does.
-/

namespace TierHeap

/-- From one allocator to another, either the arena has not grown, or the segment it took in is
apart from all that the tiers held. -/
def Allocator.GrownApart
    {β : Type}
    (tiers : PerTier (Allocator (Recorder β)))
    (before after : Allocator (Recorder β)) : Prop :=
  after.arena.growths = before.arena.growths ∨
    ∃ segment, after.arena.newest = some segment ∧
      ∀ tier, ∀ held ∈ (tiers.get tier).arena.held, segment.span.Apart held.span

namespace Task.Ends

variable {β : Type} [Backend β] {engine : Engine (Recorder β)} {flight : List Block} {task : Task}
  {reply : Reply} {change : Change (Recorder β)}

omit [Backend β] in
/-- The segment of an allocation that makes its tier grow is apart from all others. -/
theorem enlarged_apart
    (accounted : engine.Accounted flight)
    {tier : Tier}
    {after : Allocator (Recorder β)}
    {segment : Segment}
    (enlarged : Allocator.Enlarged (engine.tiers.get tier) after segment)
    (abiding : Dealing.Abiding (engine.tiers.set tier after).dealings)
    (other : Tier)
    {held : Segment}
    (member : held ∈ (engine.tiers.get other).arena.held) :
    segment.span.Apart held.span := by
  have honest := abiding.honest_tier tier
  have apart := abiding.apart
  obtain ⟨len, granted⟩ := enlarged.lent
  have isLent := ((accounted.backed.consistent other).lent.mem_iff).mpr member
  rw [PerTier.get_set_self, granted] at honest
  by_cases own : other = tier
  · subst own
    exact honest.1.apart held isLent
  · have new : segment ∈ Dealing.lent after.backend.dealings := by
      rw [granted]
      exact List.mem_cons_self
    cases tier with
    | host =>
        cases other with
        | host =>
            exact absurd rfl own
        | cxl =>
            exact apart segment new held isLent
    | cxl =>
        cases other with
        | host =>
            exact (apart held isLent segment new).symm
        | cxl =>
            exact absurd rfl own

theorem grownApart
    (ends : task.Ends engine.tiers engine.table reply change)
    (accounted : engine.Accounted flight)
    (abiding : Dealing.Abiding (change.apply engine).tiers.dealings)
    (tier : Tier) :
    Allocator.GrownApart engine.tiers (engine.tiers.get tier)
      ((change.apply engine).tiers.get tier) := by
  cases ends with
  | @exhausted wanted size align reserved cause allocator valid tried =>
      left
      by_cases own : tier = wanted
      · subst own
        simp only [Change.apply, PerTier.get_set_self]
        exact growths_exhausted accounted valid tried abiding
      · simp only [Change.apply, PerTier.get_set_other _ own]
  | @allocated wanted size align reserved carve allocator valid tried =>
      by_cases own : tier = wanted
      · subst own
        simp only [Change.apply, PerTier.get_set_self] at abiding ⊢
        rcases (Allocator.figures_allocate_ok tried).2 with
          ⟨-, same⟩ | ⟨-, segment, enlarged⟩
        · exact .inl same
        · exact .inr ⟨segment, enlarged.newest, fun other held member =>
            enlarged_apart accounted enlarged abiding other member⟩
      · left
        simp only [Change.apply, PerTier.get_set_other _ own]
  | @freed addr block found =>
      left
      by_cases own : tier = block.tier
      · subst own
        simp only [Change.apply, PerTier.get_modify_self]
        exact (Allocator.figures_free _ _ _).1
      · simp only [Change.apply, PerTier.get_modify_other _ own]
  | @resized addr size reserved block allocator valid found tried =>
      left
      by_cases own : tier = block.tier
      · subst own
        simp only [Change.apply, PerTier.get_set_self]
        exact (Allocator.figures_resize? tried).1
      · simp only [Change.apply, PerTier.get_set_other _ own]
  | trimmed =>
      left
      simp only [Change.apply, PerTier.get_map]
      exact (Allocator.figures_releaseAll _ _ _ _).1
  | _ =>
      exact .inl rfl

end Task.Ends

namespace ProcessHeap

variable {β : Type}

/-- Bytes outside a new segment keep their values. -/
theorem byteAt_contentsAfter
    (memory : Memory)
    {tiers : PerTier (Allocator (Recorder β))}
    {before after : Allocator (Recorder β)}
    (grown : Allocator.GrownApart tiers before after)
    {tier : Tier}
    {held : Segment}
    (member : held ∈ (tiers.get tier).arena.held)
    {addr : Nat}
    (inside : held.span.has addr = true) :
    (contentsAfter memory before.arena after.arena).byteAt addr = memory.byteAt addr := by
  rcases grown with same | ⟨segment, newest, apart⟩
  · rw [contentsAfter, if_pos same]
  · by_cases same : after.arena.growths = before.arena.growths
    · rw [contentsAfter, if_pos same]
    · rw [contentsAfter, if_neg same, newest]
      apply Memory.byteAt_fill_outside
      have separate := apart tier held member
      have bounds := Span.has_iff.mp inside
      simp only [Span.Apart, Span.stop, Segment.span] at *
      omega

variable [Backend β]

/-- The tiers back the blocks of a process, and the backends owe their dealings. -/
structure Kept
    (process : ProcessHeap (Recorder β))
    (flight : List Block) : Prop where
  accounted : process.session.engine.Accounted flight
  abiding : Dealing.Abiding process.dealings

def Live
    (process : ProcessHeap β)
    (addr : Nat) : Prop :=
  ∃ block ∈ process.session.engine.table.blocks, block.span.has addr = true

instance
    (process : ProcessHeap β)
    (addr : Nat) : Decidable (process.Live addr) :=
  inferInstanceAs (Decidable (∃ block ∈ process.session.engine.table.blocks, _))

variable {process : ProcessHeap (Recorder β)} {flight : List Block}

namespace Kept

/-- A byte of a live block lies in a segment. -/
theorem inside
    (kept : process.Kept flight)
    {addr : Nat}
    (live : process.Live addr) :
    ∃ tier, ∃ held ∈ (process.session.engine.tiers.get tier).arena.held,
      held.span.has addr = true := by
  obtain ⟨block, member, has⟩ := live
  obtain ⟨segment, held, within⟩ :=
    (kept.accounted.backed.holds (List.mem_append_left flight member)).inside
  exact ⟨block.tier, segment, held, Span.has_of_within within has⟩

/-- A call keeps the books. -/
theorem call
    (kept : process.Kept flight)
    {call : Call}
    (abiding : Dealing.Abiding (process.call call).2.dealings) :
    (process.call call).2.Kept flight := by
  refine ⟨?_, abiding⟩
  rw [dealings, session_call] at abiding
  rw [session_call]
  cases asked : call.task? (process.session.active process.thread) with
  | none =>
      obtain ⟨log, made⟩ := Session.call_of_no_task asked
      rw [made]
      exact kept.accounted.transport rfl rfl
  | some task =>
      obtain ⟨reply, change, log, made, ends⟩ := Session.call_ends asked
      rw [made] at abiding ⊢
      exact (ends.accounted kept.accounted abiding).transport rfl rfl

/-- A call changes no byte of a live block. -/
theorem byteAt_call
    (kept : process.Kept flight)
    {call : Call}
    (abiding : Dealing.Abiding (process.call call).2.dealings)
    {addr : Nat}
    (live : process.Live addr) :
    (process.call call).2.memory.byteAt addr = process.memory.byteAt addr := by
  -- Each tier takes in a segment that is apart from the one that the byte lies in.
  obtain ⟨tier, held, member, has⟩ := kept.inside live
  rw [dealings, session_call] at abiding
  have grown : ∀ tier,
      Allocator.GrownApart process.session.engine.tiers (process.session.engine.tiers.get tier)
        ((process.session.call process.thread call).2.engine.tiers.get tier) := by
    intro tier
    cases asked : call.task? (process.session.active process.thread) with
    | none =>
        obtain ⟨log, made⟩ := Session.call_of_no_task asked
        rw [made]
        exact .inl rfl
    | some task =>
        obtain ⟨reply, change, log, made, ends⟩ := Session.call_ends asked
        rw [made] at abiding ⊢
        exact ends.grownApart kept.accounted abiding tier
  rw [call_eq]
  exact
    (byteAt_contentsAfter _ (grown .cxl) member has).trans
      (byteAt_contentsAfter _ (grown .host) member has)

end Kept

end ProcessHeap

end TierHeap
