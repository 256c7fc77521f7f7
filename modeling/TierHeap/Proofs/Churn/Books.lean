import TierHeap.Proofs.Churn.Workers
import TierHeap.Proofs.Engine.Changes
import TierHeap.Proofs.Mode.Slots

/-!
# The books of a churn

The blocks in the table are those that the workers hold, and the counters of the engine are the
tallies of the workers added up (`Books`).  Each call of a worker keeps the books, and the worker
that gets the reply stays sound.
-/

namespace TierHeap

open Churn (TierTally)

/-- The address and the tier of a block, as a worker notes them. -/
def Block.ticket (block : Block) : Nat × Tier :=
  (block.addr, block.tier)

/-- The counters are these outcomes, as words. -/
structure TierCounters.Shows
    (counters : TierCounters)
    (outcomes : TierTally) : Prop where
  allocations : counters.allocations = Word.wrap outcomes.allocations
  frees : counters.frees = Word.wrap outcomes.frees
  outOfMemory : counters.outOfMemory = Word.wrap outcomes.outOfMemory

namespace Churn

open Worker (Sound)

variable {β : Type}

theorem TierTally.add_left_comm (x y z : TierTally) : x.add (y.add z) = y.add (x.add z) := by
  simp only [add, Nat.add_left_comm]

def total
    (workers : List Worker)
    (tier : Tier) : TierTally :=
  workers.foldr (fun worker outcomes => (worker.tally.tiers.get tier).add outcomes) ⟨0, 0, 0⟩

theorem total_perm
    {first second : List Worker}
    (same : first.Perm second)
    (tier : Tier) :
    total first tier = total second tier := by
  have comm : LeftCommutative fun (worker : Worker) (outcomes : TierTally) =>
      (worker.tally.tiers.get tier).add outcomes :=
    ⟨fun _ _ _ => TierTally.add_left_comm _ _ _⟩
  exact same.foldr_eq _

theorem wrap_succ
    {counter part rest : Nat}
    (exact : counter = Word.wrap (part + rest)) :
    Word.add counter 1 = Word.wrap (part + 1 + rest) := by
  rw [exact, Word.add, Word.wrap, Word.wrap, Nat.mod_add_mod, Nat.add_right_comm]

/-- The counters of each tier show the outcomes of the workers. -/
def Counted
    (metrics : Metrics)
    (workers : List Worker) : Prop :=
  ∀ tier, (metrics.tiers.get tier).Shows (total workers tier)

namespace Counted

variable {metrics : Metrics} {worker : Worker} {others : List Worker}

/-- What is counted for one worker on one tier. -/
theorem change
    (counted : Counted metrics (worker :: others))
    {after : Worker}
    {tier : Tier}
    {count : TierCounters → TierCounters}
    (onTier : ∀ counters rest,
      TierCounters.Shows counters ((worker.tally.tiers.get tier).add rest) →
        (count counters).Shows ((after.tally.tiers.get tier).add rest))
    (elsewhere : ∀ other, other ≠ tier →
      after.tally.tiers.get other = worker.tally.tiers.get other) :
    Counted { metrics with tiers := metrics.tiers.modify tier count } (after :: others) := by
  intro other
  by_cases own : other = tier
  · subst own
    rw [PerTier.get_modify_self]
    exact onTier _ _ (counted other)
  · rw [PerTier.get_modify_other _ own, total, List.foldr_cons, elsewhere other own]
    exact counted other

theorem onAllocate
    (counted : Counted metrics (worker :: others))
    (tier : Tier)
    (size : Nat)
    (grew : Bool)
    (addr : Nat) :
    Counted (metrics.onAllocate tier size grew)
      (worker.receiveAllocation tier (.address addr) :: others) := by
  refine counted.change ?_ fun other different => PerTier.get_set_other _ different _
  intro counters rest shows
  simp only [Worker.receiveAllocation, Tally.countAllocation, PerTier.get_modify_self]
  exact ⟨wrap_succ shows.allocations, shows.frees, shows.outOfMemory⟩

theorem onOutOfMemory
    (counted : Counted metrics (worker :: others))
    (tier : Tier)
    (size : Nat) :
    Counted (metrics.onOutOfMemory tier)
      (worker.receiveAllocation tier (.refused (.outOfMemory tier size)) :: others) := by
  refine counted.change ?_ fun other different => PerTier.get_set_other _ different _
  intro counters rest shows
  simp only [Worker.receiveAllocation, Tally.countOutOfMemory, PerTier.get_modify_self]
  exact ⟨shows.allocations, shows.frees, wrap_succ shows.outOfMemory⟩

theorem onFree
    (counted : Counted metrics (worker :: others))
    (tier : Tier)
    (size : Nat) :
    Counted (metrics.onFree tier size) (worker.receiveFree tier (.freed tier) :: others) := by
  refine counted.change ?_ fun other different => PerTier.get_set_other _ different _
  intro counters rest shows
  simp only [Worker.receiveFree, Tally.countFree, PerTier.get_modify_self]
  exact ⟨shows.allocations, wrap_succ shows.frees, shows.outOfMemory⟩

end Counted

/-- The engine is accounted for, its table has the blocks that the workers hold, and its
counters show their outcomes. -/
structure Books
    (session : Session (Recorder β))
    (workers : List Worker) : Prop where
  accounted : session.engine.Accounted []
  owned : (session.engine.table.blocks.map Block.ticket).Perm (workers.flatMap Worker.live)
  counted : Counted session.engine.metrics workers

namespace Books

variable {session : Session (Recorder β)} {worker : Worker} {others : List Worker}

theorem perm
    {first second : List Worker}
    (books : Books session first)
    (same : first.Perm second) :
    Books session second := by
  refine ⟨books.accounted, books.owned.trans (same.flatMap_right _), fun tier => ?_⟩
  rw [← total_perm same]
  exact books.counted tier

/-- The books are about what workers hold and what they have counted. -/
theorem congr
    (books : Books session (worker :: others))
    {after : Worker}
    (live : after.live = worker.live)
    (tally : after.tally = worker.tally) :
    Books session (after :: others) := by
  refine ⟨books.accounted, ?_, fun tier => ?_⟩
  · rw [List.flatMap_cons, live]
    exact books.owned
  · rw [total, List.foldr_cons, tally]
    exact books.counted tier

/-- A block that a worker holds is in the table. -/
theorem found
    (books : Books session (worker :: others))
    {addr : Nat}
    {tier : Tier}
    (held : (addr, tier) ∈ worker.live) :
    ∃ block, session.engine.table.get? addr = some block ∧ block.tier = tier := by
  have member : (addr, tier) ∈ session.engine.table.blocks.map Block.ticket :=
    books.owned.mem_iff.mpr (List.mem_flatMap.mpr ⟨worker, List.mem_cons_self, held⟩)
  obtain ⟨block, inTable, ticket⟩ := List.mem_map.mp member
  cases ticket
  exact ⟨block, books.accounted.filed.mem_blocks_iff.mp inTable, rfl⟩

variable [Backend β]

/-- Selecting a tier leaves the books as they are. -/
theorem setMode
    {workers : List Worker}
    (books : Books session workers)
    (thread : Nat)
    (tier : Tier) :
    Books (session.call thread (.setMode tier)).2 workers := by
  have asked : Call.task? (session.active thread) (.setMode tier) = none := rfl
  obtain ⟨log, made⟩ := Session.call_of_no_task asked
  rw [made]
  exact ⟨books.accounted.transport rfl rfl, books.owned, books.counted⟩

/-- An allocation of a valid size is either served, and the worker holds one more block, or
counted as one that the tier could not supply. -/
theorem allocate
    {plan : Plan}
    {scope : ModeScope}
    (books : Books session (worker :: others))
    (sound : worker.Sound plan scope)
    (budget : worker.asked + worker.opsLeft < plan.opsPerThread)
    (room : worker.live.length < plan.liveBound)
    {thread : Nat}
    {call : Call}
    {tier : Tier}
    {size : Nat}
    (asked : call.task? (session.active thread) = some (.allocate tier size granule))
    (valid : 0 < size ∧ size ≤ largestRequest)
    (abiding : Dealing.Abiding (session.call thread call).2.dealings) :
    Books (session.call thread call).2
        (worker.receiveAllocation tier (session.call thread call).1 :: others) ∧
      (worker.receiveAllocation tier (session.call thread call).1).Sound plan scope := by
  obtain ⟨kept, fresh⟩ := Session.accounted_call books.accounted abiding
  obtain ⟨reply, change, log, made, ends⟩ := Session.call_ends asked
  rw [made] at kept fresh ⊢
  cases ends with
  | invalid invalid =>
      rw [Engine.reserveAligned_granule] at invalid
      have outOfBounds := (Engine.reserve_eq_error invalid).2
      omega
  | exhausted rounded tried =>
      exact ⟨⟨kept, books.owned, books.counted.onOutOfMemory tier size⟩,
        sound.exhausted budget tier size⟩
  | allocated rounded tried =>
      rename_i reserved carve allocator
      -- The backend owes a place that it has not dealt out, so the block replaces none.
      have absent := fresh carve.addr rfl
      refine ⟨⟨kept, ?_, books.counted.onAllocate tier size carve.grew carve.addr⟩,
        sound.allocated budget room tier carve.addr⟩
      let block : Block := ⟨carve.addr, size, carve.reserved, tier⟩
      have entered := (@BlockTable.insert_perm _ block absent).map Block.ticket
      have held : (worker.receiveAllocation tier (.address carve.addr)).live ++
          others.flatMap Worker.live =
            worker.live ++ block.ticket :: others.flatMap Worker.live :=
        List.append_assoc _ _ _
      rw [List.flatMap_cons, held]
      exact (entered.trans (books.owned.cons block.ticket)).trans List.perm_middle.symm

/-- The release of a block that a worker holds is served by the tier that the block was asked
for on. -/
theorem release
    {plan : Plan}
    {scope : ModeScope}
    (books : Books session (worker :: others))
    (sound : worker.Sound plan scope)
    (ready : worker.pending = none)
    {thread addr : Nat}
    {tier : Tier}
    {rest : List (Nat × Tier)}
    (split : ((addr, tier) :: rest).Perm worker.live)
    (abiding : Dealing.Abiding (session.call thread (.free addr)).2.dealings) :
    Books (session.call thread (.free addr)).2
        ({ worker with live := rest }.receiveFree tier (session.call thread (.free addr)).1 ::
          others) ∧
      ({ worker with live := rest }.receiveFree tier
        (session.call thread (.free addr)).1).Sound plan scope := by
  obtain ⟨kept, -⟩ := Session.accounted_call books.accounted abiding
  obtain ⟨block, found, ofTier⟩ := books.found (split.mem_iff.mp List.mem_cons_self)
  have asked : Call.task? (session.active thread) (.free addr) = some (.free addr) := rfl
  obtain ⟨reply, change, log, made, ends⟩ := Session.call_ends asked
  rw [made] at kept ⊢
  cases ends with
  | unknownFree absent =>
      rw [found] at absent
      cases absent
  | freed foundAgain =>
      rw [found] at foundAgain
      cases foundAgain
      subst ofTier
      have counted : Counted session.engine.metrics ({ worker with live := rest } :: others) :=
        books.counted
      refine ⟨⟨kept, ?_, counted.onFree block.tier block.size⟩, sound.released ready split⟩
      have ticket : block.ticket = (addr, block.tier) := by
        rw [Block.ticket, books.accounted.filed.get?_addr found]
      have before := (BlockTable.remove_perm found).map Block.ticket
      rw [List.map_cons, ticket] at before
      have held := books.owned.trans (split.symm.append_right (others.flatMap Worker.live))
      exact (before.symm.trans held).cons_inv

end Books

end Churn

end TierHeap
