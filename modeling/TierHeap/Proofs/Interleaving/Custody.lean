import TierHeap.Proofs.Interleaving.Recording
import TierHeap.Proofs.Interleaving.Runs

/-!
# Custody of ranges

An outstanding range has exactly one owner: an entry of the table, an allocation that has
carved a block and not entered it yet, or a free that has taken a block out and not returned
it yet.  Threads that keep the books together leave everything in order between any two steps
(`Machine.Accounted.inOrder`).
-/

namespace TierHeap.Interleaving

variable {β : Type}

/-- Who has a range of a tier. -/
inductive Owner where
  /-- The entry of the table at an address. -/
  | entry (addr : Nat)
  /-- The allocation of a thread, between carving a block and entering it. -/
  | allocation (number : Nat)
  /-- The free of a thread, between taking a block out and returning it. -/
  | free (number : Nat)
  deriving DecidableEq, Repr

namespace Phase

/-- The block that an allocation has carved and not entered. -/
def carvedBlock? : Phase → Option Block
  | .carved _ block _ => some block
  | _ => none

/-- The block that a free has taken out and not returned. -/
def removedBlock? : Phase → Option Block
  | .removed block => some block
  | _ => none

/-- What a thread with a block in its hands is doing. -/
def owner (number : Nat) : Phase → Owner
  | .carved _ _ _ => .allocation number
  | _ => .free number

end Phase

namespace Machine

def block?
    (machine : Machine β) : Owner → Option Block
  | .entry addr => machine.session.engine.table.get? addr
  | .allocation number =>
      machine.threads[number]?.bind fun thread => thread.phase.carvedBlock?
  | .free number => machine.threads[number]?.bind fun thread => thread.phase.removedBlock?

/-- No call is in flight. -/
def AtRest (machine : Machine β) : Prop :=
  ∀ thread ∈ machine.threads, thread.phase = .idle

/-- What threads may rely on between any two steps. -/
structure InOrder (machine : Machine β) : Prop where
  /-- No entry ever displaced another. -/
  undisplaced : ∀ block displaced,
    Event.entered block displaced ∈ machine.history → displaced = none
  /-- Every outstanding range has exactly one owner. -/
  owned : ∀ held ∈ outstanding machine.history,
    ∃! owner, (machine.block? owner).map Block.holding = some held
  /-- What has an owner is outstanding. -/
  held : ∀ owner block,
    machine.block? owner = some block → block.holding ∈ outstanding machine.history
  /-- What is taken out was entered and not taken out before. -/
  taken : ∀ later addr earlier,
    machine.history = later ++ .removed addr :: earlier → present addr earlier = true
  /-- A block is taken out at most once before another is entered at its address. -/
  removedOnce : ∀ later block displaced earlier,
    machine.history = later ++ .entered block displaced :: earlier →
      (∀ other found, Event.entered other found ∈ later → other.addr ≠ block.addr) →
        later.count (.removed block.addr) ≤ 1
  /-- With no call in flight, the table agrees with the tiers and with the gauges. -/
  reconciled : machine.AtRest → machine.session.engine.Reconciled

theorem place_of_block?
    {machine : Machine β}
    {owner : Owner}
    {block : Block}
    (found : machine.block? owner = some block) :
    (∃ addr, owner = .entry addr ∧ machine.session.engine.table.get? addr = some block) ∨
      ∃ (number : Nat) (thread : Thread), machine.threads[number]? = some thread ∧
        block ∈ thread.phase.flight ∧ owner = thread.phase.owner number := by
  cases owner with
  | entry addr =>
      exact .inl ⟨addr, rfl, found⟩
  | allocation number =>
      obtain ⟨thread, present, carved⟩ := Option.bind_eq_some_iff.mp found
      refine .inr ⟨number, thread, present, ?_⟩
      cases phase : thread.phase <;> simp_all [Phase.carvedBlock?, Phase.flight, Phase.owner]
  | free number =>
      obtain ⟨thread, present, removed⟩ := Option.bind_eq_some_iff.mp found
      refine .inr ⟨number, thread, present, ?_⟩
      cases phase : thread.phase <;> simp_all [Phase.removedBlock?, Phase.flight, Phase.owner]

theorem block?_owner
    {machine : Machine β}
    {number : Nat}
    {thread : Thread}
    (present : machine.threads[number]? = some thread)
    {block : Block}
    (member : block ∈ thread.phase.flight) :
    machine.block? (thread.phase.owner number) = some block := by
  cases phase : thread.phase <;>
    simp_all [Phase.flight, Phase.owner, block?, Phase.carvedBlock?, Phase.removedBlock?]

namespace Accounted

variable {machine : Machine (Recorder β)}

theorem exists_owner
    (accounted : machine.Accounted)
    {block : Block}
    (member :
      block ∈ machine.session.engine.table.blocks ++ gather Phase.flight machine.threads) :
    ∃ owner, machine.block? owner = some block := by
  rcases List.mem_append.mp member with inTable | inFlight
  · exact ⟨.entry block.addr, accounted.kept.accounted.filed.mem_blocks_iff.mp inTable⟩
  · obtain ⟨thread, threadMember, inHands⟩ := List.mem_flatMap.mp inFlight
    obtain ⟨number, present⟩ := List.mem_iff_getElem?.mp threadMember
    exact ⟨thread.phase.owner number, block?_owner present inHands⟩

theorem mem_books
    (accounted : machine.Accounted)
    {owner : Owner}
    {block : Block}
    (found : machine.block? owner = some block) :
    block ∈ machine.session.engine.table.blocks ++ gather Phase.flight machine.threads := by
  rcases place_of_block? found with ⟨addr, -, inTable⟩ | ⟨number, thread, present, inHands, -⟩
  · have filed := accounted.kept.accounted.filed
    rw [← filed.get?_addr inTable] at inTable
    exact List.mem_append_left _ (filed.mem_blocks_iff.mpr inTable)
  · have threadMember := List.mem_of_getElem? present
    exact List.mem_append_right _ (List.mem_flatMap.mpr ⟨thread, threadMember, inHands⟩)

theorem apart_in_flight
    (accounted : machine.Accounted)
    (abiding : Dealing.Abiding machine.dealings)
    {first second : Nat}
    (different : first ≠ second)
    {firstThread secondThread : Thread}
    (firstPresent : machine.threads[first]? = some firstThread)
    (secondPresent : machine.threads[second]? = some secondThread)
    {firstBlock secondBlock : Block}
    (inFirst : firstBlock ∈ firstThread.phase.flight)
    (inSecond : secondBlock ∈ secondThread.phase.flight) :
    firstBlock.span.Apart secondBlock.span := by
  have books := accounted.kept.accounted.backed.pairwise_apart abiding
  have threads :=
    (List.pairwise_flatMap.mp (List.pairwise_append.mp books).2.1).2
  obtain ⟨firstInside, rfl⟩ := List.getElem?_eq_some_iff.mp firstPresent
  obtain ⟨secondInside, rfl⟩ := List.getElem?_eq_some_iff.mp secondPresent
  have ordered := List.pairwise_iff_getElem.mp threads
  rcases Nat.lt_or_gt_of_ne different with before | after
  · exact ordered first second firstInside secondInside before _ inFirst _ inSecond
  · exact (ordered second first secondInside firstInside after _ inSecond _ inFirst).symm

theorem apart_of_ne
    (accounted : machine.Accounted)
    (abiding : Dealing.Abiding machine.dealings)
    {first second : Owner}
    (different : first ≠ second)
    {firstBlock secondBlock : Block}
    (firstFound : machine.block? first = some firstBlock)
    (secondFound : machine.block? second = some secondBlock) :
    firstBlock.span.Apart secondBlock.span := by
  have filed := accounted.kept.accounted.filed
  have books :=
    List.pairwise_append.mp (accounted.kept.accounted.backed.pairwise_apart abiding)
  -- Entries are told apart by their addresses and threads by their numbers.
  rcases place_of_block? firstFound with
    ⟨firstAddr, rfl, firstEntry⟩ | ⟨firstNumber, firstThread, firstPresent, firstHands, rfl⟩
  · have firstKey := filed.get?_addr firstEntry
    rw [← firstKey] at firstEntry
    have firstMember := filed.mem_blocks_iff.mpr firstEntry
    rcases place_of_block? secondFound with
      ⟨secondAddr, rfl, secondEntry⟩ | ⟨number, thread, present, inHands, rfl⟩
    · have secondKey := filed.get?_addr secondEntry
      rw [← secondKey] at secondEntry
      have secondMember := filed.mem_blocks_iff.mpr secondEntry
      have symmetric : Std.Symm fun first second : Block => first.span.Apart second.span :=
        ⟨fun _ _ apart => apart.symm⟩
      apply books.1.forall firstMember secondMember
      rintro rfl
      exact different (by rw [← firstKey, ← secondKey])
    · have threadMember := List.mem_of_getElem? present
      exact books.2.2 _ firstMember _ (List.mem_flatMap.mpr ⟨thread, threadMember, inHands⟩)
  · rcases place_of_block? secondFound with
      ⟨secondAddr, rfl, secondEntry⟩ | ⟨number, thread, present, inHands, rfl⟩
    · have secondKey := filed.get?_addr secondEntry
      rw [← secondKey] at secondEntry
      have secondMember := filed.mem_blocks_iff.mpr secondEntry
      have threadMember := List.mem_of_getElem? firstPresent
      exact (books.2.2 _ secondMember _
        (List.mem_flatMap.mpr ⟨firstThread, threadMember, firstHands⟩)).symm
    · refine accounted.apart_in_flight abiding ?_ firstPresent present firstHands inHands
      rintro rfl
      rw [firstPresent] at present
      cases present
      exact different rfl

/-- Every outstanding range has exactly one owner. -/
theorem existsUnique_owner
    (accounted : machine.Accounted)
    (abiding : Dealing.Abiding machine.dealings)
    {held : Tier × Span}
    (member : held ∈ outstanding machine.history) :
    ∃! owner, (machine.block? owner).map Block.holding = some held := by
  obtain ⟨block, inBooks, rfl⟩ := List.mem_map.mp (accounted.kept.owned.mem_iff.mp member)
  obtain ⟨owner, found⟩ := accounted.exists_owner inBooks
  refine ⟨owner, ?_, ?_⟩
  · dsimp only
    rw [found, Option.map_some]
  · intro other same
    obtain ⟨otherBlock, otherFound, sameHolding⟩ := Option.map_eq_some_iff.mp same
    by_contra different
    have apart := accounted.apart_of_ne abiding different otherFound found
    have sameSpan : otherBlock.span = block.span := congrArg Prod.snd sameHolding
    have nonempty := (accounted.kept.accounted.backed.holds inBooks).nonempty
    rw [sameSpan] at apart
    simp only [Span.Apart, Span.stop] at apart
    omega

/-- Between two steps everything is in order. -/
theorem inOrder
    (accounted : machine.Accounted)
    (abiding : Dealing.Abiding machine.dealings) :
    machine.InOrder where
  undisplaced block displaced member := accounted.kept.orderly.undisplaced member
  owned held member := accounted.existsUnique_owner abiding member
  held owner block found :=
    accounted.kept.owned.mem_iff.mpr (List.mem_map_of_mem (accounted.mem_books found))
  taken later addr earlier whole := by
    have orderly := accounted.kept.orderly
    rw [whole] at orderly
    exact orderly.present_of_removed
  removedOnce later block displaced earlier whole only := by
    have orderly := accounted.kept.orderly
    rw [whole] at orderly
    exact orderly.removed_once only
  reconciled atRest := by
    have kept := accounted.kept
    have nothing (part : Phase → List Block) (idle : part .idle = []) :
        gather part machine.threads = [] := gather_of_idle idle atRest
    rw [nothing Phase.flight rfl, nothing Phase.incoming rfl, nothing Phase.outgoing rfl] at kept
    have gauged := kept.gauged
    rw [List.append_nil] at gauged
    exact kept.accounted.reconciled gauged abiding

end Accounted

/-- Records are no part of what threads rely on. -/
theorem InOrder.unrecorded
    {machine : Machine (Recorder β)}
    (inOrder : machine.InOrder) :
    machine.unrecorded.InOrder := by
  have sameBlock : ∀ owner, machine.unrecorded.block? owner = machine.block? owner := by
    intro owner
    cases owner <;> rfl
  refine ⟨inOrder.undisplaced, ?_, ?_, inOrder.taken, inOrder.removedOnce, ?_⟩
  · intro held member
    simp only [sameBlock]
    exact inOrder.owned held member
  · intro owner block found
    rw [sameBlock] at found
    exact inOrder.held owner block found
  · intro atRest
    have reconciled := inOrder.reconciled atRest
    refine ⟨?_, reconciled.live, reconciled.bytes, reconciled.liveBlocks,
      reconciled.outstandingBytes⟩
    exact (Engine.unrecorded_verify _).trans reconciled.verified

end Machine

end TierHeap.Interleaving
