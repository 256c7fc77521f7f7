import Mathlib.Data.List.Perm.Basic
import TierHeap.Churn.Run

/-!
# What workers do

A worker asks for one of four things: the selection of a tier, an allocation on a given tier, the
allocation whose tier it has just selected, or the release of a block it holds (`Worker.Asks`).
Whatever the random numbers are, sizes are valid and the list of live blocks stays within its
bound; a worker whose requests are served as they should be stays sound (`Worker.Sound`) and has
fewer calls left after each one (`Worker.turnsLeft`).
-/

namespace TierHeap.Churn

def Plan.liveBound (plan : Plan) : Nat :=
  max plan.maxLivePerThread 1

namespace Worker

/-- The removed entry and the list without it are the list, in some order. -/
theorem swapRemove_perm
    {live : List (Nat × Tier)}
    {index : Nat}
    {entry : Nat × Tier}
    (found : live[index]? = some entry) :
    (entry :: swapRemove live index).Perm live := by
  obtain ⟨inside, rfl⟩ := List.getElem?_eq_some_iff.mp found
  cases ends : live.getLast? with
  | none =>
      rw [List.getLast?_eq_none_iff.mp ends] at inside
      cases inside
  | some last =>
      have lastSet : (live.set index last).getLast? = some last := by
        rw [List.getLast?_eq_getElem?] at ends ⊢
        rw [List.length_set, List.getElem?_set]
        split
        · rfl
        · exact ends
      have whole : ((live.set index last).dropLast ++ [last]) = live.set index last :=
        List.dropLast_append_getLast? last lastSet
      have rest : (live.set index last).dropLast.Perm (live.eraseIdx index) := by
        have placed := List.set_perm_cons_eraseIdx inside last
        rw [← whole] at placed
        exact ((List.perm_append_singleton _ _).symm.trans placed).cons_inv
      simp only [swapRemove, ends]
      exact (rest.cons _).trans (List.getElem_cons_eraseIdx_perm inside)

/-- Every size that is chosen is a valid one. -/
theorem chosenSize_bounds
    (plan : Plan)
    (random : UInt64) :
    0 < chosenSize plan random ∧ chosenSize plan random ≤ largestRequest := by
  have word : (random >>> 16).toNat ≤ 281474976710655 := by
    have small := random.toNat_lt
    rw [UInt64.toNat_shiftRight, Nat.shiftRight_eq_div_pow]
    have places : (UInt64.toNat 16) % 64 = 16 := by decide
    rw [places]
    omega
  have part := Nat.mod_le (random >>> 16).toNat (max plan.maxSize 1)
  rw [chosenSize, largestRequest]
  omega

theorem room_of_wantsAllocation
    {plan : Plan}
    {random : UInt64}
    {held : Nat}
    (wants : wantsAllocation plan random held = true) :
    held < plan.liveBound := by
  simp only [wantsAllocation, Bool.or_eq_true, beq_iff_eq, Bool.and_eq_true,
    decide_eq_true_eq] at wants
  rw [Plan.liveBound]
  omega

theorem held_of_not_wantsAllocation
    {plan : Plan}
    {random : UInt64}
    {held : Nat}
    (wants : ¬wantsAllocation plan random held = true) :
    0 < held := by
  simp only [wantsAllocation, Bool.or_eq_true, beq_iff_eq, not_or] at wants
  omega

/-- What a worker may ask for, and what it does with the reply. -/
inductive Asks
    (plan : Plan)
    (scope : ModeScope)
    (worker : Worker) : Call → (Reply → Worker) → Prop where
  | select
      {random : UInt64}
      {opsLeft size : Nat}
      {tier : Tier}
      (threadScoped : scope = .thread)
      (ready : worker.pending = none)
      (operation : worker.opsLeft = opsLeft + 1)
      (room : worker.live.length < plan.liveBound)
      (valid : 0 < size ∧ size ≤ largestRequest) :
      Asks plan scope worker (.setMode tier) fun _ =>
        { worker with random := random, opsLeft := opsLeft, pending := some (tier, size) }
  | pin
      {random : UInt64}
      {opsLeft size : Nat}
      {tier : Tier}
      (ready : worker.pending = none)
      (operation : worker.opsLeft = opsLeft + 1)
      (room : worker.live.length < plan.liveBound)
      (valid : 0 < size ∧ size ≤ largestRequest) :
      Asks plan scope worker (.allocateOn tier size)
        ({ worker with random := random, opsLeft := opsLeft }.receiveAllocation tier)
  | route
      {size : Nat}
      {tier : Tier}
      (pending : worker.pending = some (tier, size)) :
      Asks plan scope worker (.allocate size) (worker.receiveAllocation tier)
  | release
      {random : UInt64}
      {opsLeft addr : Nat}
      {tier : Tier}
      {rest : List (Nat × Tier)}
      (ready : worker.pending = none)
      (operation : opsLeft ≤ worker.opsLeft)
      (split : ((addr, tier) :: rest).Perm worker.live) :
      Asks plan scope worker (.free addr)
        ({ worker with random := random, opsLeft := opsLeft, live := rest }.receiveFree tier)

/-- The next call of a worker is one of those. -/
theorem asks_of_next?
    {plan : Plan}
    {scope : ModeScope}
    {worker : Worker}
    {call : Call}
    {receive : Reply → Worker}
    (next : worker.next? plan scope = some (call, receive)) :
    worker.Asks plan scope call receive := by
  obtain ⟨random, opsLeft, live, tally, pending, failed⟩ := worker
  rw [next?] at next
  split at next
  · cases next
  · split at next
    · rename_i tier size same
      obtain rfl : pending = some (tier, size) := same
      cases next
      exact .route rfl
    · rename_i noPending noOps
      obtain rfl : pending = none := noPending
      cases live with
      | nil =>
          cases next
      | cons entry rest =>
          cases next
          exact @Asks.release _ _ _ random opsLeft _ _ _ rfl (Nat.le_refl _) (.refl _)
    · rename_i left noPending someOps
      obtain rfl : pending = none := noPending
      obtain rfl : opsLeft = left + 1 := someOps
      dsimp only at next
      split at next
      · rename_i wants
        have room := room_of_wantsAllocation wants
        have valid := chosenSize_bounds plan (nextRandom random)
        cases scope with
        | process =>
            cases next
            exact .pin rfl rfl room valid
        | thread =>
            cases next
            exact .select rfl rfl rfl room valid
      · obtain ⟨entry, found, same⟩ := Option.map_eq_some_iff.mp next
        cases same
        exact .release rfl (Nat.le_succ left) (swapRemove_perm found)

/-- Whatever the reply to an allocation, the worker may ask for something else next. -/
theorem pending_receiveAllocation
    (worker : Worker)
    (tier : Tier)
    (reply : Reply) :
    (worker.receiveAllocation tier reply).pending = none := by
  rw [receiveAllocation.eq_def]
  split <;> rfl

/-- A worker that has no next call and has not given up has made all its calls and holds
nothing. -/
theorem finished_of_next?
    {plan : Plan}
    {scope : ModeScope}
    {worker : Worker}
    (next : worker.next? plan scope = none)
    (served : worker.failed = none) :
    worker.pending = none ∧ worker.opsLeft = 0 ∧ worker.live = [] := by
  obtain ⟨random, opsLeft, live, tally, pending, failed⟩ := worker
  obtain rfl : failed = none := served
  cases pending with
  | some request =>
      cases next
  | none =>
      cases opsLeft with
      | zero =>
          cases live with
          | nil =>
              exact ⟨rfl, rfl, rfl⟩
          | cons entry rest =>
              cases next
      | succ left =>
          rw [next?] at next
          simp only [Option.isSome_none, Bool.false_eq_true, if_false] at next
          split at next
          · cases next
          · rename_i wants
            have held := held_of_not_wantsAllocation wants
            rw [freeAt, Option.map_eq_none_iff, List.getElem?_eq_none_iff] at next
            exact absurd (Nat.mod_lt _ held) (Nat.not_lt.mpr next)

/-! ## Soundness -/

/-- The allocations that a worker has asked for, served or not. -/
def asked (worker : Worker) : Nat :=
  worker.tally.tiers.host.allocations + worker.tally.tiers.host.outOfMemory +
    worker.tally.tiers.cxl.allocations + worker.tally.tiers.cxl.outOfMemory

/-- A worker that has been served as it should be: it has not given up, no release has gone
wrong, it holds no more than it may, and what it has allocated on a tier is what it has
released there and what it holds. -/
structure Sound
    (plan : Plan)
    (scope : ModeScope)
    (worker : Worker) : Prop where
  served : worker.failed = none
  room : worker.live.length ≤ plan.liveBound
  peak : worker.tally.peakLive ≤ plan.liveBound
  matched : worker.tally.tierMismatches = 0
  known : worker.tally.unknownFrees = 0
  balanced : ∀ tier,
    (worker.tally.tiers.get tier).allocations =
      (worker.tally.tiers.get tier).frees + worker.live.countP fun entry => entry.2 = tier
  /-- Every allocation is an operation. -/
  budget :
    worker.asked + worker.opsLeft + (if worker.pending.isSome then 1 else 0) ≤ plan.opsPerThread
  /-- A request whose tier has been selected is valid, and there is room for its block. -/
  selected : ∀ tier size, worker.pending = some (tier, size) →
    scope = .thread ∧ worker.live.length < plan.liveBound ∧ 0 < size ∧ size ≤ largestRequest

theorem sound_start
    (plan : Plan)
    (scope : ModeScope)
    (index : Nat) :
    (start plan index).Sound plan scope where
  served := rfl
  room := Nat.zero_le _
  peak := Nat.zero_le _
  matched := rfl
  known := rfl
  balanced tier := by cases tier <;> rfl
  budget := by simp [asked, start, Tally.zero, PerTier.both]
  selected _ _ pending := by cases pending

namespace Sound

variable {plan : Plan} {scope : ModeScope} {worker : Worker}

theorem select
    (sound : worker.Sound plan scope)
    (threadScoped : scope = .thread)
    (ready : worker.pending = none)
    (room : worker.live.length < plan.liveBound)
    (random : UInt64)
    {opsLeft : Nat}
    (operation : worker.opsLeft = opsLeft + 1)
    (tier : Tier)
    {size : Nat}
    (valid : 0 < size ∧ size ≤ largestRequest) :
    Sound plan scope
      { worker with random := random, opsLeft := opsLeft, pending := some (tier, size) } := by
  have budget := sound.budget
  rw [ready, operation] at budget
  refine ⟨sound.served, sound.room, sound.peak, sound.matched, sound.known, sound.balanced,
    budget, ?_⟩
  intro chosen asked pending
  cases pending
  exact ⟨threadScoped, room, valid⟩

/-- Nothing of this depends on the random numbers, and operations may be left out. -/
theorem proceed
    (sound : worker.Sound plan scope)
    (random : UInt64)
    {opsLeft : Nat}
    (fewer : opsLeft ≤ worker.opsLeft) :
    Sound plan scope { worker with random := random, opsLeft := opsLeft } := by
  refine ⟨sound.served, sound.room, sound.peak, sound.matched, sound.known, sound.balanced, ?_,
    sound.selected⟩
  have budget := sound.budget
  simp only [asked] at budget ⊢
  omega

theorem allocated
    (sound : worker.Sound plan scope)
    (budget : worker.asked + worker.opsLeft < plan.opsPerThread)
    (room : worker.live.length < plan.liveBound)
    (tier : Tier)
    (addr : Nat) :
    (worker.receiveAllocation tier (.address addr)).Sound plan scope := by
  have longer : (worker.live ++ [(addr, tier)]).length ≤ plan.liveBound := by
    rw [List.length_append]
    exact room
  refine ⟨sound.served, longer, Nat.max_le.mpr ⟨sound.peak, longer⟩, sound.matched,
    sound.known, fun other => ?_, ?_, fun _ _ pending => by cases pending⟩
  · have balanced := sound.balanced other
    simp only [receiveAllocation, Tally.countAllocation, List.countP_append,
      List.countP_singleton]
    by_cases own : other = tier
    · subst own
      simp only [PerTier.modify, PerTier.get_set_self, decide_true, if_true]
      omega
    · have elsewhere : decide (tier = other) = false := decide_eq_false (Ne.symm own)
      simp only [PerTier.modify, PerTier.get_set_other _ own, elsewhere, Bool.false_eq_true,
        if_false]
      exact balanced
  · cases tier <;>
      simp [asked, receiveAllocation, Tally.countAllocation, PerTier.modify, PerTier.set,
        PerTier.get] at budget ⊢ <;>
      omega

theorem exhausted
    (sound : worker.Sound plan scope)
    (budget : worker.asked + worker.opsLeft < plan.opsPerThread)
    (tier : Tier)
    (size : Nat) :
    (worker.receiveAllocation tier (.refused (.outOfMemory tier size))).Sound plan scope := by
  refine ⟨sound.served, sound.room, sound.peak, sound.matched, sound.known, fun other => ?_, ?_,
    fun _ _ pending => by cases pending⟩
  · have balanced := sound.balanced other
    simp only [receiveAllocation, Tally.countOutOfMemory]
    by_cases own : other = tier
    · subst own
      simp only [PerTier.modify, PerTier.get_set_self]
      exact balanced
    · simp only [PerTier.modify, PerTier.get_set_other _ own]
      exact balanced
  · cases tier <;>
      simp [asked, receiveAllocation, Tally.countOutOfMemory, PerTier.modify, PerTier.set,
        PerTier.get] at budget ⊢ <;>
      omega

theorem released
    (sound : worker.Sound plan scope)
    (ready : worker.pending = none)
    {addr : Nat}
    {tier : Tier}
    {rest : List (Nat × Tier)}
    (split : ((addr, tier) :: rest).Perm worker.live) :
    ({ worker with live := rest }.receiveFree tier (.freed tier)).Sound plan scope := by
  have length := split.length_eq
  rw [List.length_cons] at length
  refine ⟨sound.served, Nat.le_trans (by simp only [receiveFree]; omega) sound.room, sound.peak,
    ?_, sound.known, fun other => ?_, ?_, ?_⟩
  · simp only [receiveFree, Tally.countFree, if_true]
    exact sound.matched
  · have balanced := sound.balanced other
    have counted := split.countP_eq fun entry => entry.2 = other
    rw [List.countP_cons] at counted
    simp only [receiveFree, Tally.countFree]
    by_cases own : other = tier
    · subst own
      simp only [PerTier.modify, PerTier.get_set_self, decide_true, if_true] at counted ⊢
      omega
    · have elsewhere : decide (tier = other) = false := decide_eq_false (Ne.symm own)
      simp only [PerTier.modify, PerTier.get_set_other _ own, elsewhere, Bool.false_eq_true,
        if_false] at counted ⊢
      omega
  · have budget := sound.budget
    cases tier <;> exact budget
  · intro chosen size pending
    rw [receiveFree, ready] at pending
    cases pending

end Sound

/-- A bound on the calls that a worker has still to make: it may select, allocate and release
for each operation. -/
def turnsLeft (worker : Worker) : Nat :=
  3 * worker.opsLeft + worker.live.length + (if worker.pending.isSome then 2 else 0)

theorem turnsLeft_start
    (plan : Plan)
    (index : Nat) :
    (start plan index).turnsLeft = callLimit plan :=
  rfl

/-- A worker without calls left has no next one. -/
theorem next?_of_turnsLeft
    {plan : Plan}
    {worker : Worker}
    (scope : ModeScope)
    (noTurns : worker.turnsLeft = 0) :
    worker.next? plan scope = none := by
  obtain ⟨random, opsLeft, live, tally, pending, failed⟩ := worker
  simp only [turnsLeft] at noTurns
  cases pending with
  | some request =>
      simp at noTurns
  | none =>
      obtain rfl : opsLeft = 0 := by omega
      obtain rfl : live = [] := List.eq_nil_of_length_eq_zero (by omega)
      cases failed <;> rfl

/-- Whatever the reply, a worker has fewer calls left. -/
theorem Asks.turnsLeft_lt
    {plan : Plan}
    {scope : ModeScope}
    {worker : Worker}
    {call : Call}
    {receive : Reply → Worker}
    (asks : worker.Asks plan scope call receive)
    (reply : Reply) :
    (receive reply).turnsLeft < worker.turnsLeft := by
  have received (asking : Worker) (tier : Tier) :
      (asking.receiveAllocation tier reply).turnsLeft ≤
        3 * asking.opsLeft + asking.live.length + 1 := by
    rw [receiveAllocation.eq_def]
    split
    · simp [turnsLeft]
      omega
    all_goals simp [turnsLeft]
  cases asks with
  | select threadScoped ready operation room valid =>
      simp only [turnsLeft, ready, operation, Option.isSome_some, Option.isSome_none, if_true]
      omega
  | @pin random opsLeft size tier ready operation room valid =>
      have after := received { worker with random := random, opsLeft := opsLeft } tier
      simp only [turnsLeft, ready, operation] at after ⊢
      omega
  | @route size tier pending =>
      have after := received worker tier
      simp only [turnsLeft, pending, Option.isSome_some, if_true] at after ⊢
      omega
  | release ready operation split =>
      have length := split.length_eq
      rw [List.length_cons] at length
      simp only [turnsLeft, receiveFree, ready]
      omega

end Worker

end TierHeap.Churn
