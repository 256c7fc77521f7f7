import Mathlib.Logic.Function.Iterate
import TierHeap.Proofs.Churn.Workers

/-!
# Courses of workers

A worker that is granted all that it asks for goes the same course whatever addresses it is given:
its outline, which tells of its blocks no more than their tiers, determines the outline after its
next call (`Worker.outline_of_next?`).  So two workers that started alike and have both finished
have the same outline (`Worker.OnCourse.outline_eq_of_finished`), whenever they have made their
calls.
-/

namespace TierHeap

def Call.selections : Call → Nat
  | .setMode _ => 1
  | _ => 0

namespace Churn.Worker

variable {plan : Plan} {scope : ModeScope} {worker : Worker}

/-- The reply grants what the worker asks for; a block that it releases is on the tier that it
was asked for on. -/
def Grants (worker : Worker) : Call → Reply → Prop
  | .setMode _, _ => True
  | .allocate _, .address _ => True
  | .allocateOn _ _, .address _ => True
  | .free addr, .freed tier => ∀ asked, (addr, asked) ∈ worker.live → asked = tier
  | _, _ => False

/-- An entry that tells the tier of its block only, also in the place of the address. -/
def blur (entry : Nat × Tier) : Nat × Tier :=
  (entry.2.raw, entry.2)

/-- The worker without the addresses of its blocks. -/
def outline (worker : Worker) : Worker :=
  { worker with live := worker.live.map blur }

/-- A reply that grants a call of an outline. -/
def grant : Call → Reply
  | .free addr => .freed ((Tier.ofRaw? addr).getD .host)
  | .setMode _ => .done
  | _ => .address 0

/-- The outline of a worker after its next call, if there is one and it is granted. -/
def goOn
    (plan : Plan)
    (scope : ModeScope)
    (worker : Worker) : Worker :=
  match worker.next? plan scope with
  | none => worker
  | some (call, receive) => (receive (grant call)).outline

theorem swapRemove_map
    (live : List (Nat × Tier))
    (index : Nat) :
    swapRemove (live.map blur) index = (swapRemove live index).map blur := by
  rw [swapRemove, swapRemove, List.getLast?_map]
  cases live.getLast? with
  | none =>
      rfl
  | some last =>
      simp only [Option.map_some, List.map_set, List.map_dropLast]

theorem blur_blur (entry : Nat × Tier) : blur (blur entry) = blur entry :=
  rfl

theorem outline_outline (worker : Worker) : worker.outline.outline = worker.outline := by
  simp only [outline, List.map_map, Function.comp_def, blur_blur]

/-- The address of a new block is lost in the outline. -/
theorem outline_receiveAllocation
    (worker : Worker)
    (tier : Tier)
    (addr : Nat) :
    (worker.receiveAllocation tier (.address addr)).outline =
      (worker.outline.receiveAllocation tier (.address 0)).outline := by
  simp [receiveAllocation, outline, blur, Function.comp_def]

theorem outline_receiveFree
    (worker : Worker)
    (tier : Tier)
    (reply : Reply) :
    (worker.receiveFree tier reply).outline = worker.outline.receiveFree tier reply :=
  rfl

/-- The next call of a worker that has an operation left. -/
theorem next?_operation
    (plan : Plan)
    (scope : ModeScope)
    (random : UInt64)
    (opsLeft : Nat)
    (live : List (Nat × Tier))
    (tally : Tally) :
    next? plan scope ⟨random, opsLeft + 1, live, tally, none, none⟩ =
      if wantsAllocation plan (nextRandom random) live.length then
        some
          (allocateOn ⟨nextRandom random, opsLeft, live, tally, none, none⟩ scope
            (chosenTier plan (nextRandom random)) (chosenSize plan (nextRandom random)))
      else
        freeAt ⟨nextRandom random, opsLeft, live, tally, none, none⟩
          ((nextRandom random >>> 24).toNat % live.length) :=
  rfl

/-- After a release that has been granted, the outline is that of an outline. -/
theorem outline_release
    {addr : Nat}
    {tier : Tier}
    (held : (addr, tier) ∈ worker.live)
    {reply : Reply}
    (granted : worker.Grants (.free addr) reply)
    (rest : Worker) :
    (rest.receiveFree tier reply).outline =
      (rest.outline.receiveFree tier (grant (.free tier.raw))).outline := by
  cases reply with
  | freed recorded =>
      have same := granted tier held
      subst same
      rw [grant, Tier.ofRaw?_raw, Option.getD_some, outline_receiveFree, outline_receiveFree,
        outline_outline]
  | _ =>
      cases granted

/-- What an outline asks for, beside what its worker asks for: either both have finished, or
what is granted to them leads to the same outline. -/
inductive Mirrors (worker : Worker) : Option Request → Option Request → Prop where
  | finished : worker.Mirrors none none
  | going
      {call mirrored : Call}
      {receive outlined : Reply → Worker}
      (same : ∀ reply, worker.Grants call reply →
        (receive reply).outline = (outlined (grant mirrored)).outline) :
      worker.Mirrors (some (call, receive)) (some (mirrored, outlined))

/-- Addresses have no part in what a worker asks for. -/
theorem mirrors_outline
    (plan : Plan)
    (scope : ModeScope)
    (worker : Worker) :
    worker.Mirrors (worker.next? plan scope) (worker.outline.next? plan scope) := by
  obtain ⟨random, opsLeft, live, tally, pending, failed⟩ := worker
  cases failed with
  | some err =>
      exact .finished
  | none =>
      cases pending with
      | some request =>
          refine .going fun reply granted => ?_
          cases reply with
          | address addr =>
              exact outline_receiveAllocation _ _ addr
          | _ =>
              cases granted
      | none =>
          cases opsLeft with
          | zero =>
              cases live with
              | nil =>
                  exact .finished
              | cons entry rest =>
                  exact .going fun _ granted => outline_release List.mem_cons_self granted _
          | succ opsLeft =>
              have blurred : outline ⟨random, opsLeft + 1, live, tally, none, none⟩ =
                  ⟨random, opsLeft + 1, live.map blur, tally, none, none⟩ := rfl
              rw [blurred, next?_operation, next?_operation, List.length_map]
              split
              · cases scope with
                | process =>
                    refine .going fun reply granted => ?_
                    cases reply with
                    | address addr =>
                        exact outline_receiveAllocation _ _ addr
                    | _ =>
                        cases granted
                | thread =>
                    exact .going fun _ _ => (outline_outline _).symm
              · rw [freeAt, freeAt, List.getElem?_map]
                cases found : live[(nextRandom random >>> 24).toNat % live.length]? with
                | none =>
                    exact .finished
                | some entry =>
                    refine .going fun _ granted => ?_
                    rw [swapRemove_map]
                    exact outline_release (List.mem_of_getElem? found) granted _

/-- The outline after a call that has been granted is that of the outline. -/
theorem outline_of_next?
    {call : Call}
    {receive : Reply → Worker}
    (next : worker.next? plan scope = some (call, receive))
    {reply : Reply}
    (granted : worker.Grants call reply) :
    (receive reply).outline = worker.outline.goOn plan scope := by
  have mirrors := worker.mirrors_outline plan scope
  rw [next] at mirrors
  rw [goOn]
  generalize worker.outline.next? plan scope = outlined at mirrors ⊢
  cases mirrors with
  | going same =>
      exact same reply granted

/-- The outline of a worker that has finished has finished. -/
theorem goOn_of_finished
    (finished : worker.next? plan scope = none) :
    worker.outline.goOn plan scope = worker.outline := by
  have mirrors := worker.mirrors_outline plan scope
  rw [finished] at mirrors
  rw [goOn]
  generalize worker.outline.next? plan scope = outlined at mirrors ⊢
  cases mirrors with
  | finished =>
      rfl

/-- The outline of a worker after so many calls that have been granted. -/
def course
    (plan : Plan)
    (scope : ModeScope)
    (index turns : Nat) : Worker :=
  (goOn plan scope)^[turns] (start plan index)

theorem outline_start
    (plan : Plan)
    (scope : ModeScope)
    (index : Nat) :
    (start plan index).outline = course plan scope index 0 :=
  rfl

/-- The worker is on its course. -/
def OnCourse
    (plan : Plan)
    (scope : ModeScope)
    (index : Nat)
    (worker : Worker) : Prop :=
  ∃ turns, worker.outline = course plan scope index turns

theorem OnCourse.next
    {index : Nat}
    (onCourse : worker.OnCourse plan scope index)
    {call : Call}
    {receive : Reply → Worker}
    (next : worker.next? plan scope = some (call, receive))
    {reply : Reply}
    (granted : worker.Grants call reply) :
    (receive reply).OnCourse plan scope index := by
  obtain ⟨turns, same⟩ := onCourse
  refine ⟨turns + 1, ?_⟩
  rw [outline_of_next? next granted, same, course, course, Function.iterate_succ_apply']

/-- From the turn on in which a worker has finished, its course stands still. -/
theorem outline_eq_of_le
    {index turns more : Nat}
    (same : worker.outline = course plan scope index turns)
    (finished : worker.next? plan scope = none)
    (fewer : turns ≤ more) :
    worker.outline = course plan scope index more := by
  obtain ⟨later, rfl⟩ := Nat.exists_eq_add_of_le fewer
  rw [course] at same
  rw [course, Nat.add_comm, Function.iterate_add_apply, ← same,
    Function.iterate_fixed (goOn_of_finished finished)]

/-- A course has one end only. -/
theorem OnCourse.outline_eq_of_finished
    {index : Nat}
    {first second : Worker}
    (firstOnCourse : first.OnCourse plan scope index)
    (secondOnCourse : second.OnCourse plan scope index)
    (firstFinished : first.next? plan scope = none)
    (secondFinished : second.next? plan scope = none) :
    first.outline = second.outline := by
  obtain ⟨turns, same⟩ := firstOnCourse
  obtain ⟨more, alike⟩ := secondOnCourse
  rcases Nat.le_total turns more with fewer | fewer
  · exact (outline_eq_of_le same firstFinished fewer).trans alike.symm
  · exact same.trans (outline_eq_of_le alike secondFinished fewer).symm

def selections
    (scope : ModeScope)
    (worker : Worker) : Nat :=
  match scope with
  | .process => 0
  | .thread => worker.asked + (if worker.pending.isSome then 1 else 0)

/-- A tier is pinned by those workers only that do not select it. -/
theorem scope_of_allocateOn
    {tier : Tier}
    {size : Nat}
    {receive : Reply → Worker}
    (next : worker.next? plan scope = some (.allocateOn tier size, receive)) :
    scope = .process := by
  obtain ⟨random, opsLeft, live, tally, pending, failed⟩ := worker
  rcases failed with _ | err
  · rcases pending with _ | request
    · rcases opsLeft with _ | opsLeft
      · rcases live with _ | ⟨entry, rest⟩ <;> cases next
      · rw [next?_operation] at next
        split at next
        · cases scope with
          | process =>
              rfl
          | thread =>
              cases next
        · obtain ⟨entry, -, same⟩ := Option.map_eq_some_iff.mp next
          cases same
    · cases next
  · cases next

/-- What the counts of a worker are after a call that has been granted. -/
structure Counts
    (scope : ModeScope)
    (call : Call)
    (before after : Worker) : Prop where
  /-- No request is one that a tier could not supply. -/
  outOfMemory : ∀ tier,
    (after.tally.tiers.get tier).outOfMemory = (before.tally.tiers.get tier).outOfMemory
  selections : after.selections scope = before.selections scope + call.selections

/-- An allocation that has been granted is counted as one that has been asked for. -/
theorem counts_address
    (worker : Worker)
    (tier : Tier)
    (addr : Nat) :
    (∀ other,
        ((worker.receiveAllocation tier (.address addr)).tally.tiers.get other).outOfMemory =
          (worker.tally.tiers.get other).outOfMemory) ∧
      (worker.receiveAllocation tier (.address addr)).asked = worker.asked + 1 := by
  refine ⟨fun other => by cases tier <;> cases other <;> rfl, ?_⟩
  cases tier <;>
    simp only [asked, receiveAllocation, Tally.countAllocation, PerTier.modify, PerTier.set,
      PerTier.get] <;>
    omega

theorem counts_of_next?
    {call : Call}
    {receive : Reply → Worker}
    (next : worker.next? plan scope = some (call, receive))
    {reply : Reply}
    (granted : worker.Grants call reply) :
    Counts scope call worker (receive reply) := by
  cases asks_of_next? next with
  | select threadScoped ready operation room valid =>
      subst threadScoped
      refine ⟨fun _ => rfl, ?_⟩
      simp [selections, asked, ready, Call.selections]
  | @pin random opsLeft size tier ready operation room valid =>
      have processScoped := scope_of_allocateOn next
      subst processScoped
      cases reply with
      | address addr =>
          exact ⟨(counts_address { worker with random := random, opsLeft := opsLeft } tier addr).1,
            rfl⟩
      | _ =>
          cases granted
  | @route size tier pending =>
      cases reply with
      | address addr =>
          obtain ⟨outOfMemory, asked⟩ := counts_address worker tier addr
          refine ⟨outOfMemory, ?_⟩
          cases scope with
          | process =>
              rfl
          | thread =>
              simp [selections, asked, pending, pending_receiveAllocation, Call.selections]
      | _ =>
          cases granted
  | release ready operation split =>
      cases reply with
      | freed recorded =>
          refine ⟨fun other => by cases recorded <;> cases other <;> rfl, ?_⟩
          cases scope with
          | process =>
              rfl
          | thread =>
              cases recorded <;> rfl
      | _ =>
          cases granted

end Churn.Worker

end TierHeap
