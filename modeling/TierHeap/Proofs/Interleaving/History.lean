import TierHeap.Proofs.Engine.Backing
import TierHeap.Proofs.Interleaving.Machine

/-!
# What a history tells

The outstanding ranges of a history are those that were carved and not returned since, as long
as they were resized last.  In an orderly history a block is entered only where none is, and
taken out only where one is; so nothing takes a block out twice (`Orderly.removed_once`).
-/

namespace TierHeap

def Block.holding (block : Block) : Tier × Span :=
  (block.tier, block.span)

namespace Interleaving

/-- The ranges that were carved and not returned, with their tiers; the latest event is
first. -/
def outstanding : List Event → List (Tier × Span)
  | [] => []
  | .carved tier span :: earlier => (tier, span) :: outstanding earlier
  | .returned tier span :: earlier => (outstanding earlier).erase (tier, span)
  | .resized tier before after :: earlier =>
      (tier, after) :: (outstanding earlier).erase (tier, before)
  | .entered _ _ :: earlier => outstanding earlier
  | .removed _ :: earlier => outstanding earlier

/-- A block was entered at the address and not taken out since. -/
def present (addr : Nat) : List Event → Bool
  | [] => false
  | .entered block _ :: earlier => block.addr = addr || present addr earlier
  | .removed other :: earlier => other ≠ addr && present addr earlier
  | .carved _ _ :: earlier => present addr earlier
  | .returned _ _ :: earlier => present addr earlier
  | .resized _ _ _ :: earlier => present addr earlier

/-- Blocks were entered where none was, and taken out where one was. -/
def Orderly : List Event → Prop
  | [] => True
  | .entered block displaced :: earlier =>
      displaced = none ∧ present block.addr earlier = false ∧ Orderly earlier
  | .removed addr :: earlier => present addr earlier = true ∧ Orderly earlier
  | .carved _ _ :: earlier => Orderly earlier
  | .returned _ _ :: earlier => Orderly earlier
  | .resized _ _ _ :: earlier => Orderly earlier

namespace Orderly

theorem earlier
    {event : Event}
    {earlier : List Event}
    (orderly : Orderly (event :: earlier)) :
    Orderly earlier := by
  cases event with
  | carved tier span => exact orderly
  | returned tier span => exact orderly
  | resized tier before after => exact orderly
  | entered block displaced => exact orderly.2.2
  | removed addr => exact orderly.2

theorem of_append
    {later earlier : List Event}
    (orderly : Orderly (later ++ earlier)) :
    Orderly earlier := by
  induction later with
  | nil =>
      exact orderly
  | cons event later inductionHypothesis =>
      exact inductionHypothesis orderly.earlier

theorem undisplaced
    {history : List Event}
    (orderly : Orderly history)
    {block : Block}
    {displaced : Option Block}
    (member : Event.entered block displaced ∈ history) :
    displaced = none := by
  obtain ⟨later, earlier, rfl⟩ := List.append_of_mem member
  exact orderly.of_append.1

theorem present_of_removed
    {later earlier : List Event}
    {addr : Nat}
    (orderly : Orderly (later ++ .removed addr :: earlier)) :
    present addr earlier = true :=
  orderly.of_append.1

/-- Since a block was entered, it was taken out once if it is gone and never if it is there. -/
theorem count_removed
    {later earlier : List Event}
    {block : Block}
    {displaced : Option Block}
    (orderly : Orderly (later ++ .entered block displaced :: earlier))
    (only : ∀ other found, Event.entered other found ∈ later → other.addr ≠ block.addr) :
    later.count (.removed block.addr) =
      if present block.addr (later ++ .entered block displaced :: earlier) then 0 else 1 := by
  -- The induction goes from the entry of the block towards the latest event.
  induction later with
  | nil =>
      simp [present]
  | cons event later inductionHypothesis =>
      have counted := inductionHypothesis orderly.earlier fun other found member =>
        only other found (List.mem_cons_of_mem event member)
      cases event with
      | carved tier span =>
          rw [List.count_cons_of_ne (by simp)]
          exact counted
      | returned tier span =>
          rw [List.count_cons_of_ne (by simp)]
          exact counted
      | resized tier before after =>
          rw [List.count_cons_of_ne (by simp)]
          exact counted
      | entered other found =>
          have different := only other found List.mem_cons_self
          rw [List.count_cons_of_ne (by simp), counted]
          simp [present, different]
      | removed addr =>
          by_cases same : addr = block.addr
          · subst same
            have there : present block.addr (later ++ .entered block displaced :: earlier) = true :=
              orderly.1
            rw [List.count_cons_self, counted, there]
            simp [present]
          · rw [List.count_cons_of_ne (by simpa using same), counted]
            simp [present, same]

/-- A block is taken out at most once before another is entered at its address. -/
theorem removed_once
    {later earlier : List Event}
    {block : Block}
    {displaced : Option Block}
    (orderly : Orderly (later ++ .entered block displaced :: earlier))
    (only : ∀ other found, Event.entered other found ∈ later → other.addr ≠ block.addr) :
    later.count (.removed block.addr) ≤ 1 := by
  rw [orderly.count_removed only]
  split
  · exact Nat.zero_le 1
  · exact Nat.le_refl 1

end Orderly

end Interleaving

end TierHeap
