import TierHeap.Proofs.Allocator.Growth

/-!
# A ceiling of zero bytes

An allocator that may not commit anything holds nothing and asks its backend for nothing: every
request fails against the ceiling (`Allocator.Shut.allocate`), and there is nothing to trim
(`Allocator.Shut.trim`).
-/

namespace TierHeap.Allocator

variable {β : Type}

/-- The ceiling is zero bytes and nothing was ever held; the backend is as it was given. -/
structure Shut
    (allocator : Allocator β)
    (backend : β) : Prop where
  capacity : allocator.capacity = some 0
  backend_eq : allocator.backend = backend
  arena : ∃ failures, allocator.arena = { Arena.empty with capacityFailures := failures }

theorem shut_new
    (tier : Tier)
    (backend : β)
    (segmentSize : Nat) :
    (new tier backend (some 0) segmentSize).Shut backend :=
  ⟨rfl, rfl, 0, rfl⟩

namespace Shut

variable {allocator : Allocator β} {backend : β}

theorem committed (shut : allocator.Shut backend) :
    allocator.arena.committed = 0 ∧ allocator.arena.peakCommitted = 0 ∧
      allocator.arena.growths = 0 := by
  obtain ⟨failures, arena⟩ := shut.arena
  rw [arena]
  exact ⟨rfl, rfl, rfl⟩

theorem carve?
    (shut : allocator.Shut backend)
    (reserved align : Nat) :
    allocator.carve? reserved align = none := by
  obtain ⟨failures, arena⟩ := shut.arena
  rw [Allocator.carve?, arena]
  rfl

variable [Backend β]

/-- Growing fails before the backend is asked. -/
theorem grow
    (shut : allocator.Shut backend)
    (depth : Nat)
    {reserved : Nat}
    (positive : 0 < reserved) :
    ∃ cause after, allocator.grow depth reserved = (.error cause, after) ∧
      after.Shut backend := by
  cases rounded : pageAlign? reserved with
  | none =>
      exact ⟨_, allocator, grow_eq_overflow rounded depth, shut⟩
  | some minimum =>
      obtain ⟨-, enough, -, -⟩ := pageAlign?_bounds rounded
      have nothing : allocator.arena.committed = 0 := shut.committed.1
      have exhausted : 0 - allocator.arena.committed < minimum := by
        rw [nothing]
        exact Nat.lt_of_lt_of_le positive enough
      rw [grow_eq_refusal rounded (growthLength?_exhausted shut.capacity exhausted)]
      obtain ⟨failures, arena⟩ := shut.arena
      refine ⟨_, allocator.countCapacityFailure, rfl, shut.capacity, shut.backend_eq,
        failures + 1, ?_⟩
      rw [countCapacityFailure, arena]

theorem allocate
    (shut : allocator.Shut backend)
    (depth : Nat)
    {reserved : Nat}
    (positive : 0 < reserved)
    (align : Nat) :
    ∃ cause after, allocator.allocate depth reserved align = (.error cause, after) ∧
      after.Shut backend := by
  obtain ⟨cause, after, refused, shutAfter⟩ := shut.grow depth positive
  exact ⟨cause, after, allocate_eq_refusal (shut.carve? _ _) refused, shutAfter⟩

theorem trim
    (shut : allocator.Shut backend)
    (depth : Nat) :
    allocator.trim depth = (.ok 0, allocator) := by
  obtain ⟨failures, arena⟩ := shut.arena
  rw [Allocator.trim, arena]
  rfl

end Shut

end TierHeap.Allocator
