import TierHeap.Proofs.Allocator.Growth

/-!
# Counts of growths and failures

An allocator counts its growths and the growths that its ceiling has refused.  A growth is
counted exactly when a segment is lent, and the segment is remembered as the newest one
(`Enlarged`).  A request that is served says whether it has made the arena grow; a request that
fails has met the ceiling at most once.  No other operation touches these counts.
-/

namespace TierHeap.Allocator

variable {β : Type}

/-- From one allocator to another, the arena has taken in a segment that was just lent. -/
structure Enlarged
    (before after : Allocator (Recorder β))
    (segment : Segment) : Prop where
  growths : after.arena.growths = before.arena.growths + 1
  newest : after.arena.newest = some segment
  lent : ∃ len, after.backend.dealings = .commit len (some segment) :: before.backend.dealings

section

variable {allocator after : Allocator β}

theorem figures_carve?
    {reserved align addr : Nat}
    (carved : allocator.carve? reserved align = some (addr, after)) :
    after.arena.growths = allocator.arena.growths ∧
      after.arena.newest = allocator.arena.newest ∧
        after.arena.capacityFailures = allocator.arena.capacityFailures := by
  obtain ⟨fit, -, -, rfl⟩ := carve?_eq_some carved
  have frame := Arena.sameFrame_carveAt allocator.arena reserved fit
  exact ⟨frame.growths, frame.newest, frame.capacityFailures⟩

theorem figures_free
    (allocator : Allocator β)
    (addr reserved : Nat) :
    (allocator.free addr reserved).arena.growths = allocator.arena.growths ∧
      (allocator.free addr reserved).arena.capacityFailures =
        allocator.arena.capacityFailures := by
  have frame := Arena.sameFrame_free allocator.arena addr reserved
  exact ⟨frame.growths, frame.capacityFailures⟩

theorem figures_resize?
    {addr oldReserved newReserved : Nat}
    (resized : allocator.resize? addr oldReserved newReserved = some after) :
    after.arena.growths = allocator.arena.growths ∧
      after.arena.capacityFailures = allocator.arena.capacityFailures := by
  obtain ⟨arena, found, rfl⟩ := resize?_eq_some resized
  have frame := Arena.sameFrame_resize? found
  exact ⟨frame.growths, frame.capacityFailures⟩

theorem figures_releaseAll
    [Backend β]
    (depth released : Nat)
    (segments : List Segment)
    (allocator : Allocator β) :
    (releaseAll depth released segments allocator).2.arena.growths = allocator.arena.growths ∧
      (releaseAll depth released segments allocator).2.arena.capacityFailures =
        allocator.arena.capacityFailures := by
  induction segments generalizing released allocator with
  | nil =>
      exact ⟨rfl, rfl⟩
  | cons segment rest inductionHypothesis =>
      simp only [releaseAll]
      split
      · exact ⟨rfl, rfl⟩
      · exact inductionHypothesis _ _

end

variable [Backend β] {allocator after : Allocator (Recorder β)} {depth reserved align : Nat}

theorem grow_ok
    (grown : allocator.grow depth reserved = (.ok (), after)) :
    (∃ segment, Enlarged allocator after segment) ∧
      after.arena.capacityFailures = allocator.arena.capacityFailures := by
  rcases grow_cases grown with
    ⟨-, -, same⟩ | ⟨minimum, -, ⟨-, -, same⟩ | ⟨len, -, committed⟩⟩
  · cases same
  · cases same
  · rcases commit_cases committed with ⟨err, backend, same, -⟩ | ⟨segment, backend, -, rfl⟩
    · cases same
    · exact ⟨⟨segment, rfl, rfl, len, rfl⟩, rfl⟩

theorem grow_error
    {err : GrowError}
    (grown : allocator.grow depth reserved = (.error err, after)) :
    after.arena.growths = allocator.arena.growths ∧
      after.arena.capacityFailures ≤ allocator.arena.capacityFailures + 1 := by
  rcases grow_cases grown with
    ⟨-, rfl, -⟩ | ⟨minimum, -, ⟨-, rfl, -⟩ | ⟨len, -, committed⟩⟩
  · exact ⟨rfl, Nat.le_succ _⟩
  · exact ⟨rfl, Nat.le_refl _⟩
  · rcases commit_cases committed with ⟨cause, backend, -, rfl⟩ | ⟨segment, backend, same, -⟩
    · exact ⟨rfl, Nat.le_succ _⟩
    · cases same

/-- A request is served without a growth, or from the segment that it made the arena take
in. -/
theorem figures_allocate_ok
    {carve : Carve}
    (allocated : allocator.allocate depth reserved align = (.ok carve, after)) :
    after.arena.capacityFailures = allocator.arena.capacityFailures ∧
      (carve.grew = false ∧ after.arena.growths = allocator.arena.growths ∨
        carve.grew = true ∧ ∃ segment, Enlarged allocator after segment) := by
  rcases allocate_cases allocated with
    ⟨addr, carved, same⟩ |
    ⟨-, ⟨err, -, same⟩ | ⟨grown, succeeded, ⟨addr, carved, same⟩ | ⟨-, -, same⟩⟩⟩
  · cases same
    obtain ⟨growths, -, failures⟩ := figures_carve? carved
    exact ⟨failures, .inl ⟨rfl, growths⟩⟩
  · cases same
  · cases same
    obtain ⟨⟨segment, enlarged⟩, noFailure⟩ := grow_ok succeeded
    obtain ⟨growths, newest, failures⟩ := figures_carve? carved
    obtain ⟨fit, -, -, rfl⟩ := carve?_eq_some carved
    refine ⟨failures.trans noFailure, .inr ⟨rfl, segment, ?_⟩⟩
    exact ⟨growths.trans enlarged.growths, newest.trans enlarged.newest, enlarged.lent⟩
  · cases same

theorem capacityFailures_allocate_error
    {err : GrowError}
    (allocated : allocator.allocate depth reserved align = (.error err, after)) :
    after.arena.capacityFailures ≤ allocator.arena.capacityFailures + 1 := by
  rcases allocate_cases allocated with
    ⟨addr, -, same⟩ |
    ⟨-, ⟨err, failed, -⟩ | ⟨grown, succeeded, ⟨addr, -, same⟩ | ⟨-, rfl, -⟩⟩⟩
  · cases same
  · exact (grow_error failed).2
  · cases same
  · rw [(grow_ok succeeded).2]
    exact Nat.le_succ _

end TierHeap.Allocator
