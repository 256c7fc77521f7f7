import TierHeap.Proofs.Allocator.Growth
import TierHeap.Proofs.Arena.Checked

/-!
# Allocators whose sums are checked

The checked forms of an allocator's operations give up where a sum or a difference of the arena
is no machine word.  They give up as well where growing finds no whole pages for a request, which
the allocator itself answers with a refusal.  Neither happens to an allocator that is consistent
and whose backend owes its dealings, for any request that an engine lets through.
-/

namespace TierHeap.Allocator

variable {β : Type}

def growthLengthChecked?
    (allocator : Allocator β)
    (minimum : Nat) : Option (Option Nat) :=
  let preferred := max minimum allocator.growthUnit
  match allocator.capacity with
  | none => some (some preferred)
  | some capacity => do
      let room ← Word.subChecked? capacity allocator.arena.committed
      some
        (if preferred ≤ room then some preferred
        else if minimum ≤ room then some (pageFloor room)
        else none)

def carveChecked?
    (allocator : Allocator β)
    (reserved align : Nat) : Option (Option (Nat × Allocator β)) :=
  (allocator.arena.carveChecked? reserved align).map fun carved =>
    carved.map fun (addr, arena) => (addr, { allocator with arena := arena })

def freeChecked?
    (allocator : Allocator β)
    (addr reserved : Nat) : Option (Allocator β) :=
  (allocator.arena.freeChecked? addr reserved).map fun arena => { allocator with arena := arena }

def resizeChecked?
    (allocator : Allocator β)
    (addr oldReserved newReserved : Nat) : Option (Option (Allocator β)) :=
  (allocator.arena.resizeChecked? addr oldReserved newReserved).map fun resized =>
    resized.map fun arena => { allocator with arena := arena }

section

variable [Backend β]

def commitChecked?
    (allocator : Allocator β)
    (depth len : Nat) : Option (Except GrowError Unit × Allocator β) :=
  match Backend.commit allocator.backend depth len with
  | (.error err, backend) => some (.error (.backend err), { allocator with backend := backend })
  | (.ok segment, backend) =>
      (allocator.arena.adoptChecked? segment).map fun arena =>
        (.ok (), { allocator with backend := backend, arena := arena })

def growChecked?
    (allocator : Allocator β)
    (depth reserved : Nat) : Option (Except GrowError Unit × Allocator β) :=
  match pageAlign? reserved with
  | none => none
  | some minimum => do
      match ← allocator.growthLengthChecked? minimum with
      | none =>
          some
            (.error
              (.capacityExceeded allocator.reportedCapacity allocator.arena.committed minimum),
             allocator.countCapacityFailure)
      | some len => allocator.commitChecked? depth len

def allocateChecked?
    (allocator : Allocator β)
    (depth reserved align : Nat) : Option (Except GrowError Carve × Allocator β) := do
  let align := max align granule
  match ← allocator.carveChecked? reserved align with
  | some (addr, allocator) => some (.ok ⟨addr, reserved, false⟩, allocator)
  | none =>
      match ← allocator.growChecked? depth reserved with
      | (.error err, allocator) => some (.error err, allocator)
      | (.ok (), allocator) =>
          match ← allocator.carveChecked? reserved align with
          | some (addr, allocator) => some (.ok ⟨addr, reserved, true⟩, allocator)
          | none =>
              some
                (.error
                  (.capacityExceeded allocator.reportedCapacity allocator.arena.committed
                    reserved),
                 allocator)

def releaseAllChecked?
    (depth released : Nat) :
    List Segment → Allocator β → Option (Except BackendError Nat × Allocator β)
  | [], allocator => some (.ok released, allocator)
  | segment :: rest, allocator =>
      match Backend.release allocator.backend depth segment with
      | (.error err, backend) => some (.error err, { allocator with backend := backend })
      | (.ok (), backend) => do
          let arena ← allocator.arena.letGoChecked? segment
          let released ← Word.addChecked? released segment.len
          releaseAllChecked? depth released rest
            { allocator with backend := backend, arena := arena }

def trimChecked?
    (allocator : Allocator β)
    (depth : Nat) : Option (Except BackendError Nat × Allocator β) :=
  releaseAllChecked? depth 0 (allocator.arena.idle.drop 1) allocator

end

namespace Consistent

variable {allocator after : Allocator (Recorder β)} {outstanding : List Span}

theorem growthLengthChecked?_eq
    (consistent : allocator.Consistent outstanding)
    (minimum : Nat) :
    allocator.growthLengthChecked? minimum = some (allocator.growthLength? minimum) := by
  rw [growthLengthChecked?, growthLength?]
  cases limited : allocator.capacity with
  | none =>
      rfl
  | some capacity =>
      dsimp only
      rw [Word.subChecked?_of_le (consistent.ceiling capacity limited)]
      rfl

theorem carveChecked?_eq
    (consistent : allocator.Consistent outstanding)
    (reserved : Nat)
    {align : Nat}
    (power : isPowerOfTwo align = true)
    (small : align ≤ pageSize) :
    allocator.carveChecked? reserved (max align granule) =
      some (allocator.carve? reserved (max align granule)) := by
  obtain ⟨alignPositive, alignSmall, -, -⟩ := alignment_bounds power small
  rw [carveChecked?, consistent.arena.carveChecked?_eq alignPositive alignSmall]
  rfl

theorem freeChecked?_eq
    {addr reserved : Nat}
    (consistent : allocator.Consistent (⟨addr, reserved⟩ :: outstanding)) :
    allocator.freeChecked? addr reserved = some (allocator.free addr reserved) := by
  rw [freeChecked?, consistent.arena.freeChecked?_eq]
  rfl

theorem resizeChecked?_eq
    {addr oldReserved newReserved : Nat}
    (consistent : allocator.Consistent (⟨addr, oldReserved⟩ :: outstanding))
    (positive : 0 < newReserved)
    (aligned : newReserved % granule = 0) :
    allocator.resizeChecked? addr oldReserved newReserved =
      some (allocator.resize? addr oldReserved newReserved) := by
  rw [resizeChecked?, consistent.arena.resizeChecked?_eq positive aligned]
  rfl

section

variable [Backend β]

theorem commitChecked?_eq
    (consistent : allocator.Consistent outstanding)
    {depth len : Nat}
    {answer : Except GrowError Unit}
    (positive : 0 < len)
    (aligned : len % pageSize = 0)
    (committed : allocator.commit depth len = (answer, after))
    (honest : Dealing.Honest after.backend.dealings) :
    allocator.commitChecked? depth len = some (answer, after) := by
  rw [← committed]
  replace honest : Dealing.Honest (allocator.commit depth len).2.backend.dealings := by
    rw [committed]
    exact honest
  simp only [commitChecked?, Allocator.commit, Backend.commit] at honest ⊢
  generalize Backend.commit allocator.backend.backend depth len = asked at honest ⊢
  obtain ⟨granted, backend⟩ := asked
  cases granted with
  | error err =>
      rfl
  | ok segment =>
      have answers : segment.Answers len (Dealing.lent allocator.backend.dealings) := honest.1
      obtain ⟨placed, apart⟩ := consistent.placed_apart answers positive aligned
      dsimp only
      rw [consistent.arena.adoptChecked?_eq placed apart]
      rfl

/-- Every request that an engine lets through has whole pages. -/
theorem growChecked?_eq
    (consistent : allocator.Consistent outstanding)
    {depth reserved : Nat}
    {answer : Except GrowError Unit}
    (positive : 0 < reserved)
    (fits : reserved ≤ largestRequest)
    (grown : allocator.grow depth reserved = (answer, after))
    (honest : Dealing.Honest after.backend.dealings) :
    allocator.growChecked? depth reserved = some (answer, after) := by
  obtain ⟨minimum, rounded⟩ := pageAlign?_of_le_largest fits
  obtain ⟨wholePages, large, -, -⟩ := pageAlign?_bounds rounded
  unfold growChecked?
  rw [rounded]
  dsimp only
  rw [consistent.growthLengthChecked?_eq]
  cases admitted : allocator.growthLength? minimum with
  | none =>
      rw [grow_eq_refusal rounded admitted] at grown
      rw [← grown]
      rfl
  | some len =>
      obtain ⟨-, lenPositive, lenAligned, -⟩ :=
        growthLength?_bounds consistent.unit_pos consistent.unit_aligned (by omega) wholePages
          admitted
      rw [grow_eq_commit rounded admitted] at grown
      exact consistent.commitChecked?_eq lenPositive lenAligned grown honest

theorem allocateChecked?_eq
    (consistent : allocator.Consistent outstanding)
    {depth reserved align : Nat}
    {answer : Except GrowError Carve}
    (positive : 0 < reserved)
    (fits : reserved ≤ largestRequest)
    (power : isPowerOfTwo align = true)
    (small : align ≤ pageSize)
    (allocated : allocator.allocate depth reserved align = (answer, after))
    (honest : Dealing.Honest after.backend.dealings) :
    allocator.allocateChecked? depth reserved align = some (answer, after) := by
  simp only [allocateChecked?, consistent.carveChecked?_eq reserved power small,
    Option.bind_eq_bind, Option.bind_some]
  rcases allocate_cases allocated with
    ⟨addr, carved, rfl⟩ |
    ⟨full, ⟨err, failed, rfl⟩ | ⟨grown, succeeded, ⟨addr, carved, rfl⟩ | ⟨absent, rfl, rfl⟩⟩⟩
  · rw [carved]
  · rw [full]
    dsimp only
    rw [consistent.growChecked?_eq positive fits failed honest]
    rfl
  · obtain ⟨fit, -, -, same⟩ := carve?_eq_some carved
    have grownHonest : Dealing.Honest grown.backend.dealings := by
      rw [same] at honest
      exact honest
    have carvedAgain :=
      (consistent.grow positive succeeded grownHonest).carveChecked?_eq reserved power small
    rw [full]
    dsimp only
    rw [consistent.growChecked?_eq positive fits succeeded grownHonest]
    dsimp only [Option.bind_some]
    rw [carvedAgain, carved]
    rfl
  · have carvedAgain :=
      (consistent.grow positive succeeded honest).carveChecked?_eq reserved power small
    rw [full]
    dsimp only
    rw [consistent.growChecked?_eq positive fits succeeded honest]
    dsimp only [Option.bind_some]
    rw [carvedAgain, absent]
    rfl

/-- What is handed back and what is still held are words together. -/
theorem releaseAllChecked?_eq
    (consistent : allocator.Consistent outstanding)
    {segments : List Segment}
    (distinct : segments.Nodup)
    (idle : ∀ segment ∈ segments, segment ∈ allocator.arena.idle)
    (depth : Nat)
    {released : Nat}
    (fits : released + allocator.arena.committed < Word.bound) :
    releaseAllChecked? depth released segments allocator =
      some (Allocator.releaseAll depth released segments allocator) := by
  induction segments generalizing released allocator with
  | nil =>
      rfl
  | cons segment rest inductionHypothesis =>
      obtain ⟨absent, restDistinct⟩ := List.nodup_cons.mp distinct
      obtain ⟨held, free⟩ := Arena.mem_idle.mp (idle segment List.mem_cons_self)
      simp only [releaseAllChecked?, Allocator.releaseAll, Backend.release]
      cases Backend.release allocator.backend.backend depth segment with
      | mk answer backend =>
          cases answer with
          | error err =>
              rfl
          | ok done =>
              have kept := consistent.letGo held free backend
              have part := consistent.arena.len_add_committed_letGo held
              have sum : released + segment.len < Word.bound := by omega
              simp only [consistent.arena.letGoChecked?_eq held, Word.addChecked?_of_lt sum,
                Word.add_eq sum, Option.bind_eq_bind, Option.bind_some]
              refine inductionHypothesis kept restDistinct ?_ ?_
              · intro other member
                have different : other ≠ segment := fun same => absent (same ▸ member)
                exact Arena.mem_idle_letGo held (idle other (List.mem_cons_of_mem _ member))
                  different
              · change released + segment.len + (allocator.arena.letGo segment).committed < _
                omega

theorem trimChecked?_eq
    (consistent : allocator.Consistent outstanding)
    (depth : Nat) :
    allocator.trimChecked? depth = some (allocator.trim depth) := by
  have candidates : (allocator.arena.idle.drop 1).Sublist allocator.arena.idle :=
    List.drop_sublist 1 _
  have distinct : (allocator.arena.idle.drop 1).Nodup :=
    (allocator.arena.held_nodup.sublist List.filter_sublist).sublist candidates
  have committed : 0 + allocator.arena.committed < Word.bound := by
    rw [Nat.zero_add]
    exact consistent.arena.committed_lt
  exact consistent.releaseAllChecked?_eq distinct
    (fun segment member => candidates.subset member) depth committed

end

end Consistent

end TierHeap.Allocator
