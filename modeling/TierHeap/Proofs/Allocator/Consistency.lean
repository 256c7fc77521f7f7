import TierHeap.Proofs.Allocator.Outcomes
import TierHeap.Proofs.Arena.Accounting

/-!
# Consistent allocators

An allocator over a recorder is consistent with the ranges that its callers hold when its
arena is, when it holds the segments that the backend has lent, and when its ceiling bounds
what is committed.  Every operation keeps that, as long as the backend owes its dealings.
-/

namespace TierHeap.Allocator

variable {β : Type}

/-- The ranges that callers hold, the arena, the backend and the ceiling agree. -/
structure Consistent
    (allocator : Allocator (Recorder β))
    (outstanding : List Span) : Prop where
  arena : allocator.arena.Consistent outstanding
  lent : (Dealing.lent allocator.backend.dealings).Perm allocator.arena.held
  unit_pos : 0 < allocator.growthUnit
  unit_aligned : allocator.growthUnit % pageSize = 0
  ceiling : ∀ capacity, allocator.capacity = some capacity →
    allocator.arena.committed ≤ capacity

def unitOf (segmentSize : Nat) : Nat :=
  (pageAlign? (max segmentSize pageSize)).getD pageSize

theorem growthUnit_new
    (tier : Tier)
    (backend : β)
    (capacity : Option Nat)
    (segmentSize : Nat) :
    (new tier backend capacity segmentSize).growthUnit = unitOf segmentSize := by
  rw [new, unitOf]

/-- Whatever it is made of, a growth unit is a positive number of whole pages, and a word. -/
theorem unitOf_bounds (segmentSize : Nat) :
    0 < unitOf segmentSize ∧ unitOf segmentSize % pageSize = 0 ∧
      unitOf segmentSize < Word.bound := by
  rw [unitOf]
  cases rounded : pageAlign? (max segmentSize pageSize) with
  | none =>
      decide
  | some unit =>
      obtain ⟨aligned, large, -, fits⟩ := pageAlign?_bounds rounded
      have page : pageSize ≤ unit := Nat.le_trans (Nat.le_max_right segmentSize pageSize) large
      exact ⟨Nat.lt_of_lt_of_le (by decide) page, aligned, fits⟩

/-- Whole pages are not rounded again. -/
theorem unitOf_of_aligned
    {segmentSize : Nat}
    (positive : 0 < segmentSize)
    (aligned : segmentSize % pageSize = 0)
    (fits : segmentSize < Word.bound) :
    unitOf segmentSize = segmentSize := by
  have page : pageSize ≤ segmentSize :=
    Nat.le_of_dvd positive (Nat.dvd_of_mod_eq_zero aligned)
  rw [unitOf, Nat.max_eq_left page, pageAlign?_of_aligned aligned fits, Option.getD_some]

/-- A new allocator holds nothing, whatever its settings are. -/
theorem consistent_new
    (tier : Tier)
    (backend : β)
    (capacity : Option Nat)
    (segmentSize : Nat) :
    (new tier (Recorder.start backend) capacity segmentSize).Consistent [] := by
  obtain ⟨positive, aligned, -⟩ := unitOf_bounds segmentSize
  exact
    { arena := Arena.consistent_empty
      lent := .refl []
      unit_pos := by
        rw [growthUnit_new]
        exact positive
      unit_aligned := by
        rw [growthUnit_new]
        exact aligned
      ceiling := fun capacity _ => Nat.zero_le capacity }

theorem growthLength?_bounds
    {allocator : Allocator β}
    (unitPositive : 0 < allocator.growthUnit)
    (unitAligned : allocator.growthUnit % pageSize = 0)
    {minimum len : Nat}
    (positive : 0 < minimum)
    (aligned : minimum % pageSize = 0)
    (found : allocator.growthLength? minimum = some len) :
    minimum ≤ len ∧ 0 < len ∧ len % pageSize = 0 ∧
      ∀ capacity, allocator.capacity = some capacity →
        len ≤ capacity - allocator.arena.committed := by
  have least := Nat.le_max_left minimum allocator.growthUnit
  have unit := Nat.le_max_right minimum allocator.growthUnit
  have either : max minimum allocator.growthUnit = minimum ∨
      max minimum allocator.growthUnit = allocator.growthUnit := by omega
  have preferredAligned : max minimum allocator.growthUnit % pageSize = 0 := by
    rcases either with same | same <;> rw [same] <;> assumption
  simp only [growthLength?] at found
  split at found
  · rename_i unlimited
    cases found
    refine ⟨least, by omega, preferredAligned, ?_⟩
    intro capacity limited
    rw [unlimited] at limited
    cases limited
  · rename_i limit limited
    have same : ∀ capacity, allocator.capacity = some capacity → capacity = limit := by
      intro capacity other
      rw [limited] at other
      cases other
      rfl
    split at found
    · rename_i enough
      cases found
      refine ⟨least, by omega, preferredAligned, ?_⟩
      intro capacity other
      rw [same capacity other]
      exact enough
    · rename_i short
      split at found
      · rename_i atLeast
        cases found
        obtain ⟨floorAligned, floorLow, floorHigh⟩ :=
          pageFloor_bounds (limit - allocator.arena.committed)
        refine ⟨?_, ?_, floorAligned, ?_⟩
        · simp only [pageSize] at *
          omega
        · simp only [pageSize] at *
          omega
        · intro capacity other
          rw [same capacity other]
          exact floorLow
      · cases found

/-- A segment that answers a commit of whole pages is placed as arenas need it. -/
theorem placed_of_answers
    {segment : Segment}
    {len : Nat}
    {lent : List Segment}
    (answers : segment.Answers len lent)
    (positive : 0 < len)
    (aligned : len % pageSize = 0) :
    segment.Placed where
  base_pos := answers.base_pos
  base_aligned := answers.base_aligned
  len_pos := by
    rw [answers.len_eq]
    exact positive
  len_aligned := by
    rw [answers.len_eq]
    exact aligned
  fits := Nat.lt_succ_of_le answers.fits

namespace Consistent

variable {allocator after : Allocator (Recorder β)} {outstanding : List Span}

theorem perm
    (consistent : allocator.Consistent outstanding)
    {reordered : List Span}
    (same : outstanding.Perm reordered) :
    allocator.Consistent reordered :=
  { consistent with arena := consistent.arena.perm same }

/-- A change of the arena that keeps its segments keeps the rest. -/
theorem withArena
    (consistent : allocator.Consistent outstanding)
    {arena : Arena}
    {changed : List Span}
    (sameSegments : arena.segments = allocator.arena.segments)
    (sameCommitted : arena.committed = allocator.arena.committed)
    (consistentArena : arena.Consistent changed) :
    Consistent { allocator with arena := arena } changed where
  arena := consistentArena
  lent := by
    change (Dealing.lent allocator.backend.dealings).Perm arena.held
    rw [Arena.held, sameSegments]
    exact consistent.lent
  unit_pos := consistent.unit_pos
  unit_aligned := consistent.unit_aligned
  ceiling := by
    intro capacity limited
    change arena.committed ≤ capacity
    rw [sameCommitted]
    exact consistent.ceiling capacity limited

theorem carve?
    (consistent : allocator.Consistent outstanding)
    {reserved align addr : Nat}
    (positive : 0 < reserved)
    (wholeGranules : reserved % granule = 0)
    (power : isPowerOfTwo align = true)
    (small : align ≤ pageSize)
    (carved : allocator.carve? reserved (max align granule) = some (addr, after)) :
    after.Consistent (⟨addr, reserved⟩ :: outstanding) := by
  obtain ⟨alignPositive, alignSmall, granuleAligned, -⟩ := alignment_bounds power small
  obtain ⟨fit, found, rfl, rfl⟩ := carve?_eq_some carved
  have fits := consistent.arena.tiled.findFit?_eq_some alignPositive alignSmall found
  have frame := Arena.sameFrame_carveAt allocator.arena reserved fit
  exact consistent.withArena frame.segments frame.committed
    (consistent.arena.carveAt positive wholeGranules granuleAligned fits)

theorem free
    {addr reserved : Nat}
    (consistent : allocator.Consistent (⟨addr, reserved⟩ :: outstanding)) :
    (allocator.free addr reserved).Consistent outstanding := by
  have frame := Arena.sameFrame_free allocator.arena addr reserved
  exact consistent.withArena frame.segments frame.committed consistent.arena.free

theorem resize?
    {addr oldReserved newReserved : Nat}
    (consistent : allocator.Consistent (⟨addr, oldReserved⟩ :: outstanding))
    (positive : 0 < newReserved)
    (aligned : newReserved % granule = 0)
    (resized : allocator.resize? addr oldReserved newReserved = some after) :
    after.Consistent (⟨addr, newReserved⟩ :: outstanding) := by
  obtain ⟨arena, found, rfl⟩ := resize?_eq_some resized
  have frame := Arena.sameFrame_resize? found
  exact consistent.withArena frame.segments frame.committed
    (consistent.arena.resize? positive aligned found)

/-! ## Segments -/

/-- A segment that the backend owes is apart from those that the arena holds. -/
theorem placed_apart
    (consistent : allocator.Consistent outstanding)
    {segment : Segment}
    {len : Nat}
    (answers : segment.Answers len (Dealing.lent allocator.backend.dealings))
    (positive : 0 < len)
    (aligned : len % pageSize = 0) :
    segment.Placed ∧ ∀ held ∈ allocator.arena.held, segment.span.Apart held.span :=
  ⟨placed_of_answers answers positive aligned,
    fun held member => answers.apart held (consistent.lent.mem_iff.mpr member)⟩

section

variable [Backend β]

theorem commit
    (consistent : allocator.Consistent outstanding)
    {depth len : Nat}
    {answer : Except GrowError Unit}
    (positive : 0 < len)
    (aligned : len % pageSize = 0)
    (admitted : ∀ capacity, allocator.capacity = some capacity →
      len ≤ capacity - allocator.arena.committed)
    (committed : allocator.commit depth len = (answer, after))
    (honest : Dealing.Honest after.backend.dealings) :
    after.Consistent outstanding := by
  rcases commit_cases committed with
    ⟨err, backend, rfl, rfl⟩ | ⟨segment, backend, rfl, rfl⟩
  · exact { consistent with }
  · have answers : segment.Answers len (Dealing.lent allocator.backend.dealings) := honest.1
    obtain ⟨placed, apart⟩ := consistent.placed_apart answers positive aligned
    have held := consistent.arena.tiled.held_adopt_perm placed apart
    refine
      ⟨consistent.arena.adopt placed apart, ?_, consistent.unit_pos, consistent.unit_aligned, ?_⟩
    · exact (consistent.lent.cons segment).trans held.symm
    · intro capacity limited
      have ceiling := consistent.ceiling capacity limited
      have room := admitted capacity limited
      change (allocator.arena.adopt segment).committed ≤ capacity
      rw [consistent.arena.committed_adopt placed apart, answers.len_eq]
      omega

theorem grow
    (consistent : allocator.Consistent outstanding)
    {depth reserved : Nat}
    {answer : Except GrowError Unit}
    (positive : 0 < reserved)
    (grown : allocator.grow depth reserved = (answer, after))
    (honest : Dealing.Honest after.backend.dealings) :
    after.Consistent outstanding := by
  rcases grow_cases grown with
    ⟨-, rfl, -⟩ | ⟨minimum, rounded, ⟨-, rfl, -⟩ | ⟨len, admitted, committed⟩⟩
  · exact consistent
  · exact
      { consistent with
        arena :=
          { consistent.arena with
            tiled :=
              consistent.arena.tiled.transport (by rfl) (by rfl) (by rfl) (.refl _) } }
  · obtain ⟨wholePages, large, -, -⟩ := pageAlign?_bounds rounded
    obtain ⟨-, lenPositive, lenAligned, room⟩ :=
      growthLength?_bounds consistent.unit_pos consistent.unit_aligned (by omega) wholePages
        admitted
    exact consistent.commit lenPositive lenAligned room committed honest

theorem allocate_ok
    (consistent : allocator.Consistent outstanding)
    {depth reserved align : Nat}
    {carve : Carve}
    (positive : 0 < reserved)
    (wholeGranules : reserved % granule = 0)
    (power : isPowerOfTwo align = true)
    (small : align ≤ pageSize)
    (allocated : allocator.allocate depth reserved align = (.ok carve, after))
    (honest : Dealing.Honest after.backend.dealings) :
    carve.reserved = reserved ∧
      after.Consistent (⟨carve.addr, carve.reserved⟩ :: outstanding) := by
  rcases allocate_cases allocated with
    ⟨addr, carved, same⟩ |
    ⟨-, ⟨err, -, same⟩ | ⟨grown, succeeded, ⟨addr, carved, same⟩ | ⟨-, -, same⟩⟩⟩
  · cases same
    exact ⟨rfl, consistent.carve? positive wholeGranules power small carved⟩
  · cases same
  · cases same
    obtain ⟨fit, -, -, rfl⟩ := carve?_eq_some carved
    have grownHonest : Dealing.Honest grown.backend.dealings := honest
    exact ⟨rfl, (consistent.grow positive succeeded grownHonest).carve? positive wholeGranules
      power small carved⟩
  · cases same

theorem allocate_error
    (consistent : allocator.Consistent outstanding)
    {depth reserved align : Nat}
    {err : GrowError}
    (positive : 0 < reserved)
    (allocated : allocator.allocate depth reserved align = (.error err, after))
    (honest : Dealing.Honest after.backend.dealings) :
    after.Consistent outstanding := by
  rcases allocate_cases allocated with
    ⟨addr, -, same⟩ |
    ⟨-, ⟨err, failed, -⟩ | ⟨grown, succeeded, ⟨addr, -, same⟩ | ⟨-, rfl, -⟩⟩⟩
  · cases same
  · exact consistent.grow positive failed honest
  · cases same
  · exact consistent.grow positive succeeded honest

end

theorem letGo
    (consistent : allocator.Consistent outstanding)
    {segment : Segment}
    (member : segment ∈ allocator.arena.held)
    (idle : allocator.arena.freeByAddr.find? segment.base = some segment.len)
    (backend : β) :
    Consistent
      { allocator with
        backend := ⟨backend, .release segment true :: allocator.backend.dealings⟩
        arena := allocator.arena.letGo segment }
      outstanding := by
  have held : allocator.arena.held.Perm (segment :: (allocator.arena.letGo segment).held) :=
    Arena.Tiled.held_erase_perm member
  refine ⟨consistent.arena.letGo member idle, ?_, consistent.unit_pos,
    consistent.unit_aligned, ?_⟩
  · change ((Dealing.lent allocator.backend.dealings).erase segment).Perm _
    have erased := (consistent.lent.trans held).erase segment
    rw [List.erase_cons_head] at erased
    exact erased
  · intro capacity limited
    have ceiling := consistent.ceiling capacity limited
    have before := consistent.arena.committed
    have after := (consistent.arena.letGo member idle).committed
    have spans : allocator.arena.heldSpans.Perm
        (segment.span :: (allocator.arena.letGo segment).heldSpans) := held.map _
    rw [Span.total_perm spans, Span.total_cons] at before
    change (allocator.arena.letGo segment).committed ≤ capacity
    omega

section

variable [Backend β]

/-- Handing idle segments back changes no range, wherever the backend refuses. -/
theorem releaseAll
    (consistent : allocator.Consistent outstanding)
    {segments : List Segment}
    (distinct : segments.Nodup)
    (idle : ∀ segment ∈ segments, segment ∈ allocator.arena.idle)
    (depth released : Nat) :
    (releaseAll depth released segments allocator).2.Consistent outstanding := by
  induction segments generalizing released allocator with
  | nil =>
      exact consistent
  | cons segment rest inductionHypothesis =>
      obtain ⟨absent, restDistinct⟩ := List.nodup_cons.mp distinct
      obtain ⟨held, free⟩ := Arena.mem_idle.mp (idle segment List.mem_cons_self)
      simp only [Allocator.releaseAll, Backend.release]
      cases Backend.release allocator.backend.backend depth segment with
      | mk answer backend =>
          cases answer with
          | error err =>
              exact { consistent with }
          | ok done =>
              refine inductionHypothesis (consistent.letGo held free backend) restDistinct ?_ _
              intro other member
              have different : other ≠ segment := fun same => absent (same ▸ member)
              exact Arena.mem_idle_letGo held (idle other (List.mem_cons_of_mem _ member))
                different

theorem trim
    (consistent : allocator.Consistent outstanding)
    (depth : Nat) :
    (allocator.trim depth).2.Consistent outstanding := by
  have candidates : (allocator.arena.idle.drop 1).Sublist allocator.arena.idle :=
    List.drop_sublist 1 _
  have distinct : (allocator.arena.idle.drop 1).Nodup :=
    (allocator.arena.held_nodup.sublist List.filter_sublist).sublist candidates
  exact consistent.releaseAll distinct (fun segment member => candidates.subset member) depth 0

end

end Consistent

end TierHeap.Allocator
