import TierHeap.Proofs.Allocator.Fitting
import TierHeap.Proofs.Arena.Restoring

/-!
# Using returned ranges again

A range that is returned right after it was carved leaves no trace: the allocator is what it was
before, or has taken in one segment that is all free.  A request that is made and returned again
and again therefore makes the allocator grow once at most, as the second time finds what the
first has left.  What a caller returns serves every request that fits in it
(`Tenancy.reuses_ranges`).
-/

namespace TierHeap

/-- The backend has lent a segment. -/
def Dealing.grants : Dealing → Bool
  | .commit _ granted => granted.isSome
  | .release _ _ => false

namespace Allocator

variable {β : Type}

/-- An allocator that has taken in one segment, all of it free, and is as it was otherwise. -/
structure GrownBy
    (before after : Allocator (Recorder β))
    (segment : Segment) : Prop where
  granted : after.backend.dealings =
    .commit segment.len (some segment) :: before.backend.dealings
  nonempty : 0 < segment.len
  apart : ∀ held ∈ before.arena.held, segment.span.Apart held.span
  segments : ∀ held, held ∈ after.arena.held ↔ held = segment ∨ held ∈ before.arena.held
  free : ∀ span, span ∈ after.arena.freeSpans ↔
    span = segment.span ∨ span ∈ before.arena.freeSpans
  freeBySize : ∀ range, range ∈ after.arena.freeBySize.ranges ↔
    range = ⟨segment.len, segment.base⟩ ∨ range ∈ before.arena.freeBySize.ranges
  committed : after.arena.committed = before.arena.committed + segment.len
  inUse : after.arena.inUse = before.arena.inUse
  live : after.arena.live = before.arena.live
  settings : after.SameSettings before

def cycle
    [Backend β]
    (reserved align : Nat)
    (allocator : Allocator β)
    (depth : Nat) : Allocator β :=
  match allocator.allocate depth reserved align with
  | (.ok carve, after) => after.free carve.addr carve.reserved
  | (.error _, after) => after

theorem cycle_dealings
    [Backend β]
    (reserved align : Nat)
    (allocator : Allocator (Recorder β))
    (depth : Nat) :
    ∃ recent, (allocator.cycle reserved align depth).backend.dealings =
      recent ++ allocator.backend.dealings := by
  unfold cycle
  split
  · rename_i carve after allocated
    obtain ⟨recent, whole⟩ := allocate_dealings_append allocated
    exact ⟨recent, whole⟩
  · rename_i err after failed
    exact allocate_dealings_append failed

theorem cycles_dealings
    [Backend β]
    (reserved align : Nat)
    (depths : List Nat)
    (allocator : Allocator (Recorder β)) :
    ∃ recent, (depths.foldl (cycle reserved align) allocator).backend.dealings =
      recent ++ allocator.backend.dealings := by
  induction depths generalizing allocator with
  | nil =>
      exact ⟨[], rfl⟩
  | cons depth rest inductionHypothesis =>
      obtain ⟨later, whole⟩ := inductionHypothesis (allocator.cycle reserved align depth)
      obtain ⟨first, firstWhole⟩ := cycle_dealings reserved align allocator depth
      exact ⟨later ++ first, by rw [List.foldl_cons, whole, firstWhole, List.append_assoc]⟩

namespace Consistent

variable {allocator after : Allocator (Recorder β)} {outstanding : List Span}
  {reserved align addr : Nat}

theorem free_of_carve?
    (consistent : allocator.Consistent outstanding)
    (positive : 0 < reserved)
    (wholeGranules : reserved % granule = 0)
    (power : isPowerOfTwo align = true)
    (small : align ≤ pageSize)
    (carved : allocator.carve? reserved (max align granule) = some (addr, after)) :
    after.free addr reserved = allocator := by
  obtain ⟨alignPositive, alignSmall, granuleAligned, -⟩ := alignment_bounds power small
  obtain ⟨fit, found, rfl, rfl⟩ := carve?_eq_some carved
  have fits := consistent.arena.tiled.findFit?_eq_some alignPositive alignSmall found
  rw [Allocator.free, consistent.arena.free_carveAt positive wholeGranules granuleAligned fits]

section

variable [Backend β] {depth : Nat}

theorem grownBy
    (consistent : allocator.Consistent outstanding)
    (positive : 0 < reserved)
    (grown : allocator.grow depth reserved = (.ok (), after))
    (honest : Dealing.Honest after.backend.dealings) :
    ∃ segment, GrownBy allocator after segment := by
  rcases grow_cases grown with
    ⟨-, -, same⟩ | ⟨minimum, rounded, ⟨-, -, same⟩ | ⟨len, admitted, committed⟩⟩
  · cases same
  · cases same
  obtain ⟨wholePages, large, -, -⟩ := pageAlign?_bounds rounded
  obtain ⟨-, lenPositive, lenAligned, -⟩ :=
    growthLength?_bounds consistent.unit_pos consistent.unit_aligned (by omega) wholePages
      admitted
  rcases commit_cases committed with ⟨err, backend, same, -⟩ | ⟨segment, backend, -, rfl⟩
  · cases same
  have answers : segment.Answers len (Dealing.lent allocator.backend.dealings) := honest.1
  obtain ⟨placed, apart⟩ := consistent.placed_apart answers lenPositive lenAligned
  have held := consistent.arena.tiled.held_adopt_perm placed apart
  have free := consistent.arena.tiled.freeSpans_adopt_perm placed apart
  have committedAfter := consistent.arena.committed_adopt placed apart
  obtain rfl := answers.len_eq
  exact
    ⟨segment, rfl, lenPositive, apart, fun _ => held.mem_iff.trans List.mem_cons,
      fun _ => free.mem_iff.trans List.mem_cons, fun _ => SizeIndex.mem_insert _ _ _,
      committedAfter, rfl, rfl, rfl, rfl, rfl⟩

theorem dealings_of_failed
    (consistent : allocator.Consistent outstanding)
    (positive : 0 < reserved)
    (power : isPowerOfTwo align = true)
    (small : align ≤ pageSize)
    {err : GrowError}
    (failed : allocator.allocate depth reserved align = (.error err, after))
    (honest : Dealing.Honest after.backend.dealings) :
    after.backend.dealings = allocator.backend.dealings ∨
      ∃ len, after.backend.dealings = .commit len none :: allocator.backend.dealings := by
  rcases allocate_cases failed with
    ⟨addr, -, same⟩ | ⟨full, ⟨cause, refused, -⟩ | ⟨grown, succeeded, -⟩⟩
  · cases same
  · rcases grow_cases refused with
      ⟨-, rfl, -⟩ | ⟨minimum, -, ⟨-, rfl, -⟩ | ⟨len, -, committed⟩⟩
    · exact .inl rfl
    · exact .inl rfl
    · rcases commit_cases committed with ⟨-, backend, -, rfl⟩ | ⟨segment, backend, same, -⟩
      · exact .inr ⟨len, rfl⟩
      · cases same
  · -- A segment that was lent would have served the request.
    rcases grow_cases succeeded with
      ⟨-, -, same⟩ | ⟨minimum, rounded, ⟨-, -, same⟩ | ⟨len, admitted, -⟩⟩
    · cases same
    · cases same
    · rcases consistent.askedOnce positive power small failed honest full rounded admitted with
        ⟨segment, -, same⟩ | ⟨cause, refused, -⟩
      · cases same
      · exact .inr ⟨len, refused⟩

theorem free_of_ungrown
    (consistent : allocator.Consistent outstanding)
    (positive : 0 < reserved)
    (wholeGranules : reserved % granule = 0)
    (power : isPowerOfTwo align = true)
    (small : align ≤ pageSize)
    {carve : Carve}
    (allocated : allocator.allocate depth reserved align = (.ok carve, after))
    (ungrown : carve.grew = false) :
    after.free carve.addr carve.reserved = allocator := by
  obtain ⟨sameLength, carved⟩ := carve?_of_allocate allocated ungrown
  rw [sameLength]
  exact consistent.free_of_carve? positive wholeGranules power small carved

/-- The segment of a growth stays, and serves the same request from then on. -/
theorem free_of_grown
    (consistent : allocator.Consistent outstanding)
    (positive : 0 < reserved)
    (wholeGranules : reserved % granule = 0)
    (power : isPowerOfTwo align = true)
    (small : align ≤ pageSize)
    {carve : Carve}
    (allocated : allocator.allocate depth reserved align = (.ok carve, after))
    (grew : carve.grew = true)
    (honest : Dealing.Honest after.backend.dealings) :
    (∃ segment, GrownBy allocator (after.free carve.addr carve.reserved) segment) ∧
      ((after.free carve.addr carve.reserved).carve? reserved (max align granule)).isSome =
        true := by
  rcases allocate_cases allocated with
    ⟨addr, carved, same⟩ |
    ⟨-, ⟨err, -, same⟩ | ⟨grown, succeeded, ⟨addr, carved, same⟩ | ⟨-, -, same⟩⟩⟩
  · cases same
    cases grew
  · cases same
  · cases same
    have grownHonest : Dealing.Honest grown.backend.dealings := by
      obtain ⟨fit, -, -, rfl⟩ := carve?_eq_some carved
      exact honest
    have consistentGrown := consistent.grow positive succeeded grownHonest
    rw [consistentGrown.free_of_carve? positive wholeGranules power small carved, carved]
    exact ⟨consistent.grownBy positive succeeded grownHonest, rfl⟩
  · cases same

/-! ## Cycles -/

theorem cycle_eq_self
    (consistent : allocator.Consistent outstanding)
    (positive : 0 < reserved)
    (wholeGranules : reserved % granule = 0)
    (power : isPowerOfTwo align = true)
    (small : align ≤ pageSize)
    (fits : (allocator.carve? reserved (max align granule)).isSome = true)
    (depth : Nat) :
    allocator.cycle reserved align depth = allocator := by
  obtain ⟨⟨addr, after⟩, carved⟩ := Option.isSome_iff_exists.mp fits
  rw [cycle, allocate_of_carve? carved depth]
  exact consistent.free_of_carve? positive wholeGranules power small carved

theorem cycle
    (consistent : allocator.Consistent outstanding)
    (positive : 0 < reserved)
    (wholeGranules : reserved % granule = 0)
    (power : isPowerOfTwo align = true)
    (small : align ≤ pageSize)
    (honest : Dealing.Honest (allocator.cycle reserved align depth).backend.dealings) :
    (allocator.cycle reserved align depth).Consistent outstanding := by
  unfold Allocator.cycle at honest ⊢
  split at honest
  · rename_i carve after allocated
    exact
      (consistent.allocate_ok positive wholeGranules power small allocated honest).2.free
  · rename_i err after allocated
    exact consistent.allocate_error positive allocated honest

/-- A cycle lends no segment, or it leaves room for all the cycles after it. -/
theorem cycle_grants
    (consistent : allocator.Consistent outstanding)
    (positive : 0 < reserved)
    (wholeGranules : reserved % granule = 0)
    (power : isPowerOfTwo align = true)
    (small : align ≤ pageSize)
    (honest : Dealing.Honest (allocator.cycle reserved align depth).backend.dealings) :
    ∃ recent,
      (allocator.cycle reserved align depth).backend.dealings =
          recent ++ allocator.backend.dealings ∧
        (recent.countP Dealing.grants = 0 ∨
          recent.countP Dealing.grants = 1 ∧
            ((allocator.cycle reserved align depth).carve? reserved
              (max align granule)).isSome = true) := by
  unfold Allocator.cycle at honest ⊢
  split at honest
  · rename_i carve after allocated
    cases grew : carve.grew with
    | false =>
        rw [consistent.free_of_ungrown positive wholeGranules power small allocated grew]
        exact ⟨[], rfl, .inl rfl⟩
    | true =>
        obtain ⟨⟨segment, grown⟩, fits⟩ :=
          consistent.free_of_grown positive wholeGranules power small allocated grew honest
        exact ⟨[_], grown.granted, .inr ⟨rfl, fits⟩⟩
  · rename_i err after failed
    rcases consistent.dealings_of_failed positive power small failed honest with
      same | ⟨len, refused⟩
    · exact ⟨[], same, .inl rfl⟩
    · exact ⟨[_], refused, .inl rfl⟩

theorem cycles_eq_self
    (consistent : allocator.Consistent outstanding)
    (positive : 0 < reserved)
    (wholeGranules : reserved % granule = 0)
    (power : isPowerOfTwo align = true)
    (small : align ≤ pageSize)
    (fits : (allocator.carve? reserved (max align granule)).isSome = true)
    (depths : List Nat) :
    depths.foldl (Allocator.cycle reserved align) allocator = allocator := by
  induction depths with
  | nil =>
      rfl
  | cons depth rest inductionHypothesis =>
      rw [List.foldl_cons,
        consistent.cycle_eq_self positive wholeGranules power small fits depth]
      exact inductionHypothesis

/-- However often a request is made and returned, the backend lends one segment at most. -/
theorem cycles_grant
    (consistent : allocator.Consistent outstanding)
    (positive : 0 < reserved)
    (wholeGranules : reserved % granule = 0)
    (power : isPowerOfTwo align = true)
    (small : align ≤ pageSize)
    {depths : List Nat}
    (honest :
      Dealing.Honest
        (depths.foldl (Allocator.cycle reserved align) allocator).backend.dealings) :
    ∃ recent,
      (depths.foldl (Allocator.cycle reserved align) allocator).backend.dealings =
          recent ++ allocator.backend.dealings ∧
        recent.countP Dealing.grants ≤ 1 := by
  induction depths generalizing allocator with
  | nil =>
      exact ⟨[], rfl, Nat.zero_le 1⟩
  | cons depth rest inductionHypothesis =>
      rw [List.foldl_cons] at honest ⊢
      obtain ⟨later, whole⟩ :=
        cycles_dealings reserved align rest (allocator.cycle reserved align depth)
      have firstHonest : Dealing.Honest
          (allocator.cycle reserved align depth).backend.dealings := by
        rw [whole] at honest
        exact honest.earlier
      have next := consistent.cycle positive wholeGranules power small firstHonest
      obtain ⟨first, firstWhole, none | ⟨one, fits⟩⟩ :=
        consistent.cycle_grants positive wholeGranules power small firstHonest
      · obtain ⟨later, whole, atMost⟩ := inductionHypothesis next honest
        refine ⟨later ++ first, by rw [whole, firstWhole, List.append_assoc], ?_⟩
        rw [List.countP_append, none]
        exact atMost
      · -- The segment of the first cycle serves all others, which change nothing any more.
        rw [next.cycles_eq_self positive wholeGranules power small fits rest]
        exact ⟨first, firstWhole, Nat.le_of_eq one⟩

theorem serves_returned
    {span : Span}
    (consistent : allocator.Consistent (span :: outstanding))
    (positive : 0 < reserved)
    (power : isPowerOfTwo align = true)
    (small : align ≤ pageSize)
    (fits : reserved ≤ span.len)
    (aligned : align ∣ span.start)
    (depth : Nat) :
    ∃ addr after,
      (allocator.free span.start span.len).allocate depth reserved align =
          (.ok ⟨addr, reserved, false⟩, after) ∧
        after.backend = allocator.backend := by
  obtain ⟨alignPositive, alignSmall, -, -⟩ := alignment_bounds power small
  have startAligned : span.start % max align granule = 0 := by
    have granules :=
      (consistent.arena.tiled.outstanding_inside span List.mem_cons_self).start_aligned
    rcases Nat.le_total align granule with less | more
    · rw [Nat.max_eq_right less]
      exact granules
    · rw [Nat.max_eq_left more]
      exact Nat.mod_eq_zero_of_dvd aligned
  -- The request may be served elsewhere, but it would fit at the start of the range.
  have vacant : allocator.arena.Vacant outstanding ⟨span.start, reserved⟩ :=
    consistent.arena.tiled.vacant_of_outstanding
      ⟨Nat.le_refl _, Nat.add_le_add_left fits span.start⟩
  have held : (allocator.free span.start span.len).arena.held = allocator.arena.held :=
    (Arena.sameFrame_free allocator.arena span.start span.len).held_eq
  have returned : (allocator.free span.start span.len).Consistent outstanding :=
    consistent.free
  have carves :=
    (carve?_isSome_iff returned.arena.tiled positive alignPositive alignSmall).mpr
      ⟨span.start, startAligned, held ▸ vacant.inside, vacant.unheld⟩
  obtain ⟨⟨addr, after⟩, carved⟩ := Option.isSome_iff_exists.mp carves
  refine ⟨addr, after, allocate_of_carve? carved depth, ?_⟩
  obtain ⟨fit, -, -, rfl⟩ := carve?_eq_some carved
  rfl

end

end Consistent

end Allocator

namespace Tenancy

variable {β : Type} [Backend β]

/-- How a range of a length and an alignment is used again once it is returned. -/
structure Reuses
    (tenancy : Tenancy (Recorder β))
    (reserved align : Nat) : Prop where
  undone : ∀ depth carve after,
    tenancy.allocator.allocate depth reserved align = (.ok carve, after) → carve.grew = false →
      after.free carve.addr carve.reserved = tenancy.allocator
  /-- After a growth, there is one free segment more. -/
  grown : ∀ depth carve after,
    tenancy.allocator.allocate depth reserved align = (.ok carve, after) → carve.grew = true →
      Dealing.Honest after.backend.dealings →
        ∃ segment,
          Allocator.GrownBy tenancy.allocator (after.free carve.addr carve.reserved) segment
  cycles : ∀ depths : List Nat, ∀ last : Allocator (Recorder β),
    last = depths.foldl (Allocator.cycle reserved align) tenancy.allocator →
      Dealing.Honest last.backend.dealings →
        ∃ recent, last.backend.dealings = recent ++ tenancy.dealings ∧
          recent.countP Dealing.grants ≤ 1
  /-- It is served from any range that is returned, long enough and aligned for it. -/
  returned : ∀ span ∈ tenancy.outstanding, reserved ≤ span.len → align ∣ span.start →
    ∀ depth, ∃ addr after,
      (tenancy.allocator.free span.start span.len).allocate depth reserved align =
          (.ok ⟨addr, reserved, false⟩, after) ∧
        after.backend = tenancy.allocator.backend

/-- In every state, returning a range undoes its allocation but for the segment of a growth, so
that cycles of one request take one segment at most and what is returned is used again. -/
theorem reuses_ranges
    {tenancy : Tenancy (Recorder β)}
    (reached : tenancy.Reached)
    {reserved align : Nat}
    (positive : 0 < reserved)
    (wholeGranules : reserved % granule = 0)
    (power : isPowerOfTwo align = true)
    (small : align ≤ pageSize) :
    Reuses tenancy reserved align where
  undone _ _ _ allocated ungrown :=
    reached.consistent.free_of_ungrown positive wholeGranules power small allocated ungrown
  grown _ _ _ allocated grew honest :=
    (reached.consistent.free_of_grown positive wholeGranules power small allocated grew
      honest).1
  cycles _ _ same honest := by
    subst same
    exact reached.consistent.cycles_grant positive wholeGranules power small honest
  returned _ member fits aligned depth :=
    (reached.consistent.perm (List.perm_cons_erase member)).serves_returned positive power small
      fits aligned depth

def crowded : Tenancy (Recorder SimulatedBackend) :=
  (start .host (Recorder.start (SimulatedBackend.upwards 65536 0 [])) none 4096).run 0
    [.allocate 4096 16]

/-- A range that was carved from the middle of another is joined with both its ends again.
With the page in use, the first of three cycles grows, and returning the page serves the
request without it. -/
theorem reuses_ranges_crowded :
    (holed.allocator.allocate 0 48 256).2.free 65792 48 = holed.allocator ∧
      ([0, 0, 0].foldl (Allocator.cycle 48 256) crowded.allocator).backend.dealings =
        .commit 4096 (some ⟨69632, 4096⟩) :: crowded.dealings ∧
      ∃ addr after, (crowded.allocator.free 65536 4096).allocate 0 48 256 =
          (.ok ⟨addr, 48, false⟩, after) ∧
        after.backend = crowded.allocator.backend := by
  have reached : crowded.Reached :=
    (Reached.start .host (SimulatedBackend.upwards 65536 0 []) none 4096).run
      (by decide +kernel) (by decide +kernel)
  have inHole : Reuses holed 48 256 :=
    reuses_ranges reached_holed (by decide) (by decide) (by decide) (by decide)
  have inPage : Reuses crowded 48 256 :=
    reuses_ranges reached (by decide) (by decide) (by decide) (by decide)
  have answer : (holed.allocator.allocate 0 48 256).1 = .ok ⟨65792, 48, false⟩ := by
    decide +kernel
  have allocated : holed.allocator.allocate 0 48 256 =
      (.ok ⟨65792, 48, false⟩, (holed.allocator.allocate 0 48 256).2) := Prod.ext answer rfl
  have undone := inHole.undone 0 ⟨65792, 48, false⟩ _ allocated rfl
  refine ⟨undone, by decide +kernel, ?_⟩
  exact inPage.returned ⟨65536, 4096⟩ (by decide +kernel) (by decide) (by decide) 0

end Tenancy

end TierHeap
