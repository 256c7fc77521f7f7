import TierHeap.Proofs.Allocator.Tenancy

/-!
# When and by how much an allocator grows

An allocator asks its backend for a segment only if no free range can hold the request, and
then at most once.  It asks for the growth unit, or for the request in whole pages if that is
more; under a ceiling that is too close for either, it asks for all the whole pages there are
left, if the request fits in them (`Tenancy.growth_at_need`).  A segment that the backend
grants serves the request from its base, so that growing is never in vain
(`Allocator.carve?_adopt`).
-/

namespace TierHeap

namespace Allocator

variable {β : Type}

theorem growthLength?_unlimited
    {allocator : Allocator β}
    (unlimited : allocator.capacity = none)
    (minimum : Nat) :
    allocator.growthLength? minimum = some (max minimum allocator.growthUnit) := by
  simp only [growthLength?, unlimited]

theorem growthLength?_roomy
    {allocator : Allocator β}
    {capacity minimum : Nat}
    (limited : allocator.capacity = some capacity)
    (roomy : max minimum allocator.growthUnit ≤ capacity - allocator.arena.committed) :
    allocator.growthLength? minimum = some (max minimum allocator.growthUnit) := by
  simp only [growthLength?, limited, if_pos roomy]

theorem growthLength?_tight
    {allocator : Allocator β}
    {capacity minimum : Nat}
    (limited : allocator.capacity = some capacity)
    (short : capacity - allocator.arena.committed < max minimum allocator.growthUnit)
    (enough : minimum ≤ capacity - allocator.arena.committed) :
    allocator.growthLength? minimum =
      some (pageFloor (capacity - allocator.arena.committed)) := by
  simp only [growthLength?, limited, if_neg (Nat.not_le.mpr short), if_pos enough]

theorem growthLength?_exhausted
    {allocator : Allocator β}
    {capacity minimum : Nat}
    (limited : allocator.capacity = some capacity)
    (exhausted : capacity - allocator.arena.committed < minimum) :
    allocator.growthLength? minimum = none := by
  have short : capacity - allocator.arena.committed < max minimum allocator.growthUnit :=
    Nat.lt_of_lt_of_le exhausted (Nat.le_max_left _ _)
  simp only [growthLength?, limited, if_neg (Nat.not_le.mpr short),
    if_neg (Nat.not_le.mpr exhausted)]

/-- The whole pages in a number are the largest page multiple up to it. -/
theorem pageFloor_unique
    {n len : Nat}
    (aligned : len % pageSize = 0)
    (low : len ≤ n)
    (high : n < len + pageSize) :
    pageFloor n = len := by
  obtain ⟨floorAligned, floorLow, floorHigh⟩ := pageFloor_bounds n
  simp only [pageSize] at *
  omega

theorem pageAlign?_of_le_largest
    {reserved : Nat}
    (fits : reserved ≤ largestRequest) :
    ∃ minimum, pageAlign? reserved = some minimum := by
  refine ⟨_, roundUp?_eq_some_iff.mpr ⟨?_, rfl⟩⟩
  simp only [largestRequest, pageSize, Word.bound] at *
  omega

/-- A segment that is long enough serves a request that nothing else could hold, from its
base. -/
theorem carve?_adopt
    {allocator grown : Allocator β}
    {outstanding : List Span}
    (tiled : allocator.arena.Tiled outstanding)
    {segment : Segment}
    (sameArena : grown.arena = allocator.arena.adopt segment)
    (placed : segment.Placed)
    (apart : ∀ held ∈ allocator.arena.held, segment.span.Apart held.span)
    {reserved align : Nat}
    (longEnough : reserved ≤ segment.len)
    (power : isPowerOfTwo align = true)
    (small : align ≤ pageSize)
    (full : allocator.carve? reserved (max align granule) = none) :
    ∃ after, grown.carve? reserved (max align granule) = some (segment.base, after) := by
  obtain ⟨alignPositive, alignSmall, -, alignDivides⟩ := alignment_bounds power small
  have spans := tiled.freeSpans_adopt_perm placed apart
  have adopted := tiled.adopt placed apart
  have noFit : ∀ span ∈ allocator.arena.freeSpans,
      ¬span.CanHold reserved (max align granule) := by
    apply (tiled.findFit?_eq_none_iff alignPositive alignSmall).mp
    exact Option.map_eq_none_iff.mp (Option.map_eq_none_iff.mp full)
  have baseAligned : segment.base % max align granule = 0 :=
    Nat.mod_eq_zero_of_dvd
      (Nat.dvd_trans alignDivides (Nat.dvd_of_mod_eq_zero placed.base_aligned))
  cases found : (allocator.arena.adopt segment).findFit? reserved (max align granule) with
  | none =>
      have refused := (adopted.findFit?_eq_none_iff alignPositive alignSmall).mp found
      refine absurd ?_ (refused segment.span (spans.mem_iff.mpr List.mem_cons_self))
      exact ⟨segment.base, baseAligned, Nat.le_refl _, Nat.add_le_add_left longEnough _⟩
  | some fit =>
      have fits := adopted.findFit?_eq_some alignPositive alignSmall found
      have free : (⟨fit.addr, fit.len⟩ : Span) ∈ (allocator.arena.adopt segment).freeSpans :=
        Arena.mem_freeSpans.mpr fits.free
      have addr : fit.addr = segment.base := by
        rcases List.mem_cons.mp (spans.mem_iff.mp free) with same | old
        · exact congrArg Span.start same
        · exact absurd ⟨fit.start, fits.aligned, fits.after, fits.room⟩ (noFit _ old)
      have start := Arena.findFit?_start found
      rw [addr, nextMultiple?, if_pos baseAligned] at start
      rw [carve?, sameArena, Arena.carve?, found]
      exact ⟨_, by rw [Option.some.inj start]; rfl⟩

/-- One request to the backend for a segment of a length decides an allocation: it is served
from the base of the segment, or it fails as the backend did. -/
def AskedOnce
    (before after : Allocator (Recorder β))
    (reserved len : Nat)
    (answer : Except GrowError Carve) : Prop :=
  (∃ segment,
    after.backend.dealings = .commit len (some segment) :: before.backend.dealings ∧
      answer = .ok ⟨segment.base, reserved, true⟩) ∨
  ∃ err,
    after.backend.dealings = .commit len none :: before.backend.dealings ∧
      answer = .error (.backend err)

/-- How an allocator serves a request whose whole pages are `minimum`. -/
structure GrowsAtNeed
    (before after : Allocator (Recorder β))
    (reserved align minimum : Nat)
    (answer : Except GrowError Carve) : Prop where
  /-- A free range that can hold the request serves it, and the backend is not asked. -/
  served : (∃ span ∈ before.arena.freeSpans, span.CanHold reserved align) →
    after.backend.dealings = before.backend.dealings ∧
      ∃ addr, answer = .ok ⟨addr, reserved, false⟩
  /-- Without a ceiling, the arena grows by the preferred length. -/
  unlimited : (∀ span ∈ before.arena.freeSpans, ¬span.CanHold reserved align) →
    before.capacity = none →
      AskedOnce before after reserved (max minimum before.growthUnit) answer
  /-- So it does under a ceiling that leaves room for it. -/
  roomy : (∀ span ∈ before.arena.freeSpans, ¬span.CanHold reserved align) →
    ∀ capacity, before.capacity = some capacity →
      max minimum before.growthUnit ≤ capacity - before.arena.committed →
        AskedOnce before after reserved (max minimum before.growthUnit) answer
  /-- With room for the request only, it grows by the whole pages that there is room for. -/
  tight : (∀ span ∈ before.arena.freeSpans, ¬span.CanHold reserved align) →
    ∀ capacity, before.capacity = some capacity →
      capacity - before.arena.committed < max minimum before.growthUnit →
        minimum ≤ capacity - before.arena.committed →
          ∀ len, len % pageSize = 0 → len ≤ capacity - before.arena.committed →
            capacity - before.arena.committed < len + pageSize →
              AskedOnce before after reserved len answer
  /-- Without room for the request, it fails, and the backend is not asked. -/
  exhausted : (∀ span ∈ before.arena.freeSpans, ¬span.CanHold reserved align) →
    ∀ capacity, before.capacity = some capacity →
      capacity - before.arena.committed < minimum →
        after.backend.dealings = before.backend.dealings ∧
          answer = .error (.capacityExceeded capacity before.arena.committed minimum)

namespace Consistent

variable {allocator after : Allocator (Recorder β)} {outstanding : List Span}

/-- The free space as it is cannot serve a request exactly if no free range can hold it. -/
theorem carve?_eq_none_iff
    (consistent : allocator.Consistent outstanding)
    {align : Nat}
    (power : isPowerOfTwo align = true)
    (small : align ≤ pageSize)
    (reserved : Nat) :
    allocator.carve? reserved (max align granule) = none ↔
      ∀ span ∈ allocator.arena.freeSpans, ¬span.CanHold reserved align := by
  have tiled := consistent.arena.tiled
  obtain ⟨alignPositive, alignSmall, -, -⟩ := alignment_bounds power small
  have granules : ∀ span ∈ allocator.arena.freeSpans,
      (span.CanHold reserved (max align granule) ↔ span.CanHold reserved align) :=
    fun span member =>
      Span.canHold_granule_iff (tiled.free_inside span member).start_aligned power reserved
  rw [Allocator.carve?, Option.map_eq_none_iff, Arena.carve?, Option.map_eq_none_iff,
    tiled.findFit?_eq_none_iff alignPositive alignSmall]
  constructor
  · intro full span member canHold
    exact full span member ((granules span member).mpr canHold)
  · intro full span member canHold
    exact full span member ((granules span member).mp canHold)

variable [Backend β]

/-- A free range that can hold a request serves it, however long its whole pages are. -/
theorem served_of_canHold
    (consistent : allocator.Consistent outstanding)
    {depth reserved align : Nat}
    {answer : Except GrowError Carve}
    (power : isPowerOfTwo align = true)
    (small : align ≤ pageSize)
    (allocated : allocator.allocate depth reserved align = (answer, after))
    (fits : ∃ span ∈ allocator.arena.freeSpans, span.CanHold reserved align) :
    after.backend.dealings = allocator.backend.dealings ∧
      ∃ addr, answer = .ok ⟨addr, reserved, false⟩ := by
  obtain ⟨span, member, canHold⟩ := fits
  rcases allocate_cases allocated with ⟨addr, carved, rfl⟩ | ⟨absent, -⟩
  · obtain ⟨fit, -, -, rfl⟩ := carve?_eq_some carved
    exact ⟨rfl, addr, rfl⟩
  · have full := (consistent.carve?_eq_none_iff power small reserved).mp absent
    exact absurd canHold (full span member)

/-- A request that no free range can hold fails if its whole pages are no word. -/
theorem refused_of_overflow
    (consistent : allocator.Consistent outstanding)
    {depth reserved align : Nat}
    {answer : Except GrowError Carve}
    (power : isPowerOfTwo align = true)
    (small : align ≤ pageSize)
    (allocated : allocator.allocate depth reserved align = (answer, after))
    (tooSmall : ∀ span ∈ allocator.arena.freeSpans, ¬span.CanHold reserved align)
    (overflow : pageAlign? reserved = none) :
    answer =
      .error
        (.capacityExceeded allocator.reportedCapacity allocator.arena.committed reserved) := by
  have full := (consistent.carve?_eq_none_iff power small reserved).mpr tooSmall
  rw [allocate_eq_refusal full (grow_eq_overflow overflow depth)] at allocated
  cases allocated
  rfl

/-- When nothing fits and the ceiling admits a length, one request to the backend decides. -/
theorem askedOnce
    (consistent : allocator.Consistent outstanding)
    {depth reserved align minimum len : Nat}
    {answer : Except GrowError Carve}
    (positive : 0 < reserved)
    (power : isPowerOfTwo align = true)
    (small : align ≤ pageSize)
    (allocated : allocator.allocate depth reserved align = (answer, after))
    (honest : Dealing.Honest after.backend.dealings)
    (full : allocator.carve? reserved (max align granule) = none)
    (rounded : pageAlign? reserved = some minimum)
    (admitted : allocator.growthLength? minimum = some len) :
    AskedOnce allocator after reserved len answer := by
  obtain ⟨wholePages, large, -, -⟩ := pageAlign?_bounds rounded
  obtain ⟨longEnough, lenPositive, lenAligned, -⟩ :=
    growthLength?_bounds consistent.unit_pos consistent.unit_aligned (by omega) wholePages
      admitted
  have grow : allocator.grow depth reserved = allocator.commit depth len :=
    grow_eq_commit rounded admitted depth
  rcases allocate_cases allocated with
    ⟨addr, carved, -⟩ | ⟨-, ⟨err, failed, rfl⟩ | ⟨grown, succeeded, rest⟩⟩
  · rw [full] at carved
    cases carved
  · rw [grow] at failed
    rcases commit_cases failed with ⟨cause, backend, same, rfl⟩ | ⟨segment, backend, same, -⟩
    · cases same
      exact .inr ⟨cause, rfl, rfl⟩
    · cases same
  · rw [grow] at succeeded
    rcases commit_cases succeeded with ⟨cause, backend, same, -⟩ | ⟨segment, backend, -, rfl⟩
    · cases same
    · -- Whatever the second carve gives, it leaves the dealings of the commit alone.
      have granted : after.backend.dealings =
          .commit len (some segment) :: allocator.backend.dealings := by
        rcases rest with ⟨addr, carved, -⟩ | ⟨-, rfl, -⟩
        · obtain ⟨fit, -, -, rfl⟩ := carve?_eq_some carved
          rfl
        · rfl
      rw [granted] at honest
      have answers : segment.Answers len (Dealing.lent allocator.backend.dealings) := honest.1
      obtain ⟨placed, apart⟩ := consistent.placed_apart answers lenPositive lenAligned
      have enough : reserved ≤ segment.len := by
        rw [answers.len_eq]
        omega
      have sameArena :
          Allocator.arena { allocator with
            backend :=
              (⟨backend, .commit len (some segment) :: allocator.backend.dealings⟩ : Recorder β)
            arena := allocator.arena.adopt segment } = allocator.arena.adopt segment := rfl
      obtain ⟨served, carves⟩ :=
        carve?_adopt consistent.arena.tiled sameArena placed apart enough power small full
      rcases rest with ⟨addr, carved, rfl⟩ | ⟨absent, -, -⟩
      · rw [carves] at carved
        cases carved
        exact .inl ⟨segment, granted, rfl⟩
      · rw [carves] at absent
        cases absent

/-- An allocator over a backend that owes its dealings asks it at need, and in vain never. -/
theorem growsAtNeed
    (consistent : allocator.Consistent outstanding)
    {depth reserved align minimum : Nat}
    {answer : Except GrowError Carve}
    (positive : 0 < reserved)
    (power : isPowerOfTwo align = true)
    (small : align ≤ pageSize)
    (rounded : pageAlign? reserved = some minimum)
    (allocated : allocator.allocate depth reserved align = (answer, after))
    (honest : Dealing.Honest after.backend.dealings) :
    GrowsAtNeed allocator after reserved align minimum answer := by
  have full := consistent.carve?_eq_none_iff power small reserved
  refine ⟨consistent.served_of_canHold power small allocated, ?_, ?_, ?_, ?_⟩
  · intro tooSmall unlimited
    exact consistent.askedOnce positive power small allocated honest (full.mpr tooSmall) rounded
      (growthLength?_unlimited unlimited minimum)
  · intro tooSmall capacity limited roomy
    exact consistent.askedOnce positive power small allocated honest (full.mpr tooSmall) rounded
      (growthLength?_roomy limited roomy)
  · intro tooSmall capacity limited short enough len lenAligned low high
    have admitted := growthLength?_tight limited short enough
    rw [pageFloor_unique lenAligned low high] at admitted
    exact consistent.askedOnce positive power small allocated honest (full.mpr tooSmall) rounded
      admitted
  · intro tooSmall capacity limited exhausted
    have refused := growthLength?_exhausted limited exhausted
    have reported : allocator.reportedCapacity = capacity := by
      rw [reportedCapacity, limited, Option.getD_some]
    rw [allocate_eq_refusal (full.mpr tooSmall) (grow_eq_refusal rounded refused depth)]
      at allocated
    cases allocated
    rw [reported]
    exact ⟨rfl, rfl⟩

end Consistent

end Allocator

/-! ## In any run -/

namespace Tenancy

variable {β : Type} [Backend β]

/-- After any run over a backend that owes its dealings, no more than the ceiling is committed,
the ceiling and the growth unit are those of the start, and the next request makes the
allocator grow at need. -/
theorem growth_at_need
    (tier : Tier)
    (backend : β)
    (capacity : Option Nat)
    (segmentSize depth : Nat)
    (requests : List Request)
    (before : Allocator (Recorder β))
    (reached : before =
      ((start tier (Recorder.start backend) capacity segmentSize).run depth requests).allocator)
    (allowed : (start tier (Recorder.start backend) capacity segmentSize).Allows depth requests)
    (honest : Dealing.Honest before.backend.dealings) :
    (∀ ceiling, capacity = some ceiling → before.stats.committedBytes ≤ ceiling) ∧
      before.capacity = capacity ∧
      before.growthUnit = (pageAlign? (max segmentSize pageSize)).getD pageSize ∧
      ∀ reserved align, 0 < reserved → reserved % granule = 0 → reserved ≤ largestRequest →
        isPowerOfTwo align = true → align ≤ pageSize →
          ∀ answer after, before.allocate depth reserved align = (answer, after) →
            Dealing.Honest after.backend.dealings →
              ∃ minimum, pageAlign? reserved = some minimum ∧
                Allocator.GrowsAtNeed before after reserved align minimum answer := by
  subst reached
  have opening :
      (start tier (Recorder.start backend) capacity segmentSize).allocator.Consistent [] :=
    Allocator.consistent_new tier backend capacity segmentSize
  have consistent := consistent_run opening allowed honest
  have settings :=
    sameSettings_run depth (start tier (Recorder.start backend) capacity segmentSize) requests
  have sameCapacity := settings.capacity
  have sameUnit := settings.growthUnit
  simp only [start, Allocator.new] at sameCapacity sameUnit
  refine ⟨?_, sameCapacity, sameUnit, ?_⟩
  · intro ceiling limited
    exact consistent.ceiling ceiling (sameCapacity.trans limited)
  · intro reserved align positive _ fits power small answer after allocated honestAfter
    obtain ⟨minimum, rounded⟩ := Allocator.pageAlign?_of_le_largest fits
    exact ⟨minimum, rounded,
      consistent.growsAtNeed positive power small rounded allocated honestAfter⟩

def twoPages : List Request :=
  [.allocate 4096 16, .allocate 4096 4096]

/-- An allocator with no free range left, under a ceiling of three pages and a bit. -/
def almostExhausted : Allocator (Recorder SimulatedBackend) :=
  ((start .host (Recorder.start (SimulatedBackend.upwards 65536 4096 [])) (some 14000) 8192).run 1
    twoPages).allocator

/-- There is room for one more page, so the next request asks for just that. -/
theorem growth_at_need_almostExhausted :
    Allocator.AskedOnce almostExhausted (almostExhausted.allocate 1 16 64).2 16 4096
      (almostExhausted.allocate 1 16 64).1 := by
  have allowed :
      (start .host (Recorder.start (SimulatedBackend.upwards 65536 4096 [])) (some 14000)
        8192).Allows 1 twoPages := by decide +kernel
  have honest : Dealing.Honest almostExhausted.backend.dealings := by decide +kernel
  have honestAfter :
      Dealing.Honest (almostExhausted.allocate 1 16 64).2.backend.dealings := by decide +kernel
  have full : almostExhausted.arena.freeSpans = [] := by decide +kernel
  have limited : almostExhausted.capacity = some 14000 := by decide +kernel
  have committed : almostExhausted.arena.committed = 8192 := by decide +kernel
  have unit : almostExhausted.growthUnit = 8192 := by decide +kernel
  have need :=
    growth_at_need .host (SimulatedBackend.upwards 65536 4096 []) (some 14000) 8192 1 twoPages
  obtain ⟨-, -, -, next⟩ := need almostExhausted rfl allowed honest
  obtain ⟨minimum, rounded, grows⟩ :=
    next 16 64 (by decide) (by decide) (by decide) (by decide) (by decide) _ _ rfl honestAfter
  obtain rfl : minimum = 4096 := by
    have page : pageAlign? 16 = some 4096 := by decide
    exact Option.some.inj (rounded.symm.trans page)
  refine grows.tight ?_ 14000 limited ?_ ?_ 4096 (by decide) ?_ ?_
  · rw [full]
    exact fun _ member => nomatch member
  · rw [committed, unit]
    decide
  · rw [committed]
    decide
  · rw [committed]
    decide
  · rw [committed]
    decide

end Tenancy

end TierHeap
