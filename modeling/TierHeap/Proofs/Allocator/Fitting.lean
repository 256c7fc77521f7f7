import TierHeap.Proofs.Allocator.Growth
import TierHeap.Proofs.Allocator.Reached
import TierHeap.Proofs.Arena.BestFit
import TierHeap.Proofs.Arena.Vacancy

/-!
# Serving requests from the free space

An allocator serves a request without growing exactly if one of its segments has an aligned run
of bytes for it that no caller holds.  The request then starts at the first aligned address of
the least free range that can hold it, and nothing but its bytes leaves the free space
(`Tenancy.serves_best_fit`).
-/

namespace TierHeap

namespace Allocator

variable {β : Type}

/-- How a request that starts at an address is served from a free range. -/
structure ServedFrom
    (before after : Allocator β)
    (reserved align addr : Nat)
    (range : Span) : Prop where
  best : before.arena.BestFit reserved align range
  first : IsLeast {start | start % align = 0 ∧ range.start ≤ start} addr
  /-- What is before and after the request in the range stays free, as do the other ranges. -/
  remains : ∀ span, span ∈ after.arena.freeSpans ↔
    span ∈ range.remainder ⟨addr, reserved⟩ ∨ span ∈ before.arena.freeSpans ∧ span ≠ range
  /-- The bytes of the request leave the free space, and no others. -/
  leaves : ∀ byte, after.arena.IsFree byte ↔
    before.arena.IsFree byte ∧ ¬Span.has ⟨addr, reserved⟩ byte = true
  segments : after.arena.held = before.arena.held
  backend : after.backend = before.backend

/-- The free space can hold a request exactly if it has an aligned run of bytes for it. -/
theorem carve?_isSome_iff
    {allocator : Allocator β}
    {outstanding : List Span}
    (tiled : allocator.arena.Tiled outstanding)
    {reserved align : Nat}
    (positive : 0 < reserved)
    (alignPositive : 0 < align)
    (alignSmall : align ≤ pageSize) :
    (allocator.carve? reserved align).isSome = true ↔
      ∃ addr, addr % align = 0 ∧ allocator.arena.Vacant outstanding ⟨addr, reserved⟩ := by
  rw [carve?, Option.isSome_map, Arena.carve?, Option.isSome_map, Option.isSome_iff_ne_none,
    ne_eq, tiled.findFit?_eq_none_iff alignPositive alignSmall]
  simp only [not_forall, not_not, exists_prop]
  constructor
  · rintro ⟨free, member, addr, aligned, after, room⟩
    exact ⟨addr, aligned, tiled.vacant_of_free member ⟨after, room⟩⟩
  · rintro ⟨addr, aligned, vacant⟩
    obtain ⟨free, member, after, room⟩ := (tiled.vacant_iff positive).mp vacant
    exact ⟨free, member, addr, aligned, after, room⟩

theorem Consistent.servedFrom
    {allocator after : Allocator (Recorder β)}
    {outstanding : List Span}
    (consistent : allocator.Consistent outstanding)
    {reserved align addr : Nat}
    (positive : 0 < reserved)
    (wholeGranules : reserved % granule = 0)
    (power : isPowerOfTwo align = true)
    (small : align ≤ pageSize)
    (carved : allocator.carve? reserved (max align granule) = some (addr, after)) :
    ∃ range, ServedFrom allocator after reserved (max align granule) addr range := by
  have tiled := consistent.arena.tiled
  obtain ⟨alignPositive, alignSmall, -, -⟩ := alignment_bounds power small
  have tiledAfter :=
    (consistent.carve? positive wholeGranules power small carved).arena.tiled
  obtain ⟨fit, found, rfl, rfl⟩ := carve?_eq_some carved
  have fits := tiled.findFit?_eq_some alignPositive alignSmall found
  have frame := Arena.sameFrame_carveAt allocator.arena reserved fit
  have held : (allocator.arena.carveAt reserved fit).held = allocator.arena.held := frame.held_eq
  refine ⟨⟨fit.addr, fit.len⟩, tiled.findFit?_best alignPositive alignSmall found,
    tiled.findFit?_first alignPositive alignSmall found,
    fun span => tiled.mem_freeSpans_carveAt positive fits, fun byte => ?_, held, rfl⟩
  rw [tiled.isFree_iff, tiledAfter.isFree_iff, held, List.forall_mem_cons, and_comm (a := ¬_),
    and_assoc]

variable [Backend β]

theorem allocate_of_carve?
    {allocator after : Allocator β}
    {reserved align addr : Nat}
    (carved : allocator.carve? reserved (max align granule) = some (addr, after))
    (depth : Nat) :
    allocator.allocate depth reserved align = (.ok ⟨addr, reserved, false⟩, after) := by
  simp only [allocate, carved]

theorem carve?_of_allocate
    {allocator after : Allocator β}
    {depth reserved align : Nat}
    {carve : Carve}
    (allocated : allocator.allocate depth reserved align = (.ok carve, after))
    (ungrown : carve.grew = false) :
    carve.reserved = reserved ∧
      allocator.carve? reserved (max align granule) = some (carve.addr, after) := by
  rcases allocate_cases allocated with
    ⟨addr, carved, same⟩ |
    ⟨-, ⟨err, -, same⟩ | ⟨grown, -, ⟨addr, -, same⟩ | ⟨-, -, same⟩⟩⟩
  · cases same
    exact ⟨rfl, carved⟩
  · cases same
  · cases same
    cases ungrown
  · cases same

end Allocator

namespace Tenancy

variable {β : Type} [Backend β]

/-- In every state, a request is served without growing exactly if some segment has an aligned
run of bytes for it that no caller holds; then the best fitting range serves it. -/
theorem serves_best_fit
    {tenancy : Tenancy (Recorder β)}
    (reached : tenancy.Reached)
    (depth reserved align : Nat)
    (positive : 0 < reserved)
    (wholeGranules : reserved % granule = 0)
    (power : isPowerOfTwo align = true)
    (small : align ≤ pageSize) :
    ((∃ carve after, tenancy.allocator.allocate depth reserved align = (.ok carve, after) ∧
        carve.grew = false) ↔
      ∃ addr, addr % max align granule = 0 ∧
        tenancy.allocator.arena.Vacant tenancy.outstanding ⟨addr, reserved⟩) ∧
    ∀ carve after, tenancy.allocator.allocate depth reserved align = (.ok carve, after) →
      carve.grew = false →
        carve.reserved = reserved ∧
          ∃ range, Allocator.ServedFrom tenancy.allocator after reserved (max align granule)
            carve.addr range := by
  have consistent := reached.consistent
  obtain ⟨alignPositive, alignSmall, -, -⟩ := alignment_bounds power small
  refine ⟨?_, ?_⟩
  · rw [← Allocator.carve?_isSome_iff consistent.arena.tiled positive alignPositive alignSmall]
    constructor
    · rintro ⟨carve, after, allocated, ungrown⟩
      obtain ⟨-, carved⟩ := Allocator.carve?_of_allocate allocated ungrown
      rw [carved]
      rfl
    · intro fits
      obtain ⟨⟨addr, after⟩, carved⟩ := Option.isSome_iff_exists.mp fits
      exact ⟨⟨addr, reserved, false⟩, after, Allocator.allocate_of_carve? carved depth, rfl⟩
  · intro carve after allocated ungrown
    obtain ⟨sameLength, carved⟩ := Allocator.carve?_of_allocate allocated ungrown
    exact ⟨sameLength, consistent.servedFrom positive wholeGranules power small carved⟩

/-- Two ranges are returned between others that stay: the longer one is below the shorter
one. -/
def twoHoles : List Request :=
  [.allocate 16 16, .allocate 512 16, .allocate 16 16, .allocate 64 16, .allocate 16 16,
    .free ⟨65552, 512⟩, .free ⟨66080, 64⟩]

def holed : Tenancy (Recorder SimulatedBackend) :=
  (start .host (Recorder.start (SimulatedBackend.upwards 65536 0 [])) none 4096).run 0 twoHoles

theorem reached_holed : holed.Reached :=
  (Reached.start .host (SimulatedBackend.upwards 65536 0 []) none 4096).run
    (by decide +kernel) (by decide +kernel)

/-- The shorter range is long enough but has no aligned address, so the longer one serves the
request and is split around it. -/
theorem serves_best_fit_twoHoles :
    (holed.allocator.allocate 0 48 256).1 = .ok ⟨65792, 48, false⟩ ∧
      ∃ range, Allocator.ServedFrom holed.allocator (holed.allocator.allocate 0 48 256).2 48 256
        65792 range := by
  have answer : (holed.allocator.allocate 0 48 256).1 = .ok ⟨65792, 48, false⟩ := by
    decide +kernel
  have allocated : holed.allocator.allocate 0 48 256 =
      (.ok ⟨65792, 48, false⟩, (holed.allocator.allocate 0 48 256).2) := Prod.ext answer rfl
  obtain ⟨-, serves⟩ :=
    serves_best_fit reached_holed 0 48 256 (by decide) (by decide) (by decide) (by decide)
  exact ⟨answer, (serves _ _ allocated rfl).2⟩

end Tenancy

end TierHeap
