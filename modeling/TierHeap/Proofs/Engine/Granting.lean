import TierHeap.Proofs.Allocator.Growth
import TierHeap.Proofs.Engine.Changes

/-!
# Requests that are granted

Without a ceiling, a valid request for memory of a tier fails only if the backend of the tier
refuses a commit (`Session.address_of_granted`).
-/

namespace TierHeap

namespace Dealing

/-- No commit has failed. -/
def Granted : Dealing → Prop
  | .commit _ segment => segment.isSome = true
  | .release _ _ => True

instance : DecidablePred Granted
  | .commit _ segment => inferInstanceAs (Decidable (segment.isSome = true))
  | .release _ _ => inferInstanceAs (Decidable True)

def AllGranted (dealings : PerTier (List Dealing)) : Prop :=
  ∀ tier, ∀ dealing ∈ dealings.get tier, dealing.Granted

instance : DecidablePred AllGranted := fun dealings =>
  decidable_of_iff
    ((∀ dealing ∈ dealings.host, dealing.Granted) ∧ ∀ dealing ∈ dealings.cxl, dealing.Granted)
    ⟨fun ⟨host, cxl⟩ tier => by cases tier <;> assumption,
      fun granted => ⟨granted .host, granted .cxl⟩⟩

end Dealing

/-- The largest request is a whole number of granules, so rounding up does not lead beyond
it. -/
theorem Engine.reserve_le_largest
    {size reserved : Nat}
    (found : Engine.reserve size = .ok reserved) :
    reserved ≤ largestRequest := by
  obtain ⟨-, small, rounded⟩ := Engine.reserve_eq_ok found
  obtain ⟨aligned, -, close, -⟩ := granuleAlign?_bounds rounded
  simp only [granule, largestRequest] at *
  omega

/-- Every valid size can be reserved, and what is reserved for it can be rounded up to whole
pages. -/
theorem Engine.reserve_of_valid
    {size : Nat}
    (valid : 0 < size ∧ size ≤ largestRequest) :
    ∃ reserved minimum, Engine.reserve size = .ok reserved ∧
      pageAlign? reserved = some minimum := by
  cases found : Engine.reserve size with
  | error err =>
      have outOfBounds := (Engine.reserve_eq_error found).2
      omega
  | ok reserved =>
      obtain ⟨minimum, pages⟩ :=
        Allocator.pageAlign?_of_le_largest (Engine.reserve_le_largest found)
      exact ⟨reserved, minimum, rfl, pages⟩

namespace Allocator.Consistent

variable {β : Type} [Backend β] {allocator after : Allocator (Recorder β)} {outstanding : List Span}

/-- Without a ceiling, a request fails only with a commit. -/
theorem ok_of_granted
    (consistent : allocator.Consistent outstanding)
    (unlimited : allocator.capacity = none)
    {depth reserved align minimum : Nat}
    {answer : Except GrowError Carve}
    (positive : 0 < reserved)
    (power : isPowerOfTwo align = true)
    (small : align ≤ pageSize)
    (rounded : pageAlign? reserved = some minimum)
    (allocated : allocator.allocate depth reserved align = (answer, after))
    (honest : Dealing.Honest after.backend.dealings)
    (granted : ∀ dealing ∈ after.backend.dealings, dealing.Granted) :
    ∃ carve, answer = .ok carve := by
  have grows := consistent.growsAtNeed positive power small rounded allocated honest
  by_cases fits : ∃ span ∈ allocator.arena.freeSpans, span.CanHold reserved align
  · obtain ⟨-, addr, served⟩ := grows.served fits
    exact ⟨_, served⟩
  · rcases grows.unlimited (by simpa using fits) unlimited with
      ⟨segment, -, served⟩ | ⟨err, refused, -⟩
    · exact ⟨_, served⟩
    · rw [refused] at granted
      have wanted := granted _ List.mem_cons_self
      cases wanted

end Allocator.Consistent

namespace Session

variable {β : Type} [Backend β] {session : Session (Recorder β)} {thread : Nat} {call : Call}

/-- Without a ceiling, a valid request is served unless a commit fails. -/
theorem address_of_granted
    (accounted : session.engine.Accounted [])
    {tier : Tier}
    (unlimited : (session.engine.tiers.get tier).capacity = none)
    {size : Nat}
    (asked : call.task? (session.active thread) = some (.allocate tier size granule))
    (valid : 0 < size ∧ size ≤ largestRequest)
    (abiding : Dealing.Abiding (session.call thread call).2.dealings)
    (granted : Dealing.AllGranted (session.call thread call).2.dealings) :
    ∃ addr, (session.call thread call).1 = .address addr := by
  obtain ⟨reserved, minimum, found, rounded⟩ := Engine.reserve_of_valid valid
  rw [← Engine.reserveAligned_granule] at found
  obtain ⟨reply, change, log, made, ends⟩ := call_ends asked
  rw [made] at abiding granted ⊢
  cases ends with
  | invalid invalid =>
      rw [found] at invalid
      cases invalid
  | @exhausted _ _ _ _ cause allocator valid tried =>
      rw [found] at valid
      cases valid
      obtain ⟨power, small, reserves⟩ := Engine.reserveAligned_eq_ok found
      have dealt : allocator.backend.dealings =
          (PerTier.dealings (session.engine.tiers.set tier allocator)).get tier := by
        rw [PerTier.dealings, PerTier.get_map, PerTier.get_set_self]
      have honest : Dealing.Honest allocator.backend.dealings := by
        rw [dealt]
        exact abiding.honest tier
      have grantedAll : ∀ dealing ∈ allocator.backend.dealings, dealing.Granted := by
        rw [dealt]
        exact granted tier
      obtain ⟨carve, served⟩ :=
        (accounted.backed.consistent tier).ok_of_granted unlimited
          (Engine.reserve_bounds reserves).1 power small rounded tried honest grantedAll
      cases served
  | @allocated _ _ _ _ carve allocator valid tried =>
      exact ⟨carve.addr, rfl⟩

end Session

end TierHeap
