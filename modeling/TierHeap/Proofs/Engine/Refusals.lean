import TierHeap.Proofs.Allocator.Growth
import TierHeap.Proofs.Engine.Tasks
import TierHeap.Proofs.Interleaving.Reached

/-!
# Calls that do not succeed

A call that does not succeed leaves the session as it was, but for counters of failures and the
log (`Session.untouched_of_refused`).  A failed allocation may have asked the backend of its own
tier, which has lent nothing then: after a segment is lent, the request is always served from
it.  The other tier is not asked.
-/

namespace TierHeap

def Arena.uncounted (arena : Arena) : Arena :=
  { arena with capacityFailures := 0 }

def Metrics.uncounted (metrics : Metrics) : Metrics :=
  { metrics with
    tiers := metrics.tiers.map fun counters => { counters with outOfMemory := 0 }
    unknownFrees := 0
    invalidRequests := 0 }

theorem Metrics.uncounted_onOutOfMemory
    (metrics : Metrics)
    (tier : Tier) :
    (metrics.onOutOfMemory tier).uncounted = metrics.uncounted := by
  cases tier <;> rfl

def Reply.succeeds : Reply → Bool
  | .refused _ => false
  | .resized inPlace => inPlace
  | _ => true

namespace Allocator

variable {β : Type}

/-- From one allocator to another, nothing has changed but the count of failures, and the
backend has lent nothing. -/
structure Unmoved (before after : Allocator (Recorder β)) : Prop where
  settings : after.SameSettings before
  arena : after.arena.uncounted = before.arena.uncounted
  dealings : after.backend.dealings = before.backend.dealings ∨
    ∃ len, after.backend.dealings = .commit len none :: before.backend.dealings

theorem Unmoved.refl (allocator : Allocator (Recorder β)) : Unmoved allocator allocator :=
  ⟨.refl allocator, rfl, .inl rfl⟩

variable [Backend β] {allocator after : Allocator (Recorder β)}

theorem unmoved_of_grow_error
    {depth reserved : Nat}
    {err : GrowError}
    (grown : allocator.grow depth reserved = (.error err, after)) :
    Unmoved allocator after := by
  rcases grow_cases grown with
    ⟨-, rfl, -⟩ | ⟨minimum, -, ⟨-, rfl, -⟩ | ⟨len, -, committed⟩⟩
  · exact .refl _
  · exact ⟨⟨rfl, rfl, rfl⟩, rfl, .inl rfl⟩
  · rcases commit_cases committed with ⟨cause, backend, -, rfl⟩ | ⟨segment, backend, same, -⟩
    · exact ⟨⟨rfl, rfl, rfl⟩, rfl, .inr ⟨len, rfl⟩⟩
    · cases same

theorem Consistent.unmoved_of_allocate_error
    {outstanding : List Span}
    (consistent : allocator.Consistent outstanding)
    {depth reserved align : Nat}
    {err : GrowError}
    (positive : 0 < reserved)
    (power : isPowerOfTwo align = true)
    (small : align ≤ pageSize)
    (allocated : allocator.allocate depth reserved align = (.error err, after))
    (honest : Dealing.Honest after.backend.dealings) :
    Unmoved allocator after := by
  rcases allocate_cases allocated with
    ⟨addr, -, same⟩ |
    ⟨full, ⟨err, failed, -⟩ | ⟨grown, succeeded, ⟨addr, -, same⟩ | ⟨-, rfl, -⟩⟩⟩
  · cases same
  · exact unmoved_of_grow_error failed
  · cases same
  · -- The arena has grown in vain, which an honest backend makes impossible.
    exfalso
    rcases grow_cases succeeded with
      ⟨-, -, same⟩ | ⟨minimum, rounded, ⟨-, -, same⟩ | ⟨len, admitted, committed⟩⟩
    · cases same
    · cases same
    · rcases commit_cases committed with ⟨cause, backend, same, -⟩ | ⟨segment, backend, -, rfl⟩
      · cases same
      · rcases consistent.askedOnce positive power small allocated honest full rounded admitted
          with ⟨lent, -, same⟩ | ⟨cause, dealings, -⟩
        · cases same
        · cases dealings

end Allocator

namespace Session

variable {β : Type}

/-- From one session to another, nothing has changed but counters of failures and the log. -/
structure Untouched
    (asked : Option Task)
    (before after : Session (Recorder β)) : Prop where
  config : after.engine.config = before.engine.config
  mode : after.engine.mode = before.engine.mode
  bank : after.bank = before.bank
  table : after.engine.table = before.engine.table
  metrics : after.engine.metrics.uncounted = before.engine.metrics.uncounted
  tiers : ∀ tier,
    Allocator.Unmoved (before.engine.tiers.get tier) (after.engine.tiers.get tier)
  /-- A tier that was not asked for memory is exactly as it was, its backend included. -/
  elsewhere : ∀ tier, (∀ size align, asked ≠ some (.allocate tier size align)) →
    after.engine.tiers.get tier = before.engine.tiers.get tier

variable [Backend β] {session : Session (Recorder β)} {thread : Nat} {call : Call}

omit [Backend β] in
theorem untouched_of_tiers_eq
    {asked : Option Task}
    {metrics : Metrics}
    {log : Log.Lifecycle}
    (uncounted : metrics.uncounted = session.engine.metrics.uncounted) :
    Untouched asked session
      ⟨{ session.engine with metrics := metrics, log := log }, session.bank⟩ :=
  ⟨rfl, rfl, rfl, rfl, uncounted, fun tier => .refl (session.engine.tiers.get tier),
    fun _ _ => rfl⟩

theorem untouched_of_exhausted
    {flight : List Block}
    (accounted : session.engine.Accounted flight)
    {tier : Tier}
    {size align reserved : Nat}
    (valid : Engine.reserveAligned size align = .ok reserved)
    {cause : GrowError}
    {allocator : Allocator (Recorder β)}
    (exhausted : (session.engine.tiers.get tier).allocate Engine.depth reserved align =
      (.error cause, allocator))
    {log : Log.Lifecycle}
    (abiding : Dealing.Abiding (session.changed (.exhausted tier allocator) log).dealings) :
    Untouched (some (.allocate tier size align)) session
      (session.changed (.exhausted tier allocator) log) := by
  have honest := abiding.honest_tier tier
  simp only [changed, withEngine, Change.apply, PerTier.get_set_self] at honest
  obtain ⟨power, small, exact⟩ := Engine.reserveAligned_eq_ok valid
  have positive := (Engine.reserve_bounds exact).1
  have unmoved :=
    (accounted.backed.consistent tier).unmoved_of_allocate_error positive power small exhausted
      honest
  refine ⟨rfl, rfl, rfl, rfl, Metrics.uncounted_onOutOfMemory _ tier, ?_, ?_⟩
  · intro other
    by_cases same : other = tier
    · subst same
      simp only [changed, withEngine, Change.apply, PerTier.get_set_self]
      exact unmoved
    · simp only [changed, withEngine, Change.apply, PerTier.get_set_other _ same]
      exact .refl _
  · intro other notAsked
    have different : other ≠ tier := fun same => notAsked size align (by rw [same])
    exact PerTier.get_set_other _ different _

theorem untouched_call
    {flight : List Block}
    (accounted : session.engine.Accounted flight)
    (abiding : Dealing.Abiding (session.call thread call).2.dealings)
    (unsuccessful : (session.call thread call).1.succeeds = false) :
    Untouched (call.task? (session.active thread)) session (session.call thread call).2 := by
  cases asked : call.task? (session.active thread) with
  | none =>
      -- A call without a task always succeeds.
      cases call with
      | enable =>
          cases unsuccessful
      | setMode tier =>
          cases unsuccessful
      | _ =>
          cases asked
  | some task =>
      obtain ⟨reply, change, log, made, ends⟩ := call_ends asked
      rw [made] at abiding unsuccessful ⊢
      cases ends with
      | exhausted valid tried =>
          exact untouched_of_exhausted accounted valid tried abiding
      | allocated valid tried | freed found | resized valid found tried | trimmed =>
          cases unsuccessful
      | _ =>
          exact untouched_of_tiers_eq rfl

/-- Whatever calls led to a session over backends that owe their dealings, a call that does not
succeed then changes nothing but counters of failures and the log. -/
theorem untouched_of_refused
    {config : Config}
    {bank : RegisterBank}
    {backends : PerTier β}
    (reached : Reached config bank backends session)
    (abiding : Dealing.Abiding (session.call thread call).2.dealings)
    (unsuccessful : (session.call thread call).1.succeeds = false) :
    Untouched (call.task? (session.active thread)) session (session.call thread call).2 := by
  obtain ⟨flight, accounted⟩ := reached.accounted
  exact untouched_call accounted abiding unsuccessful

/-- The backend of the host tier lends no more than two pages at once. -/
def stingyBackends : PerTier SimulatedBackend :=
  ⟨{ SimulatedBackend.upwards 65536 0 [0] with maxLen := 8192 },
    .upwards 1099511627776 4096 []⟩

/-- A session in which the mixed calls have been made over these backends. -/
def stingySession : Session (Recorder SimulatedBackend) :=
  (opening { Config.standard with segmentSize := 4096 } .initial
    (stingyBackends.map Recorder.start)).run mixedCalls

/-- The backend is asked in vain, and nothing has moved. -/
theorem untouched_of_refused_stingySession :
    Untouched (some (.allocate .host 20000 64)) stingySession
        (stingySession.call 1 (.allocateOnAligned .host 20000 64)).2 ∧
      (stingySession.call 1 (.allocateOnAligned .host 20000 64)).2.dealings.host =
        .commit 20480 none :: stingySession.dealings.host := by
  have abiding : ∀ before, before <+: mixedCalls →
      Dealing.Abiding
        ((opening { Config.standard with segmentSize := 4096 } .initial
          (stingyBackends.map Recorder.start)).run before).dealings := by
    simp only [← List.mem_inits]
    decide +kernel
  have afterCall :
      Dealing.Abiding
        (stingySession.call 1 (.allocateOnAligned .host 20000 64)).2.dealings := by
    decide +kernel
  have refused :
      (stingySession.call 1 (.allocateOnAligned .host 20000 64)).1.succeeds = false := by
    decide +kernel
  exact ⟨untouched_of_refused (.calls mixedCalls abiding) afterCall refused, by decide +kernel⟩

end Session

end TierHeap
