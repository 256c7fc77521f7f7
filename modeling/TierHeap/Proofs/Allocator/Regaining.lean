import TierHeap.Proofs.Allocator.Trimming

/-!
# How much of its ceiling an empty allocator can use

Once its callers have returned every range, all segments of an allocator are idle.  A trim then
hands back all of them but the lowest, which stays in reserve, however often the allocator is
trimmed.  That segment still counts against the ceiling, so a request is served exactly if it
fits in it or in what the ceiling leaves beside it (`Tenancy.regains_ceiling`).  A reserve that
is shorter than the ceiling keeps the ceiling itself out of reach
(`Tenancy.ceiling_not_regained`).
-/

namespace TierHeap

namespace Dealing

/-- The backend did what it was asked. -/
def Succeeded : Dealing → Prop
  | .commit _ granted => granted.isSome = true
  | .release _ accepted => accepted = true

instance : DecidablePred Succeeded
  | .commit _ granted => inferInstanceAs (Decidable (granted.isSome = true))
  | .release _ accepted => inferInstanceAs (Decidable (accepted = true))

def SucceededSince (earlier later : List Dealing) : Prop :=
  ∃ recent, later = recent ++ earlier ∧ ∀ dealing ∈ recent, dealing.Succeeded

theorem SucceededSince.recent
    {earlier later recent : List Dealing}
    (succeeded : SucceededSince earlier later)
    (whole : later = recent ++ earlier) :
    ∀ dealing ∈ recent, dealing.Succeeded := by
  obtain ⟨others, same, all⟩ := succeeded
  obtain rfl : recent = others := List.append_cancel_right (whole.symm.trans same)
  exact all

end Dealing

namespace Arena

theorem Tiled.idle_eq_held
    {arena : Arena}
    (tiled : arena.Tiled []) :
    arena.idle = arena.held := by
  rw [idle]
  apply List.filter_eq_self.mpr
  intro segment held
  have isIdle := tiled.mem_idle_iff.mpr ⟨held, List.forall_mem_nil _⟩
  exact (List.mem_filter.mp isIdle).2

end Arena

namespace Allocator

variable {β : Type}

/-- An allocation, and a backend that does what it owes and what it is asked. -/
structure Attempt
    [Backend β]
    (before after : Allocator (Recorder β))
    (reserved align : Nat)
    (answer : Except GrowError Carve) : Prop where
  positive : 0 < reserved
  wholeGranules : reserved % granule = 0
  power : isPowerOfTwo align = true
  small : align ≤ pageSize
  made : ∃ depth, before.allocate depth reserved align = (answer, after)
  honest : Dealing.Honest after.backend.dealings
  succeeded : Dealing.SucceededSince before.backend.dealings after.backend.dealings

/-- What a trim leaves of an allocator without outstanding ranges, and what can be allocated
then. -/
structure Emptied
    [Backend β]
    (before after : Allocator (Recorder β))
    (ceiling : Nat) : Prop where
  /-- The lowest segment stays, if there is one, and all of it is free. -/
  reserve : after.arena.held = before.arena.held.take 1
  free : ∀ segment ∈ after.arena.held, segment.span ∈ after.arena.freeSpans
  committed : after.stats.committedBytes = Span.total after.arena.heldSpans
  /-- It stays however often the allocator is trimmed. -/
  settled : ∀ depth, after.trim depth = (.ok 0, after)
  /-- A request is served that fits in the reserve, or whose whole pages fit in what the
  ceiling leaves beside it. -/
  serves : ∀ reserved align answer last, Attempt after last reserved align answer →
    (reserved ≤ after.stats.committedBytes ∨
      ∃ minimum, pageAlign? reserved = some minimum ∧
        minimum ≤ ceiling - after.stats.committedBytes) →
      ∃ carve, answer = .ok carve ∧ carve.reserved = reserved
  /-- Any other request fails, also one whose whole pages are no word. -/
  refuses : ∀ reserved align answer last, Attempt after last reserved align answer →
    after.stats.committedBytes < reserved →
      (∀ minimum, pageAlign? reserved = some minimum →
        ceiling - after.stats.committedBytes < minimum) →
      answer =
        .error
          (.capacityExceeded ceiling after.stats.committedBytes
            ((pageAlign? reserved).getD reserved))

/-- A backend that does what it is asked takes every segment back. -/
theorem AskedInOrder.accepted
    {segments : List Segment}
    {answers : List (Segment × Bool)}
    (asked : AskedInOrder segments answers)
    {earlier later : List Dealing}
    (dealings : later = Dealing.releases answers ++ earlier)
    (succeeded : Dealing.SucceededSince earlier later) :
    answers = segments.map (·, true) := by
  rcases asked with accepted | ⟨returned, refused, rest, -, rfl⟩
  · exact accepted
  · have refusal : Dealing.Succeeded (.release refused false) :=
      succeeded.recent dealings _ (Dealing.mem_releases.mpr (by simp))
    cases refusal

/-- Over a backend that takes every segment back, a trim leaves the lowest idle one. -/
theorem idle_trim
    [Backend β]
    {allocator : Allocator (Recorder β)}
    {depth : Nat}
    (succeeded :
      Dealing.SucceededSince allocator.backend.dealings
        (allocator.trim depth).2.backend.dealings) :
    (allocator.trim depth).2.arena.idle = allocator.arena.idle.take 1 := by
  obtain ⟨answers, asked, dealings, arena, -⟩ := allocator.trim_cases depth
  rw [asked.accepted dealings succeeded, takenBack_accepted] at arena
  rw [arena]
  cases whole : allocator.arena.idle with
  | nil =>
      rw [List.drop_nil, List.foldl_nil, whole, List.take_nil]
  | cons first later =>
      rw [List.drop_one, List.tail_cons, List.take_succ_cons, List.take_zero]
      exact Arena.idle_foldl_letGo (by rw [List.append_nil, whole])

theorem trim_eq_self
    [Backend β]
    {allocator : Allocator (Recorder β)}
    {segments : List Segment}
    (idle : allocator.arena.idle = segments.take 1)
    (depth : Nat) :
    allocator.trim depth = (.ok 0, allocator) := by
  have nothing : allocator.arena.idle.drop 1 = [] := by
    rw [idle]
    exact List.drop_eq_nil_of_le (List.length_take_le 1 segments)
  rw [trim, nothing]
  rfl

namespace Consistent

variable {allocator : Allocator (Recorder β)}

/-- An allocator of one free segment, or of none, can hold what is not longer. -/
theorem canHold_iff
    (consistent : allocator.Consistent [])
    {segments : List Segment}
    (reserve : allocator.arena.held = segments.take 1)
    {reserved align : Nat}
    (positive : 0 < reserved)
    (power : isPowerOfTwo align = true)
    (small : align ≤ pageSize) :
    (∃ span ∈ allocator.arena.freeSpans, span.CanHold reserved align) ↔
      reserved ≤ allocator.arena.committed := by
  have tiled := consistent.arena.tiled
  have committed := consistent.arena.committed
  cases segments with
  | nil =>
      rw [List.take_nil] at reserve
      rw [Arena.heldSpans, reserve] at committed
      constructor
      · rintro ⟨span, free, -⟩
        obtain ⟨segment, held, -⟩ := (tiled.free_inside span free).inside
        rw [reserve] at held
        cases held
      · intro enough
        rw [committed] at enough
        exact absurd enough (Nat.not_le.mpr positive)
  | cons segment rest =>
      rw [List.take_succ_cons, List.take_zero] at reserve
      rw [Arena.heldSpans, reserve, List.map_singleton, Span.total_cons, Span.total_nil,
        Nat.add_zero] at committed
      have held : segment ∈ allocator.arena.held := by
        rw [reserve]
        exact List.mem_singleton_self segment
      constructor
      · rintro ⟨span, free, start, -, after, room⟩
        obtain ⟨other, otherHeld, within⟩ := (tiled.free_inside span free).inside
        rw [reserve] at otherHeld
        obtain rfl := List.mem_singleton.mp otherHeld
        simp only [Span.Within, Span.stop] at within room
        omega
      · intro enough
        rw [committed] at enough
        refine ⟨segment.span, ?_, (tiled.placed segment held).canHold enough power small⟩
        exact tiled.free_of_apart held (List.forall_mem_nil _)

theorem served_of_askedOnce
    {after : Allocator (Recorder β)}
    {reserved len : Nat}
    {answer : Except GrowError Carve}
    (asked : AskedOnce allocator after reserved len answer)
    (succeeded :
      Dealing.SucceededSince allocator.backend.dealings after.backend.dealings) :
    ∃ carve, answer = .ok carve ∧ carve.reserved = reserved := by
  rcases asked with ⟨segment, -, served⟩ | ⟨err, refused, -⟩
  · exact ⟨_, served, rfl⟩
  · have alone : after.backend.dealings = [.commit len none] ++ allocator.backend.dealings :=
      refused
    have granted : Dealing.Succeeded (.commit len none) :=
      succeeded.recent alone _ List.mem_cons_self
    cases granted

theorem emptied
    [Backend β]
    (consistent : allocator.Consistent [])
    {ceiling : Nat}
    (limited : allocator.capacity = some ceiling)
    {depth : Nat}
    (succeeded :
      Dealing.SucceededSince allocator.backend.dealings
        (allocator.trim depth).2.backend.dealings) :
    Emptied allocator (allocator.trim depth).2 ceiling := by
  have trimmed := consistent.trim depth
  have sameCapacity : (allocator.trim depth).2.capacity = allocator.capacity :=
    (sameSettings_releaseAll depth 0 (allocator.arena.idle.drop 1) allocator).capacity
  have limitedAfter := sameCapacity.trans limited
  have idle := idle_trim succeeded
  have reserve : (allocator.trim depth).2.arena.held = allocator.arena.held.take 1 := by
    rw [← trimmed.arena.tiled.idle_eq_held, idle, consistent.arena.tiled.idle_eq_held]
  generalize (allocator.trim depth).2 = after at trimmed limitedAfter idle reserve
  -- What is left is one free range at most, so that only the length of a request matters.
  have holds : ∀ {reserved align : Nat}, 0 < reserved → isPowerOfTwo align = true →
      align ≤ pageSize →
        ((∃ span ∈ after.arena.freeSpans, span.CanHold reserved align) ↔
          reserved ≤ after.arena.committed) :=
    fun positive power small => trimmed.canHold_iff reserve positive power small
  refine ⟨reserve, ?_, trimmed.arena.committed, trim_eq_self idle, ?_, ?_⟩
  · intro segment held
    exact trimmed.arena.tiled.free_of_apart held (List.forall_mem_nil _)
  · rintro reserved align answer last
      ⟨positive, wholeGranules, power, small, ⟨depth, made⟩, honest, succeeded⟩ fits
    by_cases inReserve : reserved ≤ after.arena.committed
    · obtain ⟨-, addr, served⟩ :=
        trimmed.served_of_canHold power small made ((holds positive power small).mpr inReserve)
      exact ⟨_, served, rfl⟩
    · obtain ⟨minimum, rounded, room⟩ := fits.resolve_left inReserve
      have grows := trimmed.growsAtNeed positive power small rounded made honest
      have noFit : ∀ span ∈ after.arena.freeSpans, ¬span.CanHold reserved align :=
        fun span free canHold =>
          inReserve ((holds positive power small).mp ⟨span, free, canHold⟩)
      by_cases roomy : max minimum after.growthUnit ≤ ceiling - after.arena.committed
      · exact served_of_askedOnce (grows.roomy noFit ceiling limitedAfter roomy) succeeded
      · obtain ⟨wholePages, low, high⟩ := pageFloor_bounds (ceiling - after.arena.committed)
        exact served_of_askedOnce
          (grows.tight noFit ceiling limitedAfter (Nat.lt_of_not_le roomy) room _ wholePages low
            high)
          succeeded
  · rintro reserved align answer last
      ⟨positive, wholeGranules, power, small, ⟨depth, made⟩, honest, -⟩ tooLong exhausted
    have noFit : ∀ span ∈ after.arena.freeSpans, ¬span.CanHold reserved align :=
      fun span free canHold =>
        Nat.not_le.mpr tooLong ((holds positive power small).mp ⟨span, free, canHold⟩)
    cases rounded : pageAlign? reserved with
    | none =>
        rw [trimmed.refused_of_overflow power small made noFit rounded, reportedCapacity,
          limitedAfter]
        rfl
    | some minimum =>
        have grows := trimmed.growsAtNeed positive power small rounded made honest
        exact (grows.exhausted noFit ceiling limitedAfter (exhausted minimum rounded)).2

end Consistent

end Allocator

namespace Tenancy

variable {β : Type} [Backend β]

/-- After any run under a ceiling that leaves no range with a caller, a trim whose releases all
succeed leaves the lowest segment, and a request is served from then on exactly if it fits in
that segment or in what the ceiling leaves beside it. -/
theorem regains_ceiling
    (tier : Tier)
    (backend : β)
    (ceiling segmentSize depth trimDepth : Nat)
    (requests : List Request)
    (before : Allocator (Recorder β))
    (reached : before =
      ((start tier (Recorder.start backend) (some ceiling) segmentSize).run depth
        requests).allocator)
    (returned :
      ((start tier (Recorder.start backend) (some ceiling) segmentSize).run depth
        requests).outstanding = [])
    (allowed :
      (start tier (Recorder.start backend) (some ceiling) segmentSize).Allows depth requests)
    (honest : Dealing.Honest before.backend.dealings)
    (succeeded :
      Dealing.SucceededSince before.backend.dealings
        (before.trim trimDepth).2.backend.dealings) :
    Allocator.Emptied before (before.trim trimDepth).2 ceiling := by
  subst reached
  have opening :
      (start tier (Recorder.start backend) (some ceiling) segmentSize).allocator.Consistent [] :=
    Allocator.consistent_new tier backend (some ceiling) segmentSize
  have consistent := consistent_run opening allowed honest
  rw [returned] at consistent
  have settings :=
    sameSettings_run depth (start tier (Recorder.start backend) (some ceiling) segmentSize)
      requests
  exact consistent.emptied settings.capacity succeeded

def onePage : List Request :=
  [.allocate 4096 16, .free ⟨65536, 4096⟩]

/-- An allocator under a ceiling of three pages, after that. -/
def onePageReturned : Allocator (Recorder SimulatedBackend) :=
  ((start .host (Recorder.start (SimulatedBackend.upwards 65536 0 [])) (some 12288) 4096).run 0
    onePage).allocator

/-- The two pages beside the reserve can be had; what takes more whole pages than there are
addresses cannot. -/
theorem regains_ceiling_onePage :
    (∃ carve, ((onePageReturned.trim 0).2.allocate 0 8192 16).1 = .ok carve ∧
      carve.reserved = 8192) ∧
      ((onePageReturned.trim 0).2.allocate 0 (Word.largest - 15) 16).1 =
        .error (.capacityExceeded 12288 4096 (Word.largest - 15)) := by
  have emptied :=
    regains_ceiling .host (SimulatedBackend.upwards 65536 0 []) 12288 4096 0 0 onePage
      onePageReturned rfl (by decide +kernel) (by decide +kernel) (by decide +kernel)
      ⟨[], by decide +kernel, fun _ member => nomatch member⟩
  have succeeded :
      Dealing.SucceededSince (onePageReturned.trim 0).2.backend.dealings
        ((onePageReturned.trim 0).2.allocate 0 8192 16).2.backend.dealings :=
    ⟨[.commit 8192 (some ⟨69632, 8192⟩)], by decide +kernel, by decide +kernel⟩
  constructor
  · exact emptied.serves 8192 16 _ _
      ⟨by decide, by decide, by decide, by decide, ⟨0, rfl⟩, by decide +kernel, succeeded⟩
      (.inr ⟨8192, by decide, by decide +kernel⟩)
  · have overflow : pageAlign? (Word.largest - 15) = none := by decide +kernel
    have committed : (onePageReturned.trim 0).2.stats.committedBytes = 4096 := by decide +kernel
    have noPages : ∀ minimum, pageAlign? (Word.largest - 15) = some minimum →
        12288 - (onePageReturned.trim 0).2.stats.committedBytes < minimum := by
      rw [overflow]
      rintro minimum ⟨⟩
    have refused := emptied.refuses (Word.largest - 15) 16 _ _
      ⟨by decide +kernel, by decide +kernel, by decide, by decide, ⟨0, rfl⟩, by decide +kernel,
        ⟨[], by decide +kernel, by decide +kernel⟩⟩ (by decide +kernel) noPages
    rwa [committed, overflow] at refused

/-- The ceiling itself cannot, although no range is outstanding and the backend has done all
that it was asked. -/
theorem ceiling_not_regained :
    ((start .host (Recorder.start (SimulatedBackend.upwards 65536 0 [])) (some 12288) 4096).run 0
        onePage).outstanding = [] ∧
      (start .host (Recorder.start (SimulatedBackend.upwards 65536 0 [])) (some 12288)
        4096).Allows 0 onePage ∧
      onePageReturned.backend.dealings = [.commit 4096 (some ⟨65536, 4096⟩)] ∧
      (onePageReturned.trim 0).1.toOption = some 0 ∧
      pageAlign? 12288 = some 12288 ∧
      ((onePageReturned.trim 0).2.allocate 0 12288 16).1 =
        .error (.capacityExceeded 12288 4096 12288) ∧
      ((onePageReturned.trim 0).2.allocate 0 12288 16).2.backend.dealings =
        onePageReturned.backend.dealings := by
  decide +kernel

end Tenancy

end TierHeap
