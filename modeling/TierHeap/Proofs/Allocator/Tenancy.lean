import TierHeap.Proofs.Allocator.Consistency
import TierHeap.Proofs.Backend.Recording

/-!
# Runs of an allocator

A tenancy is an allocator together with the ranges that its callers hold.  Callers ask for
ranges, return them, resize them and have idle segments trimmed; they return and resize only
what they hold, under its current length.

Over a backend that owes its dealings, every run keeps the books of the allocator
(`Tenancy.books_of_run`): the segments it holds are divided into free ranges and ranges of
its callers without a gap or an overlap, the free ranges are as long as they can be, and every
figure is the sum or the number that it stands for.
-/

namespace TierHeap

/-- A request to an allocator. -/
inductive Request where
  | allocate (reserved align : Nat)
  | free (span : Span)
  | resize (span : Span) (reserved : Nat)
  | trim
  deriving DecidableEq, Repr

def Request.Allowed
    (outstanding : List Span) : Request → Prop
  | .allocate reserved align =>
      0 < reserved ∧ reserved % granule = 0 ∧ isPowerOfTwo align = true ∧ align ≤ pageSize
  | .free span => span ∈ outstanding
  | .resize span reserved => span ∈ outstanding ∧ 0 < reserved ∧ reserved % granule = 0
  | .trim => True

instance (outstanding : List Span) : DecidablePred (Request.Allowed outstanding)
  | .allocate _ _ => inferInstanceAs (Decidable (_ ∧ _))
  | .free _ => inferInstanceAs (Decidable (_ ∈ _))
  | .resize _ _ => inferInstanceAs (Decidable (_ ∧ _))
  | .trim => inferInstanceAs (Decidable True)

/-- An allocator with the ranges that its callers hold. -/
structure Tenancy (β : Type) where
  allocator : Allocator β
  outstanding : List Span

namespace Tenancy

variable {β : Type}

def start
    (tier : Tier)
    (backend : β)
    (capacity : Option Nat)
    (segmentSize : Nat) : Tenancy β :=
  ⟨.new tier backend capacity segmentSize, []⟩

def step
    [Backend β]
    (depth : Nat)
    (tenancy : Tenancy β) : Request → Tenancy β
  | .allocate reserved align =>
      match tenancy.allocator.allocate depth reserved align with
      | (.ok carve, allocator) =>
          ⟨allocator, ⟨carve.addr, carve.reserved⟩ :: tenancy.outstanding⟩
      | (.error _, allocator) => ⟨allocator, tenancy.outstanding⟩
  | .free span =>
      ⟨tenancy.allocator.free span.start span.len, tenancy.outstanding.erase span⟩
  | .resize span reserved =>
      match tenancy.allocator.resize? span.start span.len reserved with
      | some allocator => ⟨allocator, ⟨span.start, reserved⟩ :: tenancy.outstanding.erase span⟩
      | none => tenancy
  | .trim => ⟨(tenancy.allocator.trim depth).2, tenancy.outstanding⟩

def run
    [Backend β]
    (depth : Nat)
    (tenancy : Tenancy β)
    (requests : List Request) : Tenancy β :=
  requests.foldl (step depth) tenancy

/-- Every request of a run is one that its callers may make at that time. -/
def Allows
    [Backend β]
    (depth : Nat)
    (tenancy : Tenancy β) : List Request → Prop
  | [] => True
  | request :: rest =>
      request.Allowed tenancy.outstanding ∧ (tenancy.step depth request).Allows depth rest

instance decidableAllows
    [Backend β]
    (depth : Nat)
    (tenancy : Tenancy β) : DecidablePred (tenancy.Allows depth)
  | [] => inferInstanceAs (Decidable True)
  | request :: rest =>
      have : Decidable ((tenancy.step depth request).Allows depth rest) :=
        decidableAllows depth (tenancy.step depth request) rest
      inferInstanceAs (Decidable (request.Allowed tenancy.outstanding ∧ _))

def dealings (tenancy : Tenancy (Recorder β)) : List Dealing :=
  tenancy.allocator.backend.dealings

/-- The books of an allocator whose callers hold some ranges. -/
structure Accounted (tenancy : Tenancy β) : Prop where
  /-- Every address of a held segment lies in one range, free or held by a caller. -/
  partition : ∀ segment ∈ tenancy.allocator.arena.held, ∀ addr, segment.span.has addr = true →
    Span.cover (tenancy.allocator.arena.freeSpans ++ tenancy.outstanding) addr = 1
  /-- No range is empty, and none leaves its segment. -/
  inside : ∀ span ∈ tenancy.allocator.arena.freeSpans ++ tenancy.outstanding,
    0 < span.len ∧ ∃ segment ∈ tenancy.allocator.arena.held, span.Within segment.span
  /-- No two free ranges of one segment touch. -/
  maximal : ∀ segment ∈ tenancy.allocator.arena.held,
    ∀ first ∈ tenancy.allocator.arena.freeSpans, ∀ second ∈ tenancy.allocator.arena.freeSpans,
      first.Within segment.span → second.Within segment.span → first.stop ≠ second.start
  /-- Both indexes hold the same ranges. -/
  indexed : ∀ span : Span,
    (⟨span.len, span.start⟩ : SizedRange) ∈ tenancy.allocator.arena.freeBySize.ranges ↔
      tenancy.allocator.arena.freeByAddr.find? span.start = some span.len
  committed : tenancy.allocator.stats.committedBytes =
    Span.total (tenancy.allocator.arena.held.map Segment.span)
  balance : tenancy.allocator.stats.committedBytes =
    tenancy.allocator.stats.inUseBytes + tenancy.allocator.stats.freeBytes
  inUse : tenancy.allocator.stats.inUseBytes = Span.total tenancy.outstanding
  live : tenancy.allocator.stats.liveRanges = tenancy.outstanding.length
  growths : tenancy.allocator.stats.growths =
    tenancy.allocator.stats.segments + tenancy.allocator.stats.releasedSegments

/-- A consistent arena has its books in order. -/
theorem accounted_of_consistent
    {tenancy : Tenancy β}
    (consistent : tenancy.allocator.arena.Consistent tenancy.outstanding) :
    tenancy.Accounted := by
  have tiled := consistent.tiled
  have whole := tiled.total_eq
  refine ⟨?_, ?_, ?_, ?_, consistent.committed, ?_, consistent.inUse, consistent.live, ?_⟩
  · intro segment member addr inSegment
    have covered := Span.cover_pos_of_mem (Arena.span_mem_heldSpans member) inSegment
    have single := tiled.single addr
    rw [Span.cover_append, tiled.exact_cover]
    omega
  · intro span member
    rcases List.mem_append.mp member with free | held
    · have holds := tiled.free_inside span free
      exact ⟨holds.nonempty, holds.inside⟩
    · have holds := tiled.outstanding_inside span held
      exact ⟨holds.nonempty, holds.inside⟩
  · intro segment member first firstFree second secondFree firstWithin secondWithin touch
    have firstNonempty := (tiled.free_inside first firstFree).nonempty
    have inSecond := Span.has_start second (tiled.free_inside second secondFree).nonempty
    obtain ⟨other, otherMember, base⟩ := tiled.maximal first firstFree second secondFree touch
    -- The segment that would part them starts inside the segment around them.
    have inOther := Span.has_start other.span (tiled.placed other otherMember).len_pos
    have same : segment = other :=
      tiled.segment_eq member otherMember (Span.has_of_within secondWithin inSecond)
        (base ▸ inOther)
    rw [← same] at base
    simp only [Span.Within, Span.stop, Segment.span] at *
    omega
  · intro span
    rw [tiled.indexed, Arena.mem_freeSpans]
  · change tenancy.allocator.arena.committed =
      tenancy.allocator.arena.inUse + tenancy.allocator.arena.freeBytes
    rw [consistent.committed, consistent.inUse, tiled.freeBytes_eq]
    omega
  · change tenancy.allocator.arena.growths =
      tenancy.allocator.arena.segments.entries.length + tenancy.allocator.arena.releasedSegments
    rw [consistent.growths, Arena.held, List.length_map]

section

variable [Backend β]

theorem dealings_step
    (depth : Nat)
    (tenancy : Tenancy (Recorder β))
    (request : Request) :
    ∃ recent, (tenancy.step depth request).dealings = recent ++ tenancy.dealings := by
  cases request with
  | allocate reserved align =>
      simp only [step]
      split
      · rename_i carve after allocated
        exact Allocator.allocate_dealings_append allocated
      · rename_i err after allocated
        exact Allocator.allocate_dealings_append allocated
  | free span =>
      exact ⟨[], rfl⟩
  | resize span reserved =>
      simp only [step]
      split
      · rename_i after resized
        obtain ⟨arena, -, rfl⟩ := Allocator.resize?_eq_some resized
        exact ⟨[], rfl⟩
      · exact ⟨[], rfl⟩
  | trim =>
      obtain ⟨recent, whole, -⟩ := Allocator.trim_dealings tenancy.allocator depth
      exact ⟨recent, whole⟩

theorem sameSettings_step
    (depth : Nat)
    (tenancy : Tenancy (Recorder β))
    (request : Request) :
    (tenancy.step depth request).allocator.SameSettings tenancy.allocator := by
  cases request with
  | allocate reserved align =>
      simp only [step]
      split
      · rename_i carve after allocated
        exact Allocator.sameSettings_allocate allocated
      · rename_i err after allocated
        exact Allocator.sameSettings_allocate allocated
  | free span =>
      exact ⟨rfl, rfl, rfl⟩
  | resize span reserved =>
      simp only [step]
      split
      · rename_i after resized
        obtain ⟨arena, -, rfl⟩ := Allocator.resize?_eq_some resized
        exact ⟨rfl, rfl, rfl⟩
      · exact .refl _
  | trim =>
      exact Allocator.sameSettings_releaseAll _ _ _ _

/-- A request that callers may make keeps the allocator consistent. -/
theorem consistent_step
    {tenancy : Tenancy (Recorder β)}
    (consistent : tenancy.allocator.Consistent tenancy.outstanding)
    {depth : Nat}
    {request : Request}
    (allowed : request.Allowed tenancy.outstanding)
    (honest : Dealing.Honest (tenancy.step depth request).dealings) :
    (tenancy.step depth request).allocator.Consistent
      (tenancy.step depth request).outstanding := by
  cases request with
  | allocate reserved align =>
      obtain ⟨positive, wholeGranules, power, small⟩ := allowed
      simp only [step] at honest ⊢
      split at honest
      · rename_i carve after allocated
        exact
          (consistent.allocate_ok positive wholeGranules power small allocated honest).2
      · rename_i err after allocated
        exact consistent.allocate_error positive allocated honest
  | free span =>
      exact (consistent.perm (List.perm_cons_erase allowed)).free
  | resize span reserved =>
      obtain ⟨member, positive, aligned⟩ := allowed
      simp only [step]
      split
      · rename_i after resized
        exact (consistent.perm (List.perm_cons_erase member)).resize? positive aligned resized
      · exact consistent
  | trim =>
      exact consistent.trim depth

/-- A request moves the peak to what is committed after it, if that is more. -/
theorem peak_step
    {tenancy : Tenancy (Recorder β)}
    (consistent : tenancy.allocator.Consistent tenancy.outstanding)
    (depth : Nat)
    (request : Request) :
    (tenancy.step depth request).allocator.arena.peakCommitted =
      max tenancy.allocator.arena.peakCommitted
        (tenancy.step depth request).allocator.arena.committed := by
  have peak := consistent.arena.peak
  cases request with
  | allocate reserved align =>
      simp only [step]
      split
      · rename_i carve after allocated
        exact Allocator.allocate_peak peak allocated
      · rename_i err after allocated
        exact Allocator.allocate_peak peak allocated
  | free span =>
      have frame := Arena.sameFrame_free tenancy.allocator.arena span.start span.len
      simp only [step, Allocator.free, frame.peakCommitted, frame.committed]
      exact (Nat.max_eq_left peak).symm
  | resize span reserved =>
      simp only [step]
      split
      · rename_i after resized
        obtain ⟨arena, found, rfl⟩ := Allocator.resize?_eq_some resized
        have frame := Arena.sameFrame_resize? found
        simp only [frame.peakCommitted, frame.committed]
        exact (Nat.max_eq_left peak).symm
      · exact (Nat.max_eq_left peak).symm
  | trim =>
      have after := (consistent.trim depth).arena.peak
      have same := Allocator.releaseAll_peak depth 0 (tenancy.allocator.arena.idle.drop 1)
        tenancy.allocator
      rw [Allocator.trim, same] at after
      simp only [step, Allocator.trim, same]
      exact (Nat.max_eq_left after).symm

/-! ## Runs -/

theorem dealings_run
    (depth : Nat)
    (tenancy : Tenancy (Recorder β))
    (requests : List Request) :
    ∃ recent, (tenancy.run depth requests).dealings = recent ++ tenancy.dealings := by
  induction requests generalizing tenancy with
  | nil =>
      exact ⟨[], rfl⟩
  | cons request rest inductionHypothesis =>
      obtain ⟨first, firstWhole⟩ := dealings_step depth tenancy request
      obtain ⟨later, laterWhole⟩ := inductionHypothesis (tenancy.step depth request)
      refine ⟨later ++ first, ?_⟩
      rw [List.append_assoc, ← firstWhole]
      exact laterWhole

/-- Honest dealings of a run were honest after its first request. -/
theorem honest_step
    {depth : Nat}
    {tenancy : Tenancy (Recorder β)}
    {request : Request}
    {rest : List Request}
    (honest : Dealing.Honest (tenancy.run depth (request :: rest)).dealings) :
    Dealing.Honest (tenancy.step depth request).dealings := by
  obtain ⟨later, whole⟩ := dealings_run depth (tenancy.step depth request) rest
  have appended : Dealing.Honest (later ++ (tenancy.step depth request).dealings) := by
    rw [← whole]
    exact honest
  exact appended.earlier

theorem consistent_run
    {tenancy : Tenancy (Recorder β)}
    (consistent : tenancy.allocator.Consistent tenancy.outstanding)
    {depth : Nat}
    {requests : List Request}
    (allowed : tenancy.Allows depth requests)
    (honest : Dealing.Honest (tenancy.run depth requests).dealings) :
    (tenancy.run depth requests).allocator.Consistent
      (tenancy.run depth requests).outstanding := by
  induction requests generalizing tenancy with
  | nil =>
      exact consistent
  | cons request rest inductionHypothesis =>
      have first := consistent_step consistent allowed.1 (honest_step honest)
      exact inductionHypothesis first allowed.2 honest

theorem sameSettings_run
    (depth : Nat)
    (tenancy : Tenancy (Recorder β))
    (requests : List Request) :
    (tenancy.run depth requests).allocator.SameSettings tenancy.allocator := by
  induction requests generalizing tenancy with
  | nil =>
      exact .refl _
  | cons request rest inductionHypothesis =>
      exact (inductionHypothesis (tenancy.step depth request)).trans
        (sameSettings_step depth tenancy request)

/-- The peak after a run is the greatest of the peak before it and what was committed at any
time in it. -/
theorem peak_run
    {tenancy : Tenancy (Recorder β)}
    (consistent : tenancy.allocator.Consistent tenancy.outstanding)
    {depth : Nat}
    {requests : List Request}
    (allowed : tenancy.Allows depth requests)
    (honest : Dealing.Honest (tenancy.run depth requests).dealings) :
    tenancy.allocator.arena.peakCommitted ≤
        (tenancy.run depth requests).allocator.arena.peakCommitted ∧
      (∀ before, before <+: requests →
        (tenancy.run depth before).allocator.arena.committed ≤
          (tenancy.run depth requests).allocator.arena.peakCommitted) ∧
      ((tenancy.run depth requests).allocator.arena.peakCommitted =
          tenancy.allocator.arena.peakCommitted ∨
        ∃ before, before <+: requests ∧
          (tenancy.run depth before).allocator.arena.committed =
            (tenancy.run depth requests).allocator.arena.peakCommitted) := by
  induction requests generalizing tenancy with
  | nil =>
      refine ⟨Nat.le_refl _, ?_, .inl rfl⟩
      intro before isPrefix
      rw [List.prefix_nil.mp isPrefix]
      exact consistent.arena.peak
  | cons request rest inductionHypothesis =>
      have first := consistent_step consistent allowed.1 (honest_step honest)
      have moved := peak_step consistent depth request
      obtain ⟨above, bound, attained⟩ := inductionHypothesis first allowed.2 honest
      have start := consistent.arena.peak
      refine ⟨?_, ?_, ?_⟩
      · exact Nat.le_trans (moved ▸ Nat.le_max_left _ _) above
      · intro before isPrefix
        rcases List.prefix_cons_iff.mp isPrefix with rfl | ⟨shorter, rfl, shorterPrefix⟩
        · exact Nat.le_trans start (Nat.le_trans (moved ▸ Nat.le_max_left _ _) above)
        · exact bound shorter shorterPrefix
      · rcases attained with same | ⟨shorter, shorterPrefix, reached⟩
        · rcases Nat.le_total (tenancy.step depth request).allocator.arena.committed
            tenancy.allocator.arena.peakCommitted with lower | higher
          · rw [Nat.max_eq_left lower] at moved
            exact .inl (same.trans moved)
          · rw [Nat.max_eq_right higher] at moved
            refine .inr ⟨[request], (List.prefix_cons_inj request).mpr (List.nil_prefix), ?_⟩
            exact moved.symm.trans same.symm
        · exact .inr ⟨request :: shorter, (List.prefix_cons_inj request).mpr shorterPrefix,
            reached⟩

def unrecorded (tenancy : Tenancy (Recorder β)) : Tenancy β :=
  ⟨tenancy.allocator.unrecorded, tenancy.outstanding⟩

theorem unrecorded_step
    (depth : Nat)
    (tenancy : Tenancy (Recorder β))
    (request : Request) :
    tenancy.unrecorded.step depth request = (tenancy.step depth request).unrecorded := by
  cases request with
  | allocate reserved align =>
      simp only [step, unrecorded, Allocator.unrecorded_allocate]
      cases tenancy.allocator.allocate depth reserved align with
      | mk answer after =>
          cases answer <;> rfl
  | free span =>
      rfl
  | resize span reserved =>
      simp only [step, unrecorded, Allocator.unrecorded_resize?]
      cases tenancy.allocator.resize? span.start span.len reserved <;> rfl
  | trim =>
      simp only [step, unrecorded, Allocator.unrecorded_trim]
      rfl

theorem unrecorded_run
    (depth : Nat)
    (tenancy : Tenancy (Recorder β))
    (requests : List Request) :
    tenancy.unrecorded.run depth requests = (tenancy.run depth requests).unrecorded := by
  induction requests generalizing tenancy with
  | nil =>
      rfl
  | cons request rest inductionHypothesis =>
      simp only [run, List.foldl_cons, unrecorded_step] at *
      exact inductionHypothesis (tenancy.step depth request)

theorem unrecorded_allows
    {depth : Nat}
    {tenancy : Tenancy (Recorder β)}
    {requests : List Request} :
    tenancy.unrecorded.Allows depth requests ↔ tenancy.Allows depth requests := by
  induction requests generalizing tenancy with
  | nil =>
      exact Iff.rfl
  | cons request rest inductionHypothesis =>
      simp only [Allows, unrecorded_step, inductionHypothesis]
      exact Iff.rfl

omit [Backend β] in
theorem unrecorded_start
    (tier : Tier)
    (backend : β)
    (capacity : Option Nat)
    (segmentSize : Nat) :
    (start tier (Recorder.start backend) capacity segmentSize).unrecorded =
      start tier backend capacity segmentSize := by
  simp only [start, unrecorded, Allocator.unrecorded_new]

/-- Over a backend that owes its dealings, every run keeps the books, and the peak is the most
that was committed at any time. -/
theorem books_of_run
    (tier : Tier)
    (backend : β)
    (capacity : Option Nat)
    (segmentSize depth : Nat)
    (requests : List Request)
    (allowed : (start tier backend capacity segmentSize).Allows depth requests)
    (honest : Dealing.Honest
      ((start tier (Recorder.start backend) capacity segmentSize).run depth requests).dealings) :
    ((start tier backend capacity segmentSize).run depth requests).Accounted ∧
      (∀ before, before <+: requests →
        ((start tier backend capacity segmentSize).run depth
            before).allocator.stats.committedBytes ≤
          ((start tier backend capacity segmentSize).run depth
            requests).allocator.stats.peakCommittedBytes) ∧
      ∃ before, before <+: requests ∧
        ((start tier backend capacity segmentSize).run depth
            before).allocator.stats.committedBytes =
          ((start tier backend capacity segmentSize).run depth
            requests).allocator.stats.peakCommittedBytes := by
  rw [← unrecorded_start tier backend capacity segmentSize] at *
  have opening :
      (start tier (Recorder.start backend) capacity segmentSize).allocator.Consistent [] :=
    Allocator.consistent_new tier backend capacity segmentSize
  have allowedRecorded := unrecorded_allows.mp allowed
  have consistent := consistent_run opening allowedRecorded honest
  obtain ⟨-, bound, attained⟩ := peak_run opening allowedRecorded honest
  simp only [unrecorded_run]
  refine ⟨accounted_of_consistent consistent.arena, bound, ?_⟩
  rcases attained with same | reached
  · refine ⟨[], List.nil_prefix, ?_⟩
    rw [start, Allocator.new] at same
    exact same.symm
  · exact reached

end

/-- A run over two segments that are adjacent in memory: ranges are carved from both, one is
returned, one is shortened, and the release in the end fails. -/
def adjacentRequests : List Request :=
  [.allocate 4096 16, .allocate 4096 4096, .free ⟨69632, 4096⟩, .resize ⟨65536, 4096⟩ 48,
    .allocate 32 64, .free ⟨65536, 48⟩, .free ⟨65600, 32⟩, .trim]

theorem books_of_run_adjacentRequests :
    (start .host (SimulatedBackend.upwards 65536 0 [0]) none 4096).Allows 1 adjacentRequests ∧
      Dealing.Honest
        ((start .host (Recorder.start (SimulatedBackend.upwards 65536 0 [0])) none 4096).run 1
          adjacentRequests).dealings ∧
      ((start .host (SimulatedBackend.upwards 65536 0 [0]) none 4096).run 1
        adjacentRequests).Accounted := by
  have allowed :
      (start .host (SimulatedBackend.upwards 65536 0 [0]) none 4096).Allows 1
        adjacentRequests := by decide +kernel
  have honest : Dealing.Honest
      ((start .host (Recorder.start (SimulatedBackend.upwards 65536 0 [0])) none 4096).run 1
        adjacentRequests).dealings := by decide +kernel
  have books :=
    books_of_run .host (SimulatedBackend.upwards 65536 0 [0]) none 4096 1 adjacentRequests
  exact ⟨allowed, honest, (books allowed honest).1⟩

end Tenancy

end TierHeap
