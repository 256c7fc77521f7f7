import TierHeap.Proofs.Allocator.Reached
import TierHeap.Proofs.Allocator.Regaining

/-!
# The segments that a trim leaves

A trim over a backend that takes every segment back leaves the segments that contain a range of
a caller, and the lowest of the others in reserve (`Tenancy.trim_releases_unused`).  It finds
them by their free ranges: a segment that contains no outstanding range is one free range, as
free ranges are joined wherever they touch, and none reaches into two segments.
-/

namespace TierHeap

namespace Allocator

variable {β : Type} [Backend β]

/-- A trim whose releases succeed hands back all idle segments but the lowest. -/
theorem Consistent.trim_accepted
    {allocator : Allocator (Recorder β)}
    {outstanding : List Span}
    (consistent : allocator.Consistent outstanding)
    {depth : Nat}
    (succeeded :
      Dealing.SucceededSince allocator.backend.dealings
        (allocator.trim depth).2.backend.dealings) :
    (allocator.trim depth).2.backend.dealings =
        Dealing.releases ((allocator.arena.idle.drop 1).map (·, true)) ++
          allocator.backend.dealings ∧
      (allocator.trim depth).1 = .ok ((allocator.arena.idle.drop 1).map Segment.len).sum ∧
      (∀ segment, segment ∈ (allocator.trim depth).2.arena.held ↔
        segment ∈ allocator.arena.held ∧ segment ∉ allocator.arena.idle.drop 1) ∧
      allocator.stats.committedBytes =
        (allocator.trim depth).2.stats.committedBytes +
          ((allocator.arena.idle.drop 1).map Segment.len).sum := by
  have released : (allocator.arena.idle.drop 1).Sublist allocator.arena.held :=
    (List.drop_sublist 1 _).trans List.filter_sublist
  obtain ⟨answers, asked, dealings, arena, -⟩ := allocator.trim_cases depth
  obtain ⟨sameAnswers, ends⟩ := consistent.trim_ends depth
  obtain rfl := asked.accepted dealings succeeded
  obtain rfl := ends.asked.accepted ends.dealings succeeded
  have figure := ends.figure
  have committed := ends.committed
  rw [if_pos (unrefused_accepted _)] at figure
  rw [handedBack_eq_sum, takenBack_accepted] at figure committed
  rw [takenBack_accepted] at arena
  refine ⟨dealings, ?_, fun segment => ?_, committed⟩
  · cases answer : (allocator.trim depth).1 with
    | error err =>
        rw [answer] at figure
        cases figure
    | ok bytes =>
        rw [answer] at figure
        exact congrArg Except.ok (Option.some.inj figure)
  · rw [arena]
    exact Arena.mem_held_foldl_letGo_iff (allocator.arena.held_nodup.sublist released)
      fun other member => released.subset member

end Allocator

namespace Tenancy

variable {β : Type}

/-- A segment is held and contains no range of a caller. -/
def Unused
    (tenancy : Tenancy β)
    (segment : Segment) : Prop :=
  segment ∈ tenancy.allocator.arena.held ∧
    ∀ span ∈ tenancy.outstanding, ¬span.Within segment.span

/-- How a trim ends that hands some segments back. -/
structure TrimsTo
    [Backend β]
    (before after : Tenancy (Recorder β))
    (answer : Except BackendError Nat)
    (released : List Segment) : Prop where
  /-- These are the unused segments but the lowest. -/
  unused : ∀ segment, segment ∈ released ↔
    before.Unused segment ∧ ∃ lower, before.Unused lower ∧ lower.base < segment.base
  /-- They are handed back in the order of their addresses, and nothing else is asked for. -/
  ascending : released.Pairwise fun first second => first.base < second.base
  dealings : after.dealings = Dealing.releases (released.map (·, true)) ++ before.dealings
  answer : answer = .ok (released.map Segment.len).sum
  segments : ∀ segment, segment ∈ after.allocator.arena.held ↔
    segment ∈ before.allocator.arena.held ∧ segment ∉ released
  committed : before.allocator.stats.committedBytes =
    after.allocator.stats.committedBytes + (released.map Segment.len).sum
  freeBytes : before.allocator.stats.freeBytes =
    after.allocator.stats.freeBytes + (released.map Segment.len).sum
  free : ∀ span, span ∈ after.allocator.arena.freeSpans ↔
    span ∈ before.allocator.arena.freeSpans ∧
      ∃ segment ∈ after.allocator.arena.held, span.Within segment.span
  outstanding : after.outstanding = before.outstanding
  books : after.Accounted
  inUse : after.allocator.stats.inUseBytes = before.allocator.stats.inUseBytes
  live : after.allocator.stats.liveRanges = before.allocator.stats.liveRanges
  peak : after.allocator.stats.peakCommittedBytes = before.allocator.stats.peakCommittedBytes
  /-- Another trim finds nothing to hand back. -/
  settled : ∀ depth, after.allocator.trim depth = (.ok 0, after.allocator)

theorem mem_idle_iff_unused
    {tenancy : Tenancy β}
    (tiled : tenancy.allocator.arena.Tiled tenancy.outstanding)
    {segment : Segment} :
    segment ∈ tenancy.allocator.arena.idle ↔ tenancy.Unused segment := by
  rw [tiled.mem_idle_iff]
  exact and_congr_right fun held =>
    forall₂_congr fun _ member => tiled.apart_iff_not_within held member

variable [Backend β]

/-- In every state, a trim whose releases succeed hands back the segments without a range of a
caller, but the lowest of them, and changes nothing else. -/
theorem trim_releases_unused
    {tenancy : Tenancy (Recorder β)}
    (reached : tenancy.Reached)
    {depth : Nat}
    (succeeded :
      Dealing.SucceededSince tenancy.dealings (tenancy.step depth .trim).dealings) :
    ∃ released,
      TrimsTo tenancy (tenancy.step depth .trim) (tenancy.allocator.trim depth).1 released := by
  have consistent := reached.consistent
  have trimmed := consistent.trim depth
  have before := accounted_of_consistent consistent.arena
  have after : (tenancy.step depth .trim).Accounted := accounted_of_consistent trimmed.arena
  have inUse : (tenancy.step depth .trim).allocator.stats.inUseBytes =
      tenancy.allocator.stats.inUseBytes := after.inUse.trans before.inUse.symm
  obtain ⟨dealings, answer, segments, committed⟩ := consistent.trim_accepted succeeded
  refine ⟨tenancy.allocator.arena.idle.drop 1, ?_⟩
  exact
    { unused := fun segment => by
        simp only [Arena.mem_idle_drop_one_iff, mem_idle_iff_unused consistent.arena.tiled]
      ascending := tenancy.allocator.arena.idle_ascending.sublist (List.drop_sublist 1 _)
      dealings := dealings
      answer := answer
      segments := segments
      committed := committed
      -- What is committed is in use or free, before and after.
      freeBytes := by
        have balance := before.balance
        have balanceAfter := after.balance
        simp only [step] at balanceAfter inUse ⊢
        omega
      free :=
        consistent.arena.tiled.mem_freeSpans_iff_of_held_subset trimmed.arena.tiled
          fun segment held => ((segments segment).mp held).1
      outstanding := rfl
      books := after
      inUse := inUse
      live := after.live.trans before.live.symm
      peak := Allocator.releaseAll_peak depth 0 (tenancy.allocator.arena.idle.drop 1)
        tenancy.allocator
      settled := Allocator.trim_eq_self (Allocator.idle_trim succeeded) }

def onePageInUse : List Request :=
  [.allocate 4096 16, .allocate 4096 16, .allocate 4096 16, .allocate 4096 16,
    .free ⟨65536, 4096⟩, .free ⟨73728, 4096⟩, .free ⟨77824, 4096⟩]

def sparse : Tenancy (Recorder SimulatedBackend) :=
  (start .host (Recorder.start (SimulatedBackend.upwards 65536 0 [])) none 4096).run 0
    onePageInUse

/-- The two pages above it are handed back, and the one below stays in reserve. -/
theorem trim_releases_unused_onePageInUse :
    (∃ released,
      TrimsTo sparse (sparse.step 0 .trim) (sparse.allocator.trim 0).1 released) ∧
      (sparse.allocator.trim 0).1.toOption = some 8192 ∧
      (sparse.step 0 .trim).allocator.arena.held = [⟨65536, 4096⟩, ⟨69632, 4096⟩] := by
  have reached : sparse.Reached :=
    (Reached.start .host (SimulatedBackend.upwards 65536 0 []) none 4096).run
      (by decide +kernel) (by decide +kernel)
  have succeeded :
      Dealing.SucceededSince sparse.dealings (sparse.step 0 .trim).dealings :=
    ⟨[.release ⟨77824, 4096⟩ true, .release ⟨73728, 4096⟩ true], by decide +kernel,
      by decide +kernel⟩
  exact ⟨trim_releases_unused reached succeeded, by decide +kernel, by decide +kernel⟩

end Tenancy

end TierHeap
