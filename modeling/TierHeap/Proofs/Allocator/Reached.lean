import TierHeap.Proofs.Allocator.Tenancy

/-!
# The states that an allocator can be in

An allocator can be in every state that the requests of its callers lead to, over a backend that
has owed all its dealings.  In each of them it is consistent with the ranges that its callers
hold (`Tenancy.Reached.consistent`).
-/

namespace TierHeap.Tenancy

variable {β : Type} [Backend β]

/-- An allocator and its callers can be in this state. -/
inductive Reached : Tenancy (Recorder β) → Prop where
  | start
      (tier : Tier)
      (backend : β)
      (capacity : Option Nat)
      (segmentSize : Nat) :
      Reached (start tier (Recorder.start backend) capacity segmentSize)
  | step
      {tenancy : Tenancy (Recorder β)}
      (reached : Reached tenancy)
      {request : Request}
      (allowed : request.Allowed tenancy.outstanding)
      {depth : Nat}
      (honest : Dealing.Honest (tenancy.step depth request).dealings) :
      Reached (tenancy.step depth request)

namespace Reached

variable {tenancy : Tenancy (Recorder β)}

theorem consistent (reached : tenancy.Reached) :
    tenancy.allocator.Consistent tenancy.outstanding := by
  induction reached with
  | start tier backend capacity segmentSize =>
      exact Allocator.consistent_new tier backend capacity segmentSize
  | step _ allowed honest inductionHypothesis =>
      exact consistent_step inductionHypothesis allowed honest

/-- A run goes on from state to state that the allocator can be in. -/
theorem run
    (reached : tenancy.Reached)
    {depth : Nat}
    {requests : List Request}
    (allowed : tenancy.Allows depth requests)
    (honest : Dealing.Honest (tenancy.run depth requests).dealings) :
    (tenancy.run depth requests).Reached := by
  induction requests generalizing tenancy with
  | nil =>
      exact reached
  | cons request rest inductionHypothesis =>
      have first := reached.step allowed.1 (honest_step honest)
      exact inductionHypothesis first allowed.2 honest

end Reached

end TierHeap.Tenancy
