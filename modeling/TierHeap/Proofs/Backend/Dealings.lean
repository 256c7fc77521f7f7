import TierHeap.Arena.Allocator
import TierHeap.Backend.Simulated
import TierHeap.Proofs.Arena.Span

/-!
# Dealings with a backend

The engine knows a backend by its answers alone.  A recorder passes every request on to a
backend and writes down what came back, so that a run can be judged by the answers that it
got.

A backend owes its caller the segment that was asked for: whole pages away from address
zero, of exactly the requested length, inside the address space and apart from every segment
that it has lent and not got back.  A request may always fail.
-/

namespace TierHeap

/-- A request to a backend, with what came of it. -/
inductive Dealing where
  /-- A commit of so many bytes, and the segment if there was one. -/
  | commit (len : Nat) (granted : Option Segment)
  /-- A release, and whether the backend took the segment back. -/
  | release (segment : Segment) (accepted : Bool)
  deriving DecidableEq, Repr

namespace Dealing

/-- The segments that the backend has lent and not got back; the latest dealing is first. -/
def lent : List Dealing → List Segment
  | [] => []
  | .commit _ (some segment) :: earlier => segment :: lent earlier
  | .commit _ none :: earlier => lent earlier
  | .release segment true :: earlier => (lent earlier).erase segment
  | .release _ false :: earlier => lent earlier

end Dealing

/-- The segment answers a commit of so many bytes, given the segments already lent. -/
structure Segment.Answers
    (segment : Segment)
    (len : Nat)
    (lent : List Segment) : Prop where
  base_pos : 0 < segment.base
  base_aligned : segment.base % pageSize = 0
  len_eq : segment.len = len
  fits : segment.base + segment.len ≤ Word.largest
  apart : ∀ other ∈ lent, segment.span.Apart other.span

instance
    (segment : Segment)
    (len : Nat)
    (lent : List Segment) : Decidable (segment.Answers len lent) :=
  decidable_of_iff
    (0 < segment.base ∧ segment.base % pageSize = 0 ∧ segment.len = len ∧
      segment.base + segment.len ≤ Word.largest ∧
      ∀ other ∈ lent, segment.span.Apart other.span)
    ⟨fun ⟨positive, aligned, exact, fits, apart⟩ => ⟨positive, aligned, exact, fits, apart⟩,
      fun answers =>
        ⟨answers.base_pos, answers.base_aligned, answers.len_eq, answers.fits, answers.apart⟩⟩

namespace Dealing

/-- The dealing is as the backend owes it, given the segments already lent. -/
def Owed
    (lent : List Segment) : Dealing → Prop
  | .commit len (some segment) => segment.Answers len lent
  | .commit _ none => True
  | .release _ _ => True

instance (lent : List Segment) : DecidablePred (Owed lent)
  | .commit len (some segment) => inferInstanceAs (Decidable (segment.Answers len lent))
  | .commit _ none => inferInstanceAs (Decidable True)
  | .release _ _ => inferInstanceAs (Decidable True)

/-- Every dealing was as the backend owed it at that time; the latest dealing is first. -/
def Honest : List Dealing → Prop
  | [] => True
  | dealing :: earlier => dealing.Owed (lent earlier) ∧ Honest earlier

instance decidableHonest : DecidablePred Honest
  | [] => inferInstanceAs (Decidable True)
  | dealing :: earlier =>
      have : Decidable (Honest earlier) := decidableHonest earlier
      inferInstanceAs (Decidable (dealing.Owed (lent earlier) ∧ Honest earlier))

theorem Honest.earlier
    {recent earlier : List Dealing}
    (honest : Honest (recent ++ earlier)) :
    Honest earlier := by
  induction recent with
  | nil =>
      exact honest
  | cons dealing recent inductionHypothesis =>
      exact inductionHypothesis honest.2

end Dealing

/-- A backend whose dealings are written down, latest first. -/
structure Recorder (β : Type) where
  backend : β
  dealings : List Dealing

namespace Recorder

variable {β : Type}

def start (backend : β) : Recorder β :=
  ⟨backend, []⟩

def granted? : Except BackendError Segment → Option Segment
  | .ok segment => some segment
  | .error _ => none

instance [Backend β] : Backend (Recorder β) where
  commit recorder depth len :=
    let (answer, backend) := Backend.commit recorder.backend depth len
    (answer, ⟨backend, .commit len (granted? answer) :: recorder.dealings⟩)
  release recorder depth segment :=
    let (answer, backend) := Backend.release recorder.backend depth segment
    (answer, ⟨backend, .release segment answer.isOk :: recorder.dealings⟩)
  describe recorder := Backend.describe recorder.backend
  errnos recorder := Backend.errnos recorder.backend

end Recorder

/-- A simulated backend that has room for everything: its segments follow each other upwards,
and some of its releases fail. -/
def SimulatedBackend.upwards
    (cursor gap : Nat)
    (failingReleases : List Nat) : SimulatedBackend where
  description := ""
  cursor := cursor
  gap := gap
  downwards := false
  maxLen := Word.largest
  plan := []
  failingReleases := failingReleases
  releases := 0
  probes := false
  history := []

end TierHeap
