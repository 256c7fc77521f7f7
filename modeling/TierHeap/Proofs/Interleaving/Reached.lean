import TierHeap.Proofs.Interleaving.Runs

/-!
# Sessions that calls lead to

A session is reached from new backends by calls made one at a time, or by threads whose steps
interleave and may be in the middle of their calls.  Over backends that owe their dealings its
books are kept either way (`Reached.accounted`).
-/

namespace TierHeap.Session

variable {β : Type} [Backend β]

/-- Calls lead to this session, and the backends owe all their dealings on the way. -/
inductive Reached
    (config : Config)
    (bank : RegisterBank)
    (backends : PerTier β) : Session (Recorder β) → Prop where
  | calls
      (calls : List (Nat × Call))
      (abiding : ∀ before, before <+: calls →
        Dealing.Abiding
          ((opening config bank (backends.map Recorder.start)).run before).dealings) :
      Reached config bank backends ((opening config bank (backends.map Recorder.start)).run calls)
  | steps
      (programs : List (List Call))
      (schedule : List Nat)
      (abiding : ∀ before, before <+: schedule →
        Dealing.Abiding
          ((Interleaving.Machine.opening (opening config bank (backends.map Recorder.start))
            programs).run before).dealings) :
      Reached config bank backends
        ((Interleaving.Machine.opening (opening config bank (backends.map Recorder.start))
          programs).run schedule).session

theorem Reached.accounted
    {config : Config}
    {bank : RegisterBank}
    {backends : PerTier β}
    {session : Session (Recorder β)}
    (reached : Reached config bank backends session) :
    ∃ flight, session.engine.Accounted flight := by
  cases reached with
  | calls calls abiding =>
      exact
        ⟨[],
         (accounted_run (Engine.accounted_withBackends config bank backends)
          (Engine.undisturbed_withBackends config bank (backends.map Recorder.start))
          abiding).1⟩
  | steps programs schedule abiding =>
      have accounted :=
        Interleaving.Machine.accounted_run
          (Interleaving.Machine.accounted_opening config bank backends programs) abiding
      exact ⟨_, accounted.kept.accounted⟩

theorem Reached.abiding
    {config : Config}
    {bank : RegisterBank}
    {backends : PerTier β}
    {session : Session (Recorder β)}
    (reached : Reached config bank backends session) :
    Dealing.Abiding session.dealings := by
  cases reached with
  | calls calls abiding =>
      exact abiding calls (List.prefix_refl calls)
  | steps programs schedule abiding =>
      exact abiding schedule (List.prefix_refl schedule)

end TierHeap.Session
