import TierHeap.Proofs.Backend.Dealings
import TierHeap.Proofs.Slot.Invariants
import TierHeap.Proofs.Slot.Progress

/-!
# Runs of threads that share the process engine

In whatever order the threads make their steps (`Machine.serves_run`), a call for the engine
returns one that was in the slot during the call; while nobody installs an engine or tears one
down, all calls get the same one; an engine that lost is seen by nobody; and what is in the slot
stays there until another engine is installed or it is torn down.
-/

namespace TierHeap.ProcessSlot

variable {β : Type} [Backend β]

namespace Machine

variable {machine : Machine β} {schedule : List Nat} {time number : Nat} {event : Event}

/-- An engine in the slot stays there, unless another one is installed or it is torn down. -/
theorem slotAt_or_resets
    (blank : machine.history = [])
    {engine : Nat}
    (filled : machine.slotAt schedule time = some engine) :
    machine.slotAt schedule (time + 1) = some engine ∨
      (∃ number fresh, machine.Happens schedule time number (.installed fresh (some engine)) ∧
        machine.slotAt schedule (time + 1) = some fresh) ∨
      ∃ number, machine.Happens schedule time number (.toreDown true) ∧
        machine.slotAt schedule (time + 1) = none := by
  by_cases inside : time < schedule.length
  · obtain ⟨number, event, happens, -⟩ := happens_of_lt blank inside
    have moves := happens.moves blank
    rw [filled] at moves
    cases event with
    | decided visit =>
        obtain ⟨decided, before⟩ := moves
        split at before
        · cases before
        · exact .inl (decided.trans before.symm)
    | missed =>
        cases moves.1
    | looked held =>
        exact .inl moves.2
    | installed fresh replaced =>
        obtain ⟨rfl, after⟩ := moves
        exact .inr (.inl ⟨number, fresh, happens, after⟩)
    | toreDown existed =>
        obtain ⟨rfl, after⟩ := moves
        exact .inr (.inr ⟨number, happens, after⟩)
    | _ =>
        exact .inl moves
  · rw [slotAt, reached, List.take_of_length_le (Nat.le_of_not_lt inside)] at filled
    rw [slotAt, reached, List.take_of_length_le (Nat.le_succ_of_le (Nat.le_of_not_lt inside))]
    exact .inl filled

/-- Nobody installs an engine or tears one down from one time up to another. -/
def Calm
    (machine : Machine β)
    (schedule : List Nat)
    (first last : Nat) : Prop :=
  ∀ time number event, first ≤ time → time < last →
    machine.Happens schedule time number event → event.resets = false

theorem Calm.slotAt
    {first last : Nat}
    (calm : machine.Calm schedule first last)
    (blank : machine.history = [])
    {engine : Nat}
    (started : first ≤ time)
    (filled : machine.slotAt schedule time = some engine)
    {later : Nat}
    (onward : time ≤ later)
    (ended : later ≤ last) :
    machine.slotAt schedule later = some engine := by
  induction onward with
  | refl =>
      exact filled
  | @step moment onward inductionHypothesis =>
      rcases slotAt_or_resets blank (inductionHypothesis (Nat.le_of_lt ended)) with
        kept | ⟨number, fresh, happens, -⟩ | ⟨number, happens, -⟩
      · exact kept
      · cases calm moment number _ (Nat.le_trans started onward) ended happens
      · cases calm moment number _ (Nat.le_trans started onward) ended happens

theorem Happens.slotAt_of_decided
    {visit : Visit}
    (happens : machine.Happens schedule time number (.decided visit))
    (blank : machine.history = []) :
    visit.decided = time ∧ machine.slotAt schedule (time + 1) = some visit.engine := by
  obtain ⟨thread, next, -, -, turn⟩ := happens.turn blank nofun
  exact ⟨turn.decided_eq, (happens.moves blank).1⟩

/-- Two calls that are decided in a calm stretch get the same engine. -/
theorem Calm.engine_eq
    {first last : Nat}
    (calm : machine.Calm schedule first last)
    (blank : machine.history = [])
    {earlier later : Visit}
    {other : Nat}
    (decided : machine.Happens schedule earlier.decided number (.decided earlier))
    (alsoDecided : machine.Happens schedule later.decided other (.decided later))
    (started : first ≤ earlier.decided)
    (ordered : earlier.decided ≤ later.decided)
    (ended : later.decided < last) :
    earlier.engine = later.engine := by
  -- The engine of the earlier decision stays in the slot up to the later one.
  have before := (decided.slotAt_of_decided blank).2
  have after := (alsoDecided.slotAt_of_decided blank).2
  have kept := calm.slotAt blank (Nat.le_succ_of_le started) before
    (Nat.succ_le_succ ordered) ended
  exact Option.some.inj (kept.symm.trans after)

variable {opened : Nat}

/-- What a thread has remembered of its call when it returns. -/
theorem Happens.dated
    {visit : Visit}
    (happens : machine.Happens schedule time number (.returned visit))
    (blank : machine.history = [])
    (dated : machine.Dated) :
    visit.decided < time ∧ visit.Dated (machine.run schedule).history number := by
  obtain ⟨thread, next, found, -, turn⟩ := happens.turn blank nofun
  have remembered := dated.run (schedule.take time) number thread found
  rw [turn.leaving_of_returned] at remembered
  have before := lt_length_of_getElem? remembered.decided
  rw [← (happens.steps blank).1]
  exact ⟨before, Visit.Dated.mono (prefix_history_reached time) remembered⟩

theorem mem_entered_of_slotAt
    (accounted : machine.Accounted opened)
    {engine : Nat}
    (filled : machine.slotAt schedule time = some engine) :
    engine ∈ (machine.run schedule).entered opened :=
  mem_entered_of_earlier (prefix_history_reached time)
    ((accounted.run (schedule.take time)).filled engine filled)

/-- Whatever engine a call returns has been in the slot. -/
theorem Happens.mem_entered_of_gives
    (happens : machine.Happens schedule time number event)
    (blank : machine.history = [])
    (dated : machine.Dated)
    (accounted : machine.Accounted opened)
    {engine : Nat}
    (gives : event.gives? = some engine) :
    engine ∈ (machine.run schedule).entered opened := by
  have moves := happens.moves blank
  cases event with
  | returned visit =>
      cases gives
      obtain ⟨-, visited⟩ := happens.dated blank dated
      exact mem_entered_of_slotAt accounted (Happens.slotAt_of_decided visited.decided blank).2
  | looked held =>
      exact mem_entered_of_slotAt accounted (moves.1.symm.trans gives)
  | installed fresh replaced =>
      exact mem_entered_of_slotAt accounted (moves.1.symm.trans gives)
  | _ =>
      cases gives

/-- What the history tells of a call that is decided. -/
theorem Happens.dated_of_decided
    {visit : Visit}
    (happens : machine.Happens schedule time number (.decided visit))
    (blank : machine.history = [])
    (dated : machine.Dated) :
    visit.Dated (machine.run schedule).history number := by
  obtain ⟨thread, next, -, found, turn⟩ := happens.turn blank nofun
  have remembered := dated.run (schedule.take (time + 1)) number next found
  rw [turn.leaving_of_decided] at remembered
  exact Visit.Dated.mono (prefix_history_reached (time + 1)) remembered

/-- An engine that lost is never in the slot, and no call returns it. -/
theorem Happens.unseen_of_lost
    {visit : Visit}
    {fresh : Nat}
    (happens : machine.Happens schedule time number (.decided visit))
    (lost : visit.outcome = .lost fresh)
    (blank : machine.history = [])
    (dated : machine.Dated)
    (accounted : machine.Accounted opened) :
    (∀ moment, machine.slotAt schedule moment ≠ some fresh) ∧
      ∀ later other event, machine.Happens schedule later other event →
        event.gives? ≠ some fresh := by
  have mentioned : fresh ∈ (machine.run schedule).lost := by
    obtain ⟨began, decided, outcome, engine⟩ := visit
    cases lost
    exact List.mem_filterMap.mpr ⟨_, List.mem_of_getElem? happens, rfl⟩
  have absent := (accounted.run schedule).notMem_entered_of_lost mentioned
  constructor
  · intro moment filled
    exact absent (mem_entered_of_slotAt accounted filled)
  · intro later other event alsoHappens gives
    exact absent (alsoHappens.mem_entered_of_gives blank dated accounted gives)

/-- What threads can rely on that share the slot, in a run in the order of a schedule. -/
structure Serves
    (machine : Machine β)
    (schedule : List Nat) : Prop where
  /-- A call for the engine returns once its thread has made three steps after the first. -/
  returns : ∀ began number event, machine.Happens schedule began number event →
    event.begins = true → 3 ≤ (schedule.drop (began + 1)).count number →
    ∃ time visit, machine.Happens schedule time number (.returned visit) ∧ visit.began = began
  /-- A thread that makes enough steps makes all its calls, in their order. -/
  finishes : ∀ number thread, machine.threads[number]? = some thread →
    thread.turnsLeft ≤ schedule.count number →
    List.Forall₂ SlotCall.EndsIn thread.owed ((machine.run schedule).endings number)
  /-- Each step does to the slot what its event tells. -/
  moves : ∀ time number event, machine.Happens schedule time number event →
    event.Moves (machine.slotAt schedule time) (machine.slotAt schedule (time + 1))
  /-- A call returns the engine that was decided on in one of its slot steps. -/
  decides : ∀ time number visit, machine.Happens schedule time number (.returned visit) →
    (∃ event, machine.Happens schedule visit.began number event ∧ event.begins = true) ∧
      visit.began ≤ visit.decided ∧ visit.decided < time ∧
        machine.Happens schedule visit.decided number (.decided visit)
  /-- The engine that a call returns was in the slot at a moment of the call. -/
  present : ∀ time number visit, machine.Happens schedule time number (.returned visit) →
    ∃ moment, visit.began ≤ moment ∧ moment ≤ time ∧
      machine.slotAt schedule moment = some visit.engine
  /-- While nobody installs an engine or tears one down, all calls that are decided get the
  same engine. -/
  agree : ∀ first last, machine.Calm schedule first last →
    ∀ time number visit, machine.Happens schedule time number (.returned visit) →
      first ≤ visit.decided → visit.decided < last →
    ∀ time' number' visit', machine.Happens schedule time' number' (.returned visit') →
      first ≤ visit'.decided → visit'.decided < last →
    visit.engine = visit'.engine
  /-- An engine that a call has built and that lost is never in the slot, and no call returns
  it. -/
  losers : ∀ time number visit fresh, machine.Happens schedule time number (.decided visit) →
    visit.outcome = .lost fresh →
    (∃ built, visit.began < built ∧ built < time ∧
        machine.Happens schedule built number (.built fresh)) ∧
      (∀ moment, machine.slotAt schedule moment ≠ some fresh) ∧
        ∀ later other event, machine.Happens schedule later other event →
          event.gives? ≠ some fresh
  /-- An engine in the slot is replaced only by one that is installed, and taken out only when
  it is torn down. -/
  stays : ∀ time engine, machine.slotAt schedule time = some engine →
    machine.slotAt schedule (time + 1) = some engine ∨
      (∃ number fresh, machine.Happens schedule time number (.installed fresh (some engine)) ∧
        machine.slotAt schedule (time + 1) = some fresh) ∨
      ∃ number, machine.Happens schedule time number (.toreDown true) ∧
        machine.slotAt schedule (time + 1) = none

/-- Any number of threads, with any calls to make, share the slot well in any order of their
steps. -/
theorem serves_run
    (process : ProcessHeap β)
    (programs : List (List (SlotCall β)))
    (schedule : List Nat) :
    (opening process programs).Serves schedule := by
  have blank : (opening process programs).history = [] := rfl
  have dated := dated_opening process programs
  have accounted := accounted_opening process programs
  constructor
  case returns =>
    intro began number event happens begins enough
    exact happens.returns blank begins enough
  case finishes =>
    intro number thread found enough
    exact endings_of_enough blank found enough
  case moves =>
    intro time number event happens
    exact happens.moves blank
  case decides =>
    intro time number visit returned
    obtain ⟨before, visited⟩ := returned.dated blank dated
    exact ⟨visited.begins, visited.ordered, before, visited.decided⟩
  case present =>
    intro time number visit returned
    obtain ⟨before, visited⟩ := returned.dated blank dated
    refine ⟨visit.decided + 1, Nat.le_succ_of_le visited.ordered, before, ?_⟩
    exact (Happens.slotAt_of_decided visited.decided blank).2
  case agree =>
    intro first last calm time number visit returned started ended
      time' number' visit' returned' started' ended'
    have decided := (returned.dated blank dated).2.decided
    have decided' := (returned'.dated blank dated).2.decided
    rcases Nat.le_total visit.decided visit'.decided with ordered | ordered
    · exact calm.engine_eq blank decided decided' started ordered ended'
    · exact (calm.engine_eq blank decided' decided started' ordered ended).symm
  case losers =>
    intro time number visit fresh decided lost
    obtain ⟨now, -⟩ := decided.slotAt_of_decided blank
    have own : visit.fresh? = some fresh := by rw [Visit.fresh?, lost]
    obtain ⟨-, built, after, before, made⟩ :=
      (decided.dated_of_decided blank dated).built fresh own
    exact ⟨⟨built, after, now ▸ before, made⟩,
      decided.unseen_of_lost lost blank dated accounted⟩
  case stays =>
    intro time engine filled
    exact slotAt_or_resets blank filled

/-- Both threads have seen an empty slot and have built an engine, and the first one to take
the write lock wins. -/
example :
    ((opening
        (.initial ⟨fun _ => none, fun _ _ => SimulatedBackend.upwards 65536 0 []⟩)
        [[.engine], [.engine]]).run [0, 1, 0, 1, 1, 0, 0, 1]).history =
      [(0, .missed), (1, .missed), (0, .built 0), (1, .built 1),
        (1, .decided ⟨1, 4, .stored, 1⟩), (0, .decided ⟨0, 5, .lost 0, 1⟩),
        (0, .returned ⟨0, 5, .lost 0, 1⟩), (1, .returned ⟨1, 4, .stored, 1⟩)] := by
  decide +kernel

end Machine

end TierHeap.ProcessSlot
