import Mathlib.Data.List.Nodup
import Mathlib.Data.List.Perm.Basic
import TierHeap.Proofs.Slot.Turns

/-!
# What holds at every moment of a run

What a thread remembers of its call agrees with the history (`Machine.Dated`).  And every engine
ever made is in one place: a thread that has not taken the write lock yet holds it, or it has
lost, or it has been in the slot (`Machine.Accounted`).  So an engine that lost has never been in
the slot, whatever its number.
-/

namespace TierHeap.ProcessSlot

variable {β : Type}

def Visit.fresh? (visit : Visit) : Option Nat :=
  match visit.outcome with
  | .found => none
  | .stored => some visit.engine
  | .lost fresh => some fresh

/-- The history of a call up to the decision. -/
structure Visit.Dated
    (history : List (Nat × Event))
    (number : Nat)
    (visit : Visit) : Prop where
  decided : history[visit.decided]? = some (number, .decided visit)
  /-- A call that has built nothing is decided in its first step. -/
  found : visit.fresh? = none → visit.began = visit.decided
  built : ∀ fresh, visit.fresh? = some fresh →
    history[visit.began]? = some (number, .missed) ∧
      ∃ time, visit.began < time ∧ time < visit.decided ∧
        history[time]? = some (number, .built fresh)

/-- What a thread remembers of its call agrees with the history. -/
def Phase.Dated
    (history : List (Nat × Event))
    (number : Nat) : Phase → Prop
  | .idle => True
  | .missed began => history[began]? = some (number, .missed)
  | .built began fresh =>
      history[began]? = some (number, .missed) ∧
        ∃ time, began < time ∧ history[time]? = some (number, .built fresh)
  | .leaving visit => visit.Dated history number

theorem Visit.Dated.ordered
    {history : List (Nat × Event)}
    {number : Nat}
    {visit : Visit}
    (dated : visit.Dated history number) :
    visit.began ≤ visit.decided := by
  cases fresh : visit.fresh? with
  | none =>
      exact Nat.le_of_eq (dated.found fresh)
  | some fresh =>
      obtain ⟨-, time, after, before, -⟩ := dated.built _ fresh
      exact Nat.le_of_lt (Nat.lt_trans after before)

theorem Visit.Dated.begins
    {history : List (Nat × Event)}
    {number : Nat}
    {visit : Visit}
    (dated : visit.Dated history number) :
    ∃ event, history[visit.began]? = some (number, event) ∧ event.begins = true := by
  cases fresh : visit.fresh? with
  | none =>
      refine ⟨.decided visit, dated.found fresh ▸ dated.decided, ?_⟩
      obtain ⟨began, decided, outcome, engine⟩ := visit
      cases outcome with
      | found => rfl
      | _ =>
          cases fresh
  | some fresh =>
      exact ⟨.missed, (dated.built _ fresh).1, rfl⟩

section

variable {earlier later : List (Nat × Event)} (before : earlier <+: later) {number : Nat}

include before

theorem Visit.Dated.mono
    {visit : Visit}
    (dated : visit.Dated earlier number) :
    visit.Dated later number where
  decided := Machine.getElem?_of_earlier before dated.decided
  found := dated.found
  built fresh own := by
    obtain ⟨missed, time, after, ended, built⟩ := dated.built fresh own
    exact ⟨Machine.getElem?_of_earlier before missed, time, after, ended,
      Machine.getElem?_of_earlier before built⟩

theorem Phase.Dated.mono
    {phase : Phase}
    (dated : phase.Dated earlier number) :
    phase.Dated later number := by
  cases phase with
  | idle =>
      trivial
  | missed began =>
      exact Machine.getElem?_of_earlier before dated
  | built began fresh =>
      obtain ⟨missed, time, after, built⟩ := dated
      exact ⟨Machine.getElem?_of_earlier before missed, time, after,
        Machine.getElem?_of_earlier before built⟩
  | leaving visit =>
      exact Visit.Dated.mono before dated

end

theorem lt_length_of_getElem?
    {history : List (Nat × Event)}
    {time : Nat}
    {entry : Nat × Event}
    (found : history[time]? = some entry) :
    time < history.length :=
  (List.getElem?_eq_some_iff.mp found).1

/-- A call that has built an engine is decided at the end of the history. -/
theorem Visit.dated_of_built
    {history : List (Nat × Event)}
    {number began fresh engine : Nat}
    {outcome : Outcome}
    (dated : (Phase.built began fresh).Dated history number)
    (own : (Visit.mk began history.length outcome engine).fresh? = some fresh) :
    (Visit.mk began history.length outcome engine).Dated
      (history ++ [(number, .decided ⟨began, history.length, outcome, engine⟩)]) number := by
  have before : history <+:
      history ++ [(number, .decided ⟨began, history.length, outcome, engine⟩)] :=
    List.prefix_append _ _
  obtain ⟨missed, time, later, built⟩ := dated
  refine ⟨List.getElem?_concat_length, fun nothing => ?_, fun other alsoOwn => ?_⟩
  · rw [own] at nothing
    cases nothing
  · cases Option.some.inj (own.symm.trans alsoOwn)
    exact ⟨Machine.getElem?_of_earlier before missed, time, later, lt_length_of_getElem? built,
      Machine.getElem?_of_earlier before built⟩

def Phase.fresh? : Phase → Option Nat
  | .built _ fresh => some fresh
  | _ => none

def Event.lost? : Event → Option Nat
  | .decided ⟨_, _, .lost fresh, _⟩ => some fresh
  | _ => none

/-- The engine that is put into the slot in a step. -/
def Event.stored? : Event → Option Nat
  | .decided ⟨_, _, .stored, engine⟩ => some engine
  | .installed fresh _ => some fresh
  | _ => none

theorem count_filterMap_cons
    {α : Type}
    (place? : α → Option Nat)
    (engine : Nat)
    (first : α)
    (rest : List α) :
    ((first :: rest).filterMap place?).count engine =
      (place? first).toList.count engine + (rest.filterMap place?).count engine := by
  rw [List.filterMap_cons]
  cases place? first with
  | none =>
      exact (Nat.zero_add _).symm
  | some found =>
      rw [Option.toList_some, ← List.count_append]
      rfl

theorem count_filterMap_snoc
    {α : Type}
    (place? : α → Option Nat)
    (engine : Nat)
    (earlier : List α)
    (last : α) :
    ((earlier ++ [last]).filterMap place?).count engine =
      (earlier.filterMap place?).count engine + (place? last).toList.count engine := by
  rw [List.filterMap_append, List.count_append, count_filterMap_cons]
  rfl

/-- One thread is replaced. -/
theorem count_filterMap_set
    {α : Type}
    (place? : α → Option Nat)
    (engine : Nat)
    {threads : List α}
    {number : Nat}
    {thread : α}
    (found : threads[number]? = some thread)
    (changed : α) :
    ((threads.set number changed).filterMap place?).count engine +
        (place? thread).toList.count engine =
      (threads.filterMap place?).count engine + (place? changed).toList.count engine := by
  obtain ⟨inside, rfl⟩ := List.getElem?_eq_some_iff.mp found
  have before := ((List.getElem_cons_eraseIdx_perm inside).filterMap place?).count_eq engine
  have after := ((List.set_perm_cons_eraseIdx inside changed).filterMap place?).count_eq engine
  rw [count_filterMap_cons] at before after
  omega

namespace Machine

def held (machine : Machine β) : List Nat :=
  machine.threads.filterMap fun thread => thread.phase.fresh?

def lost (machine : Machine β) : List Nat :=
  machine.history.filterMap fun entry => entry.2.lost?

/-- The engines that have been in the slot; those that were there at the start have the lowest
numbers. -/
def entered
    (opened : Nat)
    (machine : Machine β) : List Nat :=
  List.range opened ++ machine.history.filterMap fun entry => entry.2.stored?

/-- Every engine is in one place. -/
structure Accounted
    (opened : Nat)
    (machine : Machine β) : Prop where
  once : ∀ engine,
    machine.held.count engine + machine.lost.count engine +
        (machine.entered opened).count engine =
      (List.range machine.shared.engines.length).count engine
  filled : ∀ engine, machine.shared.slot = some engine → engine ∈ machine.entered opened

/-- What the threads remember of their calls agrees with the history. -/
def Dated (machine : Machine β) : Prop :=
  ∀ (number : Nat) (thread : Thread β), machine.threads[number]? = some thread →
    thread.phase.Dated machine.history number

variable {machine : Machine β} {opened : Nat}

/-- An engine that lost has never been in the slot. -/
theorem Accounted.notMem_entered_of_lost
    (accounted : machine.Accounted opened)
    {engine : Nat}
    (lost : engine ∈ machine.lost) :
    engine ∉ machine.entered opened := by
  intro entered
  have once := accounted.once engine
  have most := List.nodup_iff_count_le_one.mp
    (List.nodup_range (n := machine.shared.engines.length)) engine
  have inLost := List.count_pos_iff.mpr lost
  have inEntered := List.count_pos_iff.mpr entered
  omega

theorem mem_entered_of_earlier
    {later : Machine β}
    (before : machine.history <+: later.history)
    {engine : Nat}
    (entered : engine ∈ machine.entered opened) :
    engine ∈ later.entered opened := by
  obtain ⟨rest, joined⟩ := before
  rw [Machine.entered, ← joined, List.filterMap_append, ← List.append_assoc]
  exact List.mem_append_left _ entered

theorem dated_opening
    (process : ProcessHeap β)
    (programs : List (List (SlotCall β))) :
    (opening process programs).Dated := by
  intro number thread found
  rw [opening, List.getElem?_map, Option.map_eq_some_iff] at found
  obtain ⟨program, -, rfl⟩ := found
  trivial

theorem accounted_opening
    (process : ProcessHeap β)
    (programs : List (List (SlotCall β))) :
    (opening process programs).Accounted process.slot.toList.length := by
  have idle : (opening process programs).held = [] := by
    simp [held, opening, Phase.fresh?]
  refine ⟨fun engine => ?_, fun engine filled => ?_⟩
  · rw [idle]
    simp [Machine.lost, entered, opening]
  · cases slot : process.slot <;> simp_all [opening, entered]

end Machine

/-! ## What a step does to them -/

variable [Backend β]

theorem Turns.dated
    {history : List (Nat × Event)}
    {number : Nat}
    {shared after : Shared β}
    {thread next : Thread β}
    {event : Event}
    (turn : Turns history.length shared thread after next event)
    (dated : thread.phase.Dated history number) :
    next.phase.Dated (history ++ [(number, event)]) number := by
  have last : (history ++ [(number, event)])[history.length]? = some (number, event) :=
    List.getElem?_concat_length
  have before : history <+: history ++ [(number, event)] := List.prefix_append _ _
  cases turn with
  | rests =>
      trivial
  | finds filled =>
      exact ⟨last, fun _ => rfl, nofun⟩
  | misses empty =>
      exact last
  | looks =>
      trivial
  | installs make =>
      trivial
  | tearsDown =>
      trivial
  | builds =>
      exact ⟨Machine.getElem?_of_earlier before dated, _, lt_length_of_getElem? dated, last⟩
  | loses filled =>
      exact Visit.dated_of_built dated rfl
  | stores empty =>
      exact Visit.dated_of_built dated rfl
  | leaves visit =>
      trivial

/-- A turn moves an engine from one place to another, and none is forgotten. -/
theorem Turns.count
    {clock : Nat}
    {shared after : Shared β}
    {thread next : Thread β}
    {event : Event}
    (turn : Turns clock shared thread after next event)
    (engine : Nat) :
    next.phase.fresh?.toList.count engine + event.lost?.toList.count engine +
        event.stored?.toList.count engine + (List.range shared.engines.length).count engine =
      thread.phase.fresh?.toList.count engine +
        (List.range after.engines.length).count engine := by
  have grown : (List.range (shared.engines.length + 1)).count engine =
      (List.range shared.engines.length).count engine + [shared.engines.length].count engine := by
    rw [List.range_succ, List.count_append]
  cases turn with
  | installs make =>
      change 0 + 0 + [shared.engines.length].count engine + _ =
        0 + (List.range (shared.engines ++ [(make shared.bank).1]).length).count engine
      rw [List.length_append, List.length_singleton, grown]
      omega
  | builds =>
      change [shared.engines.length].count engine + 0 + 0 + _ =
        0 + (List.range shared.build.2.engines.length).count engine
      rw [Shared.length_engines_build, grown]
      omega
  | _ =>
      simp [Phase.fresh?, Event.lost?, Event.stored?]

namespace Machine

section

variable {machine after : Machine β} {number : Nat} {event : Event}

theorem Steps.dated
    (steps : machine.Steps number after event)
    (dated : machine.Dated) :
    after.Dated := by
  intro place other placed
  cases steps with
  | absent none =>
      exact Phase.Dated.mono (List.prefix_append _ _) (dated place other placed)
  | turns found turn =>
      by_cases own : number = place
      · subst own
        obtain ⟨inside, -⟩ := List.getElem?_eq_some_iff.mp found
        rw [List.getElem?_set_self inside] at placed
        cases placed
        exact turn.dated (dated number _ found)
      · rw [List.getElem?_set_ne own] at placed
        exact Phase.Dated.mono (List.prefix_append _ _) (dated place other placed)

/-- Nothing that has been in the slot is forgotten. -/
theorem Steps.entered
    (steps : machine.Steps number after event)
    (opened : Nat) :
    after.entered opened = machine.entered opened ++ event.stored?.toList := by
  rw [Machine.entered, steps.history, List.filterMap_append, ← List.append_assoc]
  cases stored : event.stored? <;> simp [Machine.entered, stored]

theorem Steps.filled
    {opened : Nat}
    (steps : machine.Steps number after event)
    (filled : ∀ engine, machine.shared.slot = some engine → engine ∈ machine.entered opened) :
    ∀ engine, after.shared.slot = some engine → engine ∈ after.entered opened := by
  intro engine held
  rw [steps.entered]
  cases steps with
  | absent none =>
      exact List.mem_append_left _ (filled engine held)
  | turns found turn =>
      cases turn with
      | installs make =>
          cases held
          exact List.mem_append_right _ List.mem_cons_self
      | stores empty =>
          cases held
          exact List.mem_append_right _ List.mem_cons_self
      | tearsDown =>
          cases held
      | leaves visit =>
          exact List.mem_append_left _ (filled engine ((Shared.slot_dropLoser _ _).symm.trans held))
      | _ =>
          exact List.mem_append_left _ (filled engine held)

theorem Steps.accounted
    {opened : Nat}
    (steps : machine.Steps number after event)
    (accounted : machine.Accounted opened) :
    after.Accounted opened := by
  refine ⟨fun engine => ?_, steps.filled accounted.filled⟩
  have once := accounted.once engine
  have lost : after.lost.count engine =
      machine.lost.count engine + event.lost?.toList.count engine := by
    rw [Machine.lost, steps.history]
    exact count_filterMap_snoc _ engine _ _
  rw [steps.entered, List.count_append, lost]
  cases steps with
  | absent none =>
      exact once
  | @turns thread next shared event found turn =>
      have moved := turn.count engine
      have replaced :=
        count_filterMap_set (fun thread => thread.phase.fresh?) engine found next
      change (List.filterMap _ (machine.threads.set number next)).count engine + _ + _ =
        (List.range shared.engines.length).count engine
      rw [held] at once
      omega

end

variable {machine : Machine β} {opened : Nat}

theorem Dated.run
    (dated : machine.Dated)
    (schedule : List Nat) :
    (machine.run schedule).Dated :=
  machine.run_induction schedule Dated Steps.dated dated

theorem Accounted.run
    (accounted : machine.Accounted opened)
    (schedule : List Nat) :
    (machine.run schedule).Accounted opened :=
  machine.run_induction schedule (Accounted opened) Steps.accounted accounted

end Machine

end TierHeap.ProcessSlot
