import TierHeap.Proofs.Engine.CheckedCalls
import TierHeap.Proofs.Engine.CheckedVerification
import TierHeap.Proofs.Interleaving.Attempts

/-!
# Arithmetic is exact

In every session that calls lead to, over backends that owe their dealings, and wherever in the
address space their segments lie, no call, no step of a thread, no look-up and no verification
adds addresses or lengths beyond the words or takes a difference below zero (`exact_arithmetic`).
So it makes no difference that sums of words wrap around and that some differences stop at zero.

What is added up over both tiers by a trim is checked where nothing comes between its steps.
Between the steps of a thread, the memory that one tier has handed back may be lent to the other,
which may hand it back as well; that sum is none of the tiers'.
-/

namespace TierHeap

namespace Interleaving

variable {β : Type}

def routeChecked?
    (symbol : String)
    (tier : Tier)
    (size align : Nat) : Option Phase :=
  (Engine.reserveAlignedChecked? size align).map fun
    | .error err => .concluding (.rejected symbol err)
    | .ok reserved => .routed symbol tier size reserved align

def resizeChecked?
    (session : Session β)
    (addr newSize : Nat) : Option (Session β × Phase × List Event) := do
  match ← Engine.reserveChecked? newSize with
  | .error err => some (session, .concluding (.rejected "resize_in_place" err), [])
  | .ok newReserved =>
      match session.engine.table.get? addr with
      | none => some (session, .concluding (.unknownResize addr), [])
      | some block =>
          match ← session.engine.resizeBlockChecked? block newSize newReserved with
          | none => some (session, .concluding (.blocked addr newSize), [])
          | some engine =>
              some
                (session.withEngine engine,
                 .concluding (.resized addr block newSize newReserved),
                 [.resized block.tier ⟨block.addr, block.reserved⟩ ⟨block.addr, newReserved⟩])

section

variable [Backend β]

def startChecked?
    (session : Session β)
    (number : Nat) : Call → Option (Session β × Phase × List Event)
  | .allocate size =>
      (routeChecked? "allocate" (session.active number) size granule).map
        fun phase => (session, phase, [])
  | .allocateAligned size align =>
      (routeChecked? "allocate_aligned" (session.active number) size align).map
        fun phase => (session, phase, [])
  | .allocateOn tier size =>
      (routeChecked? "allocate_on" tier size granule).map fun phase => (session, phase, [])
  | .allocateOnAligned tier size align =>
      (routeChecked? "allocate_on" tier size align).map fun phase => (session, phase, [])
  | .resize addr newSize => resizeChecked? session addr newSize
  | call => some (start session number call)

def carveChecked?
    (session : Session β)
    (symbol : String)
    (tier : Tier)
    (size reserved align : Nat) : Option (Session β × Phase × List Event) :=
  (session.engine.carveChecked? tier reserved align).map fun
    | (.error cause, engine) =>
        (session.withEngine engine, .concluding (.exhausted symbol tier size cause), [])
    | (.ok carve, engine) =>
        (session.withEngine engine,
         .carved symbol ⟨carve.addr, size, carve.reserved, tier⟩ carve.grew,
         [.carved tier ⟨carve.addr, carve.reserved⟩])

def Thread.turnChecked?
    (thread : Thread)
    (session : Session β)
    (number : Nat) : Option (Session β × Thread × List Event) :=
  match thread.phase with
  | .idle =>
      match thread.program with
      | [] => some (session, thread, [])
      | call :: rest =>
          (startChecked? session number call).map fun (session, phase, events) =>
            (session, { thread with phase := phase, program := rest }, events)
  | .routed symbol tier size reserved align =>
      (carveChecked? session symbol tier size reserved align).map
        fun (session, phase, events) => (session, { thread with phase := phase }, events)
  | .removed block =>
      (session.engine.giveBackChecked? block).map fun engine =>
        (session.withEngine engine, { thread with phase := .concluding (.freed block) },
         [.returned block.tier ⟨block.addr, block.reserved⟩])
  | .trimmingHost =>
      (session.engine.trimTierChecked? .host).map fun (bytes, engine) =>
        (session.withEngine engine, { thread with phase := .trimmingCxl bytes }, [])
  | .trimmingCxl hostBytes =>
      (session.engine.trimTierChecked? .cxl).map fun (bytes, engine) =>
        (session.withEngine engine,
         { thread with phase := .concluding (.trimmed (Word.add hostBytes bytes)) }, [])
  | .carved _ _ _ => some (thread.turn session number)
  | .concluding _ => some (thread.turn session number)

namespace Machine

def stepChecked?
    (machine : Machine β)
    (number : Nat) : Option (Machine β) :=
  match machine.threads[number]? with
  | none => some machine
  | some thread =>
      (thread.turnChecked? machine.session number).map fun (session, thread, events) =>
        ⟨session, machine.threads.set number thread, events ++ machine.history⟩

def runChecked?
    (machine : Machine β)
    (schedule : List Nat) : Option (Machine β) :=
  schedule.foldlM stepChecked? machine

end Machine

end

/-! ## Nothing is given up -/

theorem routeChecked?_eq
    (symbol : String)
    (tier : Tier)
    (size align : Nat) :
    routeChecked? symbol tier size align = some (route symbol tier size align) := by
  rw [routeChecked?, Engine.reserveAlignedChecked?_eq, route]
  cases Engine.reserveAligned size align <;> rfl

variable {session : Session (Recorder β)} {flight : List Block}

theorem resizeChecked?_eq
    (accounted : session.engine.Accounted flight)
    (addr newSize : Nat) :
    resizeChecked? session addr newSize = some (resize session addr newSize) := by
  rw [resizeChecked?, resize, Engine.reserveChecked?_eq]
  cases rounded : Engine.reserve newSize with
  | error err =>
      rfl
  | ok newReserved =>
      simp only [Option.bind_eq_bind, Option.bind_some]
      cases found : session.engine.table.get? addr with
      | none =>
          rfl
      | some block =>
          dsimp only
          rw [accounted.resizeBlockChecked?_eq found rounded]
          cases session.engine.resizeBlock? block newSize newReserved <;> rfl

variable [Backend β]

theorem startChecked?_eq
    (accounted : session.engine.Accounted flight)
    (number : Nat)
    (call : Call) :
    startChecked? session number call = some (start session number call) := by
  cases call with
  | resize addr newSize =>
      exact resizeChecked?_eq accounted addr newSize
  | allocate size | allocateAligned size align | allocateOn tier size
  | allocateOnAligned tier size align =>
      rw [startChecked?, routeChecked?_eq]
      rfl
  | enable | setMode tier | free addr | trim =>
      rfl

theorem carveChecked?_eq
    (accounted : session.engine.Accounted flight)
    {symbol : String}
    {tier : Tier}
    {size reserved align : Nat}
    (valid : Engine.reserveAligned size align = .ok reserved)
    (abiding :
      Dealing.Abiding (carve session symbol tier size reserved align).1.dealings) :
    carveChecked? session symbol tier size reserved align =
      some (carve session symbol tier size reserved align) := by
  rw [carveChecked?]
  unfold carve at abiding ⊢
  cases carved : session.engine.carve tier reserved align with
  | mk answer after =>
      rw [carved] at abiding
      have honest : Dealing.Honest (after.tiers.get tier).backend.dealings := by
        cases answer <;> exact abiding.honest_tier tier
      rw [accounted.carveChecked?_eq valid carved honest]
      cases answer <;> rfl

theorem turnChecked?_eq
    {thread : Thread}
    (accounted : session.engine.Accounted (thread.phase.flight ++ flight))
    (sound : thread.phase.Sound)
    (number : Nat)
    (abiding : Dealing.Abiding (thread.turn session number).1.dealings) :
    thread.turnChecked? session number = some (thread.turn session number) := by
  obtain ⟨phase, program, replies⟩ := thread
  cases phase with
  | idle =>
      cases program with
      | nil =>
          rfl
      | cons call rest =>
          simp only [Thread.turnChecked?, startChecked?_eq accounted]
          rfl
  | routed symbol tier size reserved align =>
      simp only [Thread.turnChecked?, carveChecked?_eq accounted sound abiding]
      rfl
  | removed block =>
      have inHand : session.engine.Accounted (block :: flight) := accounted
      simp only [Thread.turnChecked?, inHand.giveBackChecked?_eq]
      rfl
  | trimmingHost =>
      simp only [Thread.turnChecked?, accounted.trimTierChecked?_eq]
      rfl
  | trimmingCxl hostBytes =>
      simp only [Thread.turnChecked?, accounted.trimTierChecked?_eq]
      rfl
  | _ =>
      rfl

namespace Machine

theorem Accounted.stepChecked?_eq
    {machine : Machine (Recorder β)}
    (accounted : machine.Accounted)
    {number : Nat}
    (abiding : Dealing.Abiding (machine.step number).dealings) :
    machine.stepChecked? number = some (machine.step number) := by
  cases found : machine.threads[number]? with
  | none =>
      rw [stepChecked?, found, step_of_none found]
  | some thread =>
      rw [step_of_some found] at abiding ⊢
      have member : thread ∈ machine.threads := List.mem_of_getElem? found
      have inHand := accounted.kept.accounted.perm (gather_perm Phase.flight found)
      have turned :=
        turnChecked?_eq inHand (accounted.sound thread member) number abiding
      rw [stepChecked?, found]
      dsimp only
      rw [turned]
      rfl

theorem Accounted.runChecked?_eq
    {machine : Machine (Recorder β)}
    (accounted : machine.Accounted)
    {schedule : List Nat}
    (abiding : ∀ before, before <+: schedule →
      Dealing.Abiding (machine.run before).dealings) :
    machine.runChecked? schedule = some (machine.run schedule) := by
  induction schedule generalizing machine with
  | nil =>
      rfl
  | cons number rest inductionHypothesis =>
      have afterStep := abiding [number] ((List.prefix_cons_inj _).mpr List.nil_prefix)
      have later := inductionHypothesis (accounted.step afterStep) fun before isPrefix =>
        abiding (number :: before) ((List.prefix_cons_inj _).mpr isPrefix)
      rw [runChecked?, List.foldlM_cons, accounted.stepChecked?_eq afterStep]
      exact later

end Machine

end Interleaving

/-- Nothing that can be asked of a session takes it beyond the words. -/
structure Session.Exact
    {β : Type}
    [Backend β]
    (session : Session (Recorder β)) : Prop where
  /-- No call gives up on a sum or a difference, or for want of a rounded size. -/
  calls : ∀ thread call, Dealing.Abiding (session.call thread call).2.dealings →
    session.callChecked? thread call = some (session.call thread call)
  segments : ∀ tier addr,
    (session.engine.tiers.get tier).arena.segmentOfChecked? addr =
      some ((session.engine.tiers.get tier).segmentOf? addr)
  verification : session.engine.verifyChecked? = some session.engine.verify
  /-- A free range that is passed over because its start cannot be rounded up has no room. -/
  skipped : ∀ tier, ∀ span ∈ (session.engine.tiers.get tier).arena.freeSpans,
    ∀ align, nextMultiple? span.start align = none → ∀ reserved, ¬span.CanHold reserved align

theorem Session.Reached.exact
    {β : Type}
    [Backend β]
    {config : Config}
    {bank : RegisterBank}
    {backends : PerTier β}
    {session : Session (Recorder β)}
    (reached : Reached config bank backends session) :
    session.Exact := by
  obtain ⟨flight, accounted⟩ := reached.accounted
  have tiled (tier : Tier) := (accounted.backed.consistent tier).arena.tiled
  exact
    { calls := fun thread call abiding => callChecked?_eq accounted reached.abiding abiding
      segments := fun tier addr => (tiled tier).laid.segmentOfChecked?_eq addr
      verification := accounted.verifyChecked?_eq
      skipped := fun tier span member align beyond reserved =>
        (tiled tier).not_canHold_of_nextMultiple?_eq_none member beyond reserved }

open Interleaving in
/-- Whatever the settings and wherever segments lie: every size that is let through can be
rounded up to granules and then to pages, arithmetic is exact in every session that calls lead
to and in every step of threads, and no counter of events is beyond the number of calls or
steps made. -/
theorem exact_arithmetic
    {β : Type}
    [Backend β]
    (config : Config)
    (bank : RegisterBank)
    (backends : PerTier β) :
    (∀ size, 0 < size → size ≤ largestRequest →
      ∃ reserved minimum, granuleAlign? size = some reserved ∧
        pageAlign? reserved = some minimum) ∧
    (∀ session, Session.Reached config bank backends session → session.Exact) ∧
    (∀ programs schedule,
      (∀ before, before <+: schedule →
        Dealing.Abiding
          ((Machine.opening (Session.opening config bank (backends.map Recorder.start))
            programs).run before).dealings) →
      (Machine.opening (Session.opening config bank (backends.map Recorder.start))
          programs).runChecked? schedule =
        some
          ((Machine.opening (Session.opening config bank (backends.map Recorder.start))
            programs).run schedule) ∧
      ∀ tier,
        (((Machine.opening (Session.opening config bank (backends.map Recorder.start))
          programs).run schedule).session.engine.tiers.get tier).Counted schedule.length) ∧
    ∀ calls,
      (∀ before, before <+: calls →
        Dealing.Abiding
          ((Session.opening config bank (backends.map Recorder.start)).run before).dealings) →
      ∀ tier,
        (((Session.opening config bank (backends.map Recorder.start)).run
          calls).engine.tiers.get tier).Counted calls.length := by
  refine ⟨?_, fun session reached => reached.exact, ?_, ?_⟩
  · intro size positive small
    obtain ⟨reserved, minimum, found, pages⟩ := Engine.reserve_of_valid ⟨positive, small⟩
    exact ⟨reserved, minimum, (Engine.reserve_eq_ok found).2.2, pages⟩
  · intro programs schedule abiding
    have opened := Machine.accounted_opening config bank backends programs
    exact ⟨opened.runChecked?_eq abiding, Machine.counted_run config bank backends programs abiding⟩
  · intro calls abiding
    exact Session.counted_run config bank backends abiding

/-- The second segment of the host tier ends where no segment can end later. -/
def summitBackends : PerTier SimulatedBackend :=
  ⟨.upwards 18446744073709539328 0 [], .upwards 65536 4096 []⟩

/-- Three blocks in both segments; one of them is resized and one released. -/
def summitCalls : List (Nat × Call) :=
  [(0, .allocateOn .host 4096), (0, .allocateOn .host 100),
    (1, .allocateOnAligned .host 2000 1024), (0, .resize 18446744073709543424 900),
    (1, .free 18446744073709544448)]

def summitOpening : Session (Recorder SimulatedBackend) :=
  Session.opening { Config.standard with segmentSize := 4096 } .initial
    (summitBackends.map Recorder.start)

/-- Two threads fill the last segment and return it while one of them trims. -/
def summitPrograms : List (List Call) :=
  [[.allocateOn .host 4096, .free 18446744073709539328, .trim],
    [.allocateOn .host 4000, .free 18446744073709543424]]

def summitSchedule : List Nat :=
  [0, 1, 0, 1, 0, 1, 0, 1, 0, 1, 1, 0, 1, 0, 0, 1, 0, 0, 0]

open Interleaving in
theorem exact_arithmetic_summit :
    (summitOpening.run summitCalls).callChecked? 1 (.resize 18446744073709543424 4096) =
        some ((summitOpening.run summitCalls).call 1 (.resize 18446744073709543424 4096)) ∧
      ((summitOpening.run summitCalls).call 1 (.resize 18446744073709543424 4096)).1 =
        .resized true ∧
      (summitOpening.run summitCalls).engine.verifyChecked? = some (.ok ()) ∧
      (Machine.opening summitOpening summitPrograms).runChecked? summitSchedule =
        some ((Machine.opening summitOpening summitPrograms).run summitSchedule) := by
  obtain ⟨-, exact, steps, -⟩ :=
    exact_arithmetic { Config.standard with segmentSize := 4096 } .initial summitBackends
  have abidingCalls : ∀ before, before <+: summitCalls →
      Dealing.Abiding (summitOpening.run before).dealings := by
    simp only [← List.mem_inits]
    decide +kernel
  have abidingSteps : ∀ before, before <+: summitSchedule →
      Dealing.Abiding ((Machine.opening summitOpening summitPrograms).run before).dealings := by
    simp only [← List.mem_inits]
    decide +kernel
  have accounted : (summitOpening.run summitCalls).engine.Accounted [] :=
    (Session.accounted_run (Engine.accounted_withBackends _ _ _)
      (Engine.undisturbed_withBackends _ _ _) abidingCalls).1
  have verified : (summitOpening.run summitCalls).engine.verify = .ok () :=
    accounted.verify_eq_ok (abidingCalls summitCalls (List.prefix_refl _))
  have atSummit := exact (summitOpening.run summitCalls) (.calls summitCalls abidingCalls)
  refine ⟨atSummit.calls _ _ (by decide +kernel), by decide +kernel, ?_,
    (steps summitPrograms summitSchedule abidingSteps).1⟩
  rw [atSummit.verification, verified]

end TierHeap
