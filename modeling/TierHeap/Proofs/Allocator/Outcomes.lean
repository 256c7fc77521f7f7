import TierHeap.Arena.Allocator
import TierHeap.Proofs.Arena.Operations
import TierHeap.Proofs.Backend.Dealings

/-!
# How allocator operations end

Each operation is opened once, by a lemma that says how it can end, so that what follows
never unfolds it.  An allocation asks the backend at most once (`allocate_dealings`); trimming
asks it to take back idle segments and nothing else (`trim_dealings`).
-/

namespace TierHeap.Allocator

variable {β : Type}

theorem carve?_eq_some
    {allocator after : Allocator β}
    {reserved align addr : Nat}
    (carved : allocator.carve? reserved align = some (addr, after)) :
    ∃ fit, allocator.arena.findFit? reserved align = some fit ∧ addr = fit.start ∧
      after = { allocator with arena := allocator.arena.carveAt reserved fit } := by
  obtain ⟨⟨start, arena⟩, found, same⟩ := Option.map_eq_some_iff.mp carved
  obtain ⟨fit, fits, placed⟩ := Option.map_eq_some_iff.mp found
  cases placed
  cases same
  exact ⟨fit, fits, rfl, rfl⟩

theorem resize?_eq_some
    {allocator after : Allocator β}
    {addr oldReserved newReserved : Nat}
    (resized : allocator.resize? addr oldReserved newReserved = some after) :
    ∃ arena, allocator.arena.resize? addr oldReserved newReserved = some arena ∧
      after = { allocator with arena := arena } := by
  obtain ⟨arena, found, rfl⟩ := Option.map_eq_some_iff.mp resized
  exact ⟨arena, found, rfl⟩

/-- The tier, the ceiling and the growth unit of two allocators are the same. -/
structure SameSettings (after before : Allocator β) : Prop where
  tier : after.tier = before.tier
  capacity : after.capacity = before.capacity
  growthUnit : after.growthUnit = before.growthUnit

theorem SameSettings.refl (allocator : Allocator β) : allocator.SameSettings allocator :=
  ⟨rfl, rfl, rfl⟩

theorem SameSettings.trans
    {last middle first : Allocator β}
    (later : last.SameSettings middle)
    (earlier : middle.SameSettings first) :
    last.SameSettings first :=
  ⟨later.tier.trans earlier.tier, later.capacity.trans earlier.capacity,
    later.growthUnit.trans earlier.growthUnit⟩

theorem sameSettings_carve?
    {allocator after : Allocator β}
    {reserved align addr : Nat}
    (carved : allocator.carve? reserved align = some (addr, after)) :
    after.SameSettings allocator := by
  obtain ⟨fit, -, -, rfl⟩ := carve?_eq_some carved
  exact ⟨rfl, rfl, rfl⟩

variable [Backend β]

/-- A commit is written down; the arena takes the segment in, if there is one. -/
theorem commit_cases
    {allocator after : Allocator (Recorder β)}
    {depth len : Nat}
    {answer : Except GrowError Unit}
    (committed : allocator.commit depth len = (answer, after)) :
    (∃ err backend, answer = .error (.backend err) ∧
      after =
        { allocator with
          backend := ⟨backend, .commit len none :: allocator.backend.dealings⟩ }) ∨
    ∃ segment backend, answer = .ok () ∧
      after =
        { allocator with
          backend := ⟨backend, .commit len (some segment) :: allocator.backend.dealings⟩
          arena := allocator.arena.adopt segment } := by
  unfold commit at committed
  split at committed
  · rename_i err backend refused
    cases committed
    simp only [Backend.commit, Prod.mk.injEq] at refused
    obtain ⟨failed, rfl⟩ := refused
    rw [failed]
    exact .inl ⟨err, _, rfl, rfl⟩
  · rename_i segment backend granted
    cases committed
    simp only [Backend.commit, Prod.mk.injEq] at granted
    obtain ⟨lent, rfl⟩ := granted
    rw [lent]
    exact .inr ⟨segment, _, rfl, rfl⟩

/-- Growing either fails before the backend is asked or commits a segment of the length that
the ceiling admits. -/
theorem grow_cases
    {allocator after : Allocator β}
    {depth reserved : Nat}
    {answer : Except GrowError Unit}
    (grown : allocator.grow depth reserved = (answer, after)) :
    (pageAlign? reserved = none ∧ after = allocator ∧
      answer =
        .error
          (.capacityExceeded allocator.reportedCapacity allocator.arena.committed reserved)) ∨
    ∃ minimum, pageAlign? reserved = some minimum ∧
      ((allocator.growthLength? minimum = none ∧ after = allocator.countCapacityFailure ∧
          answer =
            .error
              (.capacityExceeded allocator.reportedCapacity allocator.arena.committed
                minimum)) ∨
        ∃ len, allocator.growthLength? minimum = some len ∧
          allocator.commit depth len = (answer, after)) := by
  unfold grow at grown
  split at grown
  · rename_i tooLarge
    cases grown
    exact .inl ⟨tooLarge, rfl, rfl⟩
  · rename_i minimum rounded
    refine .inr ⟨minimum, rounded, ?_⟩
    split at grown
    · rename_i refused
      cases grown
      exact .inl ⟨refused, rfl, rfl⟩
    · rename_i len admitted
      exact .inr ⟨len, admitted, grown⟩

theorem grow_eq_commit
    {allocator : Allocator β}
    {reserved minimum len : Nat}
    (rounded : pageAlign? reserved = some minimum)
    (admitted : allocator.growthLength? minimum = some len)
    (depth : Nat) :
    allocator.grow depth reserved = allocator.commit depth len := by
  unfold grow
  rw [rounded]
  dsimp only
  rw [admitted]

theorem grow_eq_refusal
    {allocator : Allocator β}
    {reserved minimum : Nat}
    (rounded : pageAlign? reserved = some minimum)
    (refused : allocator.growthLength? minimum = none)
    (depth : Nat) :
    allocator.grow depth reserved =
      (.error
        (.capacityExceeded allocator.reportedCapacity allocator.arena.committed minimum),
       allocator.countCapacityFailure) := by
  unfold grow
  rw [rounded]
  dsimp only
  rw [refused]

theorem grow_eq_overflow
    {allocator : Allocator β}
    {reserved : Nat}
    (overflow : pageAlign? reserved = none)
    (depth : Nat) :
    allocator.grow depth reserved =
      (.error
        (.capacityExceeded allocator.reportedCapacity allocator.arena.committed reserved),
       allocator) := by
  unfold grow
  rw [overflow]

/-- A request is carved at once, or after the arena has grown, or it fails. -/
theorem allocate_cases
    {allocator after : Allocator β}
    {depth reserved align : Nat}
    {answer : Except GrowError Carve}
    (allocated : allocator.allocate depth reserved align = (answer, after)) :
    (∃ addr, allocator.carve? reserved (max align granule) = some (addr, after) ∧
      answer = .ok ⟨addr, reserved, false⟩) ∨
    (allocator.carve? reserved (max align granule) = none ∧
      ((∃ err, allocator.grow depth reserved = (.error err, after) ∧ answer = .error err) ∨
        ∃ grown, allocator.grow depth reserved = (.ok (), grown) ∧
          ((∃ addr, grown.carve? reserved (max align granule) = some (addr, after) ∧
              answer = .ok ⟨addr, reserved, true⟩) ∨
            (grown.carve? reserved (max align granule) = none ∧ after = grown ∧
              answer =
                .error
                  (.capacityExceeded grown.reportedCapacity grown.arena.committed
                    reserved))))) := by
  simp only [allocate] at allocated
  split at allocated
  · rename_i addr carved found
    cases allocated
    exact .inl ⟨addr, found, rfl⟩
  · rename_i absent
    refine .inr ⟨absent, ?_⟩
    split at allocated
    · rename_i err refused failed
      cases allocated
      exact .inl ⟨err, failed, rfl⟩
    · rename_i grown succeeded
      refine .inr ⟨grown, succeeded, ?_⟩
      split at allocated
      · rename_i addr carved found
        cases allocated
        exact .inl ⟨addr, found, rfl⟩
      · rename_i stillAbsent
        cases allocated
        exact .inr ⟨stillAbsent, rfl, rfl⟩

theorem allocate_eq_refusal
    {allocator after : Allocator β}
    {depth reserved align : Nat}
    {err : GrowError}
    (full : allocator.carve? reserved (max align granule) = none)
    (failed : allocator.grow depth reserved = (.error err, after)) :
    allocator.allocate depth reserved align = (.error err, after) := by
  simp only [allocate, full, failed]

/-- What is carved starts where it was asked to. -/
theorem aligned_allocate
    {allocator after : Allocator β}
    {depth reserved align : Nat}
    {carve : Carve}
    (power : isPowerOfTwo align = true)
    (small : align ≤ pageSize)
    (allocated : allocator.allocate depth reserved align = (.ok carve, after)) :
    align ∣ carve.addr := by
  obtain ⟨positive, -⟩ := alignment_bounds power small
  have aligned {allocator after : Allocator β} {addr : Nat}
      (carved : allocator.carve? reserved (max align granule) = some (addr, after)) :
      align ∣ addr := by
    obtain ⟨fit, found, rfl, -⟩ := carve?_eq_some carved
    have multiple := (nextMultiple?_bounds positive (Arena.findFit?_start found)).2.2
    exact Nat.dvd_trans (dvd_max_granule power) (Nat.dvd_of_mod_eq_zero multiple)
  rcases allocate_cases allocated with
    ⟨addr, carved, same⟩ |
    ⟨-, ⟨err, -, same⟩ | ⟨grown, -, ⟨addr, carved, same⟩ | ⟨-, -, same⟩⟩⟩
  · cases same
    exact aligned carved
  · cases same
  · cases same
    exact aligned carved
  · cases same

/-! ## Dealings -/

theorem commit_dealings
    {allocator after : Allocator (Recorder β)}
    {depth len : Nat}
    {answer : Except GrowError Unit}
    (committed : allocator.commit depth len = (answer, after)) :
    ∃ granted, after.backend.dealings = .commit len granted :: allocator.backend.dealings := by
  rcases commit_cases committed with
    ⟨err, backend, -, rfl⟩ | ⟨segment, backend, -, rfl⟩
  · exact ⟨none, rfl⟩
  · exact ⟨some segment, rfl⟩

theorem grow_dealings
    {allocator after : Allocator (Recorder β)}
    {depth reserved : Nat}
    {answer : Except GrowError Unit}
    (grown : allocator.grow depth reserved = (answer, after)) :
    after.backend.dealings = allocator.backend.dealings ∨
      ∃ len granted,
        after.backend.dealings = .commit len granted :: allocator.backend.dealings := by
  rcases grow_cases grown with
    ⟨-, rfl, -⟩ | ⟨minimum, -, ⟨-, rfl, -⟩ | ⟨len, -, committed⟩⟩
  · exact .inl rfl
  · exact .inl rfl
  · exact .inr ⟨len, commit_dealings committed⟩

/-- An allocation asks the backend at most once. -/
theorem allocate_dealings
    {allocator after : Allocator (Recorder β)}
    {depth reserved align : Nat}
    {answer : Except GrowError Carve}
    (allocated : allocator.allocate depth reserved align = (answer, after)) :
    after.backend.dealings = allocator.backend.dealings ∨
      ∃ len granted,
        after.backend.dealings = .commit len granted :: allocator.backend.dealings := by
  rcases allocate_cases allocated with
    ⟨addr, carved, -⟩ |
    ⟨-, ⟨err, failed, -⟩ | ⟨grown, succeeded, ⟨addr, carved, -⟩ | ⟨-, rfl, -⟩⟩⟩
  · obtain ⟨fit, -, -, rfl⟩ := carve?_eq_some carved
    exact .inl rfl
  · exact grow_dealings failed
  · obtain ⟨fit, -, -, rfl⟩ := carve?_eq_some carved
    have asked := grow_dealings succeeded
    exact asked
  · exact grow_dealings succeeded

theorem allocate_dealings_append
    {allocator after : Allocator (Recorder β)}
    {depth reserved align : Nat}
    {answer : Except GrowError Carve}
    (allocated : allocator.allocate depth reserved align = (answer, after)) :
    ∃ recent, after.backend.dealings = recent ++ allocator.backend.dealings := by
  rcases allocate_dealings allocated with same | ⟨len, granted, one⟩
  · exact ⟨[], same⟩
  · exact ⟨[_], one⟩

/-- A request that nothing free serves asks the backend for the length that the ceiling
admits. -/
theorem allocate_commits
    {allocator : Allocator (Recorder β)}
    {reserved align minimum len : Nat}
    (full : allocator.carve? reserved (max align granule) = none)
    (rounded : pageAlign? reserved = some minimum)
    (admitted : allocator.growthLength? minimum = some len)
    (depth : Nat) :
    ∃ granted, (allocator.allocate depth reserved align).2.backend.dealings =
      .commit len granted :: allocator.backend.dealings := by
  have grow : allocator.grow depth reserved = allocator.commit depth len :=
    grow_eq_commit rounded admitted depth
  cases allocated : allocator.allocate depth reserved align with
  | mk answer after =>
      rcases allocate_cases allocated with
        ⟨addr, carved, -⟩ |
        ⟨-, ⟨err, failed, -⟩ | ⟨grown, succeeded, ⟨addr, carved, -⟩ | ⟨-, rfl, -⟩⟩⟩
      · rw [full] at carved
        cases carved
      · exact commit_dealings (grow.symm.trans failed)
      · -- Carving from the new segment does not ask the backend again.
        have granted := commit_dealings (grow.symm.trans succeeded)
        obtain ⟨fit, -, -, rfl⟩ := carve?_eq_some carved
        exact granted
      · exact commit_dealings (grow.symm.trans succeeded)

/-- Handing segments back asks the backend about these and nothing else. -/
theorem releaseAll_dealings
    (depth released : Nat)
    (segments : List Segment)
    (allocator : Allocator (Recorder β)) :
    ∃ recent,
      (releaseAll depth released segments allocator).2.backend.dealings =
          recent ++ allocator.backend.dealings ∧
        ∀ dealing ∈ recent, ∃ segment ∈ segments, ∃ accepted,
          dealing = .release segment accepted := by
  induction segments generalizing released allocator with
  | nil =>
      exact ⟨[], rfl, fun _ member => nomatch member⟩
  | cons segment rest inductionHypothesis =>
      simp only [releaseAll, Backend.release]
      cases Backend.release allocator.backend.backend depth segment with
      | mk answer backend =>
          cases answer with
          | error err =>
              refine ⟨[.release segment false], rfl, ?_⟩
              intro dealing member
              exact ⟨segment, List.mem_cons_self, false, List.mem_singleton.mp member⟩
          | ok done =>
              obtain ⟨recent, whole, releases⟩ :=
                inductionHypothesis (Word.add released segment.len)
                  { allocator with
                    backend := ⟨backend, .release segment true :: allocator.backend.dealings⟩
                    arena := allocator.arena.letGo segment }
              refine ⟨recent ++ [.release segment true], ?_, ?_⟩
              · rw [List.append_assoc]
                exact whole
              · intro dealing member
                rcases List.mem_append.mp member with later | first
                · obtain ⟨other, otherMember, accepted, same⟩ := releases dealing later
                  exact ⟨other, List.mem_cons_of_mem _ otherMember, accepted, same⟩
                · exact ⟨segment, List.mem_cons_self, true, List.mem_singleton.mp first⟩

/-- Trimming asks the backend to take back idle segments and nothing else. -/
theorem trim_dealings
    (allocator : Allocator (Recorder β))
    (depth : Nat) :
    ∃ recent,
      (allocator.trim depth).2.backend.dealings = recent ++ allocator.backend.dealings ∧
        ∀ dealing ∈ recent, ∃ segment ∈ allocator.arena.idle, ∃ accepted,
          dealing = .release segment accepted := by
  obtain ⟨recent, whole, releases⟩ :=
    releaseAll_dealings depth 0 (allocator.arena.idle.drop 1) allocator
  refine ⟨recent, whole, fun dealing member => ?_⟩
  obtain ⟨segment, candidate, accepted, same⟩ := releases dealing member
  exact ⟨segment, List.mem_of_mem_drop candidate, accepted, same⟩

theorem commit_peak
    {allocator after : Allocator (Recorder β)}
    {depth len : Nat}
    {answer : Except GrowError Unit}
    (peak : allocator.arena.committed ≤ allocator.arena.peakCommitted)
    (committed : allocator.commit depth len = (answer, after)) :
    after.arena.peakCommitted = max allocator.arena.peakCommitted after.arena.committed := by
  rcases commit_cases committed with
    ⟨err, backend, -, rfl⟩ | ⟨segment, backend, -, rfl⟩
  · exact (Nat.max_eq_left peak).symm
  · rfl

theorem grow_peak
    {allocator after : Allocator (Recorder β)}
    {depth reserved : Nat}
    {answer : Except GrowError Unit}
    (peak : allocator.arena.committed ≤ allocator.arena.peakCommitted)
    (grown : allocator.grow depth reserved = (answer, after)) :
    after.arena.peakCommitted = max allocator.arena.peakCommitted after.arena.committed := by
  rcases grow_cases grown with
    ⟨-, rfl, -⟩ | ⟨minimum, -, ⟨-, rfl, -⟩ | ⟨len, -, committed⟩⟩
  · exact (Nat.max_eq_left peak).symm
  · exact (Nat.max_eq_left peak).symm
  · exact commit_peak peak committed

theorem allocate_peak
    {allocator after : Allocator (Recorder β)}
    {depth reserved align : Nat}
    {answer : Except GrowError Carve}
    (peak : allocator.arena.committed ≤ allocator.arena.peakCommitted)
    (allocated : allocator.allocate depth reserved align = (answer, after)) :
    after.arena.peakCommitted = max allocator.arena.peakCommitted after.arena.committed := by
  rcases allocate_cases allocated with
    ⟨addr, carved, -⟩ |
    ⟨-, ⟨err, failed, -⟩ | ⟨grown, succeeded, ⟨addr, carved, -⟩ | ⟨-, rfl, -⟩⟩⟩
  · obtain ⟨fit, -, -, rfl⟩ := carve?_eq_some carved
    have frame := Arena.sameFrame_carveAt allocator.arena reserved fit
    simp only [frame.peakCommitted, frame.committed]
    exact (Nat.max_eq_left peak).symm
  · exact grow_peak peak failed
  · obtain ⟨fit, -, -, rfl⟩ := carve?_eq_some carved
    have frame := Arena.sameFrame_carveAt grown.arena reserved fit
    simp only [frame.peakCommitted, frame.committed]
    exact grow_peak peak succeeded
  · exact grow_peak peak succeeded

theorem releaseAll_peak
    (depth released : Nat)
    (segments : List Segment)
    (allocator : Allocator β) :
    (releaseAll depth released segments allocator).2.arena.peakCommitted =
      allocator.arena.peakCommitted := by
  induction segments generalizing released allocator with
  | nil =>
      rfl
  | cons segment rest inductionHypothesis =>
      simp only [releaseAll]
      split
      · rfl
      · exact inductionHypothesis _ _

theorem sameSettings_grow
    {allocator after : Allocator (Recorder β)}
    {depth reserved : Nat}
    {answer : Except GrowError Unit}
    (grown : allocator.grow depth reserved = (answer, after)) :
    after.SameSettings allocator := by
  rcases grow_cases grown with
    ⟨-, rfl, -⟩ | ⟨minimum, -, ⟨-, rfl, -⟩ | ⟨len, -, committed⟩⟩
  · exact .refl _
  · exact ⟨rfl, rfl, rfl⟩
  · rcases commit_cases committed with
      ⟨err, backend, -, rfl⟩ | ⟨segment, backend, -, rfl⟩
    · exact ⟨rfl, rfl, rfl⟩
    · exact ⟨rfl, rfl, rfl⟩

theorem sameSettings_allocate
    {allocator after : Allocator (Recorder β)}
    {depth reserved align : Nat}
    {answer : Except GrowError Carve}
    (allocated : allocator.allocate depth reserved align = (answer, after)) :
    after.SameSettings allocator := by
  rcases allocate_cases allocated with
    ⟨addr, carved, -⟩ |
    ⟨-, ⟨err, failed, -⟩ | ⟨grown, succeeded, ⟨addr, carved, -⟩ | ⟨-, rfl, -⟩⟩⟩
  · exact sameSettings_carve? carved
  · exact sameSettings_grow failed
  · exact (sameSettings_carve? carved).trans (sameSettings_grow succeeded)
  · exact sameSettings_grow succeeded

theorem sameSettings_releaseAll
    (depth released : Nat)
    (segments : List Segment)
    (allocator : Allocator β) :
    (releaseAll depth released segments allocator).2.SameSettings allocator := by
  induction segments generalizing released allocator with
  | nil =>
      exact .refl allocator
  | cons segment rest inductionHypothesis =>
      simp only [releaseAll]
      split
      · exact ⟨rfl, rfl, rfl⟩
      · exact (inductionHypothesis _ _).trans ⟨rfl, rfl, rfl⟩

end TierHeap.Allocator
