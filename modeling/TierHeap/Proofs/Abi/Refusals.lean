import TierHeap.Proofs.Abi.Resizing
import TierHeap.Proofs.Process.Refusals

/-!
# Why entry points fail

An entry point that allocates, resizes or releases fails for one of few reasons
(`Abi.Refused`), and each reason has its error number: a request that is malformed or names no
block is invalid, and one that its tier cannot supply finds no memory.  What an entry point does
is told by whether it has failed (`Abi.Heeds`); this is shown here for the steps that they have in
common, and for those that are one step.
-/

namespace TierHeap

namespace Abi

/-- The size or the alignment is none that can be asked for. -/
def Malformed (size align : Nat) : Prop :=
  size = 0 ∨ largestRequest < size ∨ isPowerOfTwo align = false ∨ pageSize < align

instance (size align : Nat) : Decidable (Malformed size align) :=
  inferInstanceAs (Decidable (_ ∨ _ ∨ _ ∨ _))

theorem malformed_of_error
    {size align : Nat}
    {err : RequestError}
    (failed : Engine.reserveAligned size align = .error err) :
    Malformed size align ∧ errnoOf err = invalidArgument := by
  unfold Engine.reserveAligned at failed
  split at failed
  · obtain ⟨rfl, zero | large⟩ := Engine.reserve_eq_error failed
    · exact ⟨.inl zero, rfl⟩
    · exact ⟨.inr (.inl large), rfl⟩
  · rename_i unaligned
    cases failed
    refine ⟨.inr (.inr ?_), rfl⟩
    by_cases power : isPowerOfTwo align = true
    · exact .inr (Nat.lt_of_not_le fun small => unaligned ⟨power, small⟩)
    · exact .inl (Bool.eq_false_of_not_eq_true power)

theorem wellFormed_of_ok
    {size align reserved : Nat}
    (valid : Engine.reserveAligned size align = .ok reserved) :
    ¬Malformed size align := by
  obtain ⟨power, small, exact⟩ := Engine.reserveAligned_eq_ok valid
  obtain ⟨positive, fits, -⟩ := Engine.reserve_eq_ok exact
  rintro (zero | large | unaligned | wide)
  · exact Nat.ne_of_gt positive zero
  · exact Nat.not_le_of_lt large fits
  · rw [power] at unaligned
    cases unaligned
  · exact Nat.not_le_of_lt wide small

variable {β : Type} [Backend β]

/-- The tier has no room for the request, and its backend does not supply any. -/
def Unsupplied
    (process : ProcessHeap (Recorder β))
    (tier : Tier)
    (size align : Nat) : Prop :=
  ∃ reserved cause, Engine.reserveAligned size align = .ok reserved ∧
    ((process.session.engine.tiers.get tier).allocate Engine.depth reserved align).1 =
      .error cause

/-- Why a request for memory of a tier is refused, with the number for that. -/
def AllocationRefused
    (process : ProcessHeap (Recorder β))
    (tier : Tier)
    (size align : Nat)
    (errno : Int) : Prop :=
  Malformed size align ∧ errno = invalidArgument ∨
    Unsupplied process tier size align ∧ errno = noMemory

def ResizeRefused
    (process : ProcessHeap (Recorder β))
    (block : Block)
    (size : Nat)
    (errno : Int) : Prop :=
  largestRequest < size ∧ errno = invalidArgument ∨
    size ≤ largestRequest ∧ ¬process.Supplies block size ∧ errno = noMemory

/-- Why an address that is not null is refused. -/
def Unknown
    (process : ProcessHeap (Recorder β))
    (ptr : Nat)
    (errno : Int) : Prop :=
  process.block? ptr = none ∧ errno = invalidArgument

def placed
    (process : ProcessHeap (Recorder β))
    (place : Placement) : Tier :=
  place.tier (process.session.active process.thread)

/-- The arguments of `posixMemalign` that it looks at itself. -/
def Storable
    (stores : Bool)
    (align : Nat) : Prop :=
  stores ∧ isPowerOfTwo align ∧ align % pointerSize = 0 ∧ align ≤ pageSize

instance (stores : Bool) (align : Nat) : Decidable (Storable stores align) :=
  inferInstanceAs (Decidable (_ ∧ _ ∧ _ ∧ _))

/-- Why an entry point is refused, with the number for that. -/
def Refused (process : ProcessHeap (Recorder β)) : Entry → Int → Prop
  | .malloc place size, errno =>
      AllocationRefused process (placed process place) size granule errno
  | .alignedAlloc place align size, errno =>
      AllocationRefused process (placed process place) size align errno
  | .calloc place count size, errno =>
      Word.bound ≤ count * size ∧ errno = noMemory ∨
        count * size < Word.bound ∧
          AllocationRefused process (placed process place) (count * size) granule errno
  | .posixMemalign place stores align size, errno =>
      ¬Storable stores align ∧ errno = invalidArgument ∨
        Storable stores align ∧
          AllocationRefused process (placed process place) size align errno
  | .free ptr, errno => ptr ≠ 0 ∧ Unknown process ptr errno
  | .freeQuietly ptr, errno => ptr ≠ 0 ∧ Unknown process ptr errno
  | .realloc place ptr size, errno =>
      if ptr = 0 then AllocationRefused process (placed process place) size granule errno
      else if size = 0 then Unknown process ptr errno
      else
        Unknown process ptr errno ∨
          ∃ block, process.block? ptr = some block ∧ ResizeRefused process block size errno
  | _, _ => False

/-- A caller sees that the entry point has failed.  A release without a result has failed if
the pointer is neither null nor a block; `realloc` of a block to nothing releases it. -/
def Fails
    (process : ProcessHeap (Recorder β))
    (answer : Answer) : Entry → Prop
  | .malloc _ _ => answer = .pointer 0
  | .alignedAlloc _ _ _ => answer = .pointer 0
  | .calloc _ _ _ => answer = .pointer 0
  | .posixMemalign _ _ _ _ => ∃ code addr, answer = .stored code addr ∧ code ≠ 0
  | .free _ => answer = .int (-1)
  | .freeQuietly ptr => ptr ≠ 0 ∧ process.block? ptr = none
  | .realloc _ ptr size =>
      answer = .pointer 0 ∧ ¬(ptr ≠ 0 ∧ size = 0 ∧ process.block? ptr ≠ none)
  | _ => False

/-- What is left is told by whether it has failed: then all is as before, but for the number of
the reason; else the number is as before. -/
structure Heeds
    (reason : Int → Prop)
    (failed : Prop)
    (before after : ProcessHeap (Recorder β)) : Prop where
  failed_iff : failed ↔ ∃ errno, reason errno
  refused : ∀ errno, reason errno → before.Intact after ∧ after.errno = errno
  calm : ¬failed → after.errno = before.errno

variable {process middle after : ProcessHeap (Recorder β)} {flight : List Block}
  {reason : Int → Prop} {failed : Prop}

theorem heeds_of_refused
    {code : Int}
    (reasons : ∀ errno, reason errno ↔ errno = code)
    (intact : process.Intact after)
    (errno : after.errno = code)
    (fails : failed) :
    Heeds reason failed process after where
  failed_iff := iff_of_true fails ⟨code, (reasons code).mpr rfl⟩
  refused other holds := ⟨intact, errno.trans ((reasons other).mp holds).symm⟩
  calm succeeds := absurd fails succeeds

theorem heeds_of_served
    (unreasoned : ∀ errno, ¬reason errno)
    (errno : after.errno = process.errno)
    (succeeds : ¬failed) :
    Heeds reason failed process after where
  failed_iff := iff_of_false succeeds fun ⟨other, holds⟩ => unreasoned other holds
  refused other holds := absurd holds (unreasoned other)
  calm _ := errno

theorem Heeds.congr
    (heeds : Heeds reason failed process after)
    {other : Int → Prop}
    {fails : Prop}
    (reasons : ∀ errno, other errno ↔ reason errno)
    (failures : fails ↔ failed) :
    Heeds other fails process after where
  failed_iff := by
    simp only [failures, heeds.failed_iff, reasons]
  refused errno holds := heeds.refused errno ((reasons errno).mp holds)
  calm succeeds := heeds.calm fun fails => succeeds (failures.mpr fails)

/-- Finding the engine first makes no difference. -/
theorem Heeds.of_engine
    (heeds : Heeds reason failed process.engine.2 after) :
    Heeds reason failed process after where
  failed_iff := heeds.failed_iff
  refused errno holds := by
    obtain ⟨intact, same⟩ := heeds.refused errno holds
    exact ⟨.trans (.of_session process.session_engine process.memory_engine) intact, same⟩
  calm succeeds := by
    have found : process.engine.2.errno = process.errno := by rw [process.engine_eq]
    exact (heeds.calm succeeds).trans found

/-- How a request for memory of a tier ends.  The error that refuses it is the only reason. -/
inductive RequestEnds
    (before : ProcessHeap (Recorder β))
    (tier : Tier)
    (size align : Nat) : Reply → ProcessHeap (Recorder β) → Prop where
  | refused
      {err : RequestError}
      {after : ProcessHeap (Recorder β)}
      (reasons : ∀ errno, AllocationRefused before tier size align errno ↔ errno = errnoOf err)
      (intact : before.Intact after) :
      RequestEnds before tier size align (.refused err) after
  | served
      {addr : Nat}
      {after : ProcessHeap (Recorder β)}
      (unreasoned : ∀ errno, ¬AllocationRefused before tier size align errno)
      (positive : 0 < addr)
      (errno : after.errno = before.errno) :
      RequestEnds before tier size align (.address addr) after

section

variable {tier : Tier} {size align : Nat}

theorem not_malformed_of_unsupplied (unsupplied : Unsupplied process tier size align) :
    ¬Malformed size align := by
  obtain ⟨reserved, cause, valid, -⟩ := unsupplied
  exact wellFormed_of_ok valid

theorem allocationRefused_of_malformed
    (malformed : Malformed size align)
    (errno : Int) :
    AllocationRefused process tier size align errno ↔ errno = invalidArgument := by
  have supplied : ¬Unsupplied process tier size align := fun unsupplied =>
    not_malformed_of_unsupplied unsupplied malformed
  simp only [AllocationRefused, malformed, supplied, true_and, false_and, or_false]

theorem allocationRefused_of_unsupplied
    (unsupplied : Unsupplied process tier size align)
    (errno : Int) :
    AllocationRefused process tier size align errno ↔ errno = noMemory := by
  have wellFormed := not_malformed_of_unsupplied unsupplied
  simp only [AllocationRefused, wellFormed, unsupplied, true_and, false_and, false_or]

end

variable (tacit : Backend.Tacit β)

include tacit in
theorem request_ends
    (kept : process.Kept flight)
    {call : Call}
    {tier : Tier}
    {size align : Nat}
    (asked : call.task? (process.session.active process.thread) =
      some (.allocate tier size align))
    (abiding : Dealing.Abiding (process.call call).2.dealings) :
    RequestEnds process tier size align (process.call call).1 (process.call call).2 := by
  have intact := kept.intact_call abiding
  have errno := process.errno_call (Recorder.tacit tacit) asked nofun
  have ends := kept.service_ends asked abiding
  generalize process.call call = result at *
  obtain ⟨reply, called⟩ := result
  dsimp only at *
  cases ends with
  | invalid invalid =>
      obtain ⟨malformed, code⟩ := malformed_of_error invalid
      refine .refused (fun errno => ?_) (intact rfl)
      rw [code]
      exact allocationRefused_of_malformed malformed errno
  | exhausted valid refused =>
      exact .refused (allocationRefused_of_unsupplied ⟨_, _, valid, refused⟩) (intact rfl)
  | placed valid served _ _ positive =>
      refine .served ?_ positive (errno nofun)
      rintro code (⟨malformed, -⟩ | ⟨⟨other, cause, same, refused⟩, -⟩)
      · exact wellFormed_of_ok valid malformed
      · rw [valid] at same
        cases same
        rw [served] at refused
        cases refused

include tacit in
theorem heeds_allocating
    (kept : process.Kept flight)
    {call : Call}
    {tier : Tier}
    {size align : Nat}
    (asked : call.task? (process.session.active process.thread) =
      some (.allocate tier size align))
    (abiding : Dealing.Abiding (allocating process call).2.dealings) :
    Heeds (AllocationRefused process tier size align) ((allocating process call).1 = 0) process
      (allocating process call).2 := by
  have afterCall : Dealing.Abiding (process.call call).2.dealings := by
    rw [ProcessHeap.dealings, ProcessHeap.allocating_eq, ProcessHeap.session_settleErrno]
      at abiding
    exact abiding
  have ends := request_ends tacit kept asked afterCall
  rw [allocating]
  generalize process.call call = result at *
  obtain ⟨reply, called⟩ := result
  dsimp only at *
  cases ends with
  | refused reasons intact =>
      exact heeds_of_refused reasons (intact.setErrno _) rfl rfl
  | served unreasoned positive errno =>
      exact heeds_of_served unreasoned errno (Nat.ne_of_gt positive)

include tacit in
theorem heeds_calloc
    (kept : process.Kept flight)
    {place : Placement}
    {count size : Nat}
    (abiding : Dealing.Abiding (calloc process place count size).2.dealings) :
    Heeds (Refused process (.calloc place count size))
      ((calloc process place count size).1 = 0) process
      (calloc process place count size).2 := by
  rw [calloc] at abiding ⊢
  cases product : Word.mulChecked? count size with
  | none =>
      have large : Word.bound ≤ count * size := by
        by_contra small
        have fits : Word.mulChecked? count size = some (count * size) :=
          Word.mulChecked?_eq_some_iff.mpr ⟨Nat.lt_of_not_le small, rfl⟩
        rw [fits] at product
        cases product
      have reasons (errno : Int) :
          Refused process (.calloc place count size) errno ↔ errno = noMemory := by
        simp only [Refused, large, Nat.not_lt_of_le large, true_and, false_and, or_false]
      exact heeds_of_refused reasons (.of_session (process.session_setErrno noMemory) rfl) rfl rfl
  | some total =>
      obtain ⟨small, rfl⟩ := Word.mulChecked?_eq_some_iff.mp product
      have heeds := heeds_allocating tacit kept (place.task?_allocate _ (count * size))
      have reasons (errno : Int) : Refused process (.calloc place count size) errno ↔
          AllocationRefused process (placed process place) (count * size) granule errno := by
        simp only [Refused, Nat.not_le_of_lt small, small, false_and, false_or, true_and]
      simp only [product] at abiding ⊢
      generalize allocating process (place.allocate (count * size)) = result at *
      obtain ⟨ptr, served⟩ := result
      dsimp only at *
      by_cases null : ptr = 0
      · rw [if_pos null] at abiding ⊢
        exact (heeds abiding).congr reasons .rfl
      · rw [if_neg null] at abiding ⊢
        rw [ProcessHeap.dealings, ProcessHeap.session_withMemory] at abiding
        obtain ⟨failed_iff, -, calm⟩ := (heeds abiding).congr reasons .rfl
        refine heeds_of_served (fun errno holds => ?_) (calm null) null
        exact null (failed_iff.mpr ⟨errno, holds⟩)

include tacit in
theorem errno_free
    (process : ProcessHeap (Recorder β))
    (addr : Nat) :
    (process.call (.free addr)).2.errno = process.errno := by
  refine process.errno_call (Recorder.tacit tacit) rfl nofun fun tier size asksMemory => ?_
  rcases process.free_cases addr with ⟨-, reply⟩ | ⟨block, -, reply⟩
  · rw [reply] at asksMemory
    cases asksMemory
  · rw [reply] at asksMemory
    cases asksMemory

include tacit in
theorem heeds_release
    (kept : process.Kept flight)
    (ptr : Nat) :
    Heeds (fun errno => ptr ≠ 0 ∧ Unknown process ptr errno) ((release process ptr).1 = -1) process
      (release process ptr).2 := by
  by_cases null : ptr = 0
  · rw [release, if_pos null]
    exact heeds_of_served (fun _ holds => holds.1 null) rfl (by decide : (0 : Int) ≠ -1)
  · have abiding := (kept.preserved_free ptr).kept.abiding
    have intact := kept.intact_call abiding
    have errno := errno_free tacit process ptr
    have ends := process.free_cases ptr
    rw [release, if_neg null]
    generalize process.call (.free ptr) = result at *
    obtain ⟨reply, called⟩ := result
    dsimp only at *
    rcases ends with ⟨absent, rfl⟩ | ⟨block, found, rfl⟩
    · refine heeds_of_refused (fun errno => ?_) ((intact rfl).setErrno _) rfl rfl
      exact ⟨fun holds => holds.2.2, fun same => ⟨null, absent, same⟩⟩
    · refine heeds_of_served ?_ errno (by decide : (0 : Int) ≠ -1)
      rintro other ⟨-, absent, -⟩
      rw [found] at absent
      cases absent

end Abi

end TierHeap
