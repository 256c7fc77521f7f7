import TierHeap.Proofs.Abi.Refusals

/-!
# The error discipline of entry points

A failure of an entry point changes nothing but the error number, and a success does not change
that (`ProcessHeap.disciplined`).  `posixMemalign` returns the number instead of setting it; what
the thread finds in its own is then what the backend has left there.
-/

namespace TierHeap

namespace Abi

variable {β : Type} [Backend β] {process after : ProcessHeap (Recorder β)} {flight : List Block}
  {reason : Int → Prop} (tacit : Backend.Tacit β)

include tacit in
theorem heeds_move
    (kept : process.Kept flight)
    {block : Block}
    {size : Nat}
    (abiding : Dealing.Abiding (move process block size).2.dealings) :
    Heeds (AllocationRefused process block.tier size granule) ((move process block size).1 = 0)
      process (move process block size).2 := by
  have heeds := heeds_allocating tacit kept
    (rfl : Call.task? (process.session.active process.thread) (.allocateOn block.tier size) = _)
  have result := move_ends process block size
  generalize move process block size = made at *
  cases result with
  | refused allocated =>
      rw [allocated] at heeds
      exact heeds abiding
  | copied allocated nonnull =>
      rw [ProcessHeap.dealings, ProcessHeap.session_call, Session.dealings_free,
        ProcessHeap.session_withMemory] at abiding
      rw [allocated] at heeds
      obtain ⟨failed_iff, -, calm⟩ := heeds abiding
      refine heeds_of_served (fun errno holds => nonnull (failed_iff.mpr ⟨errno, holds⟩)) ?_
        nonnull
      exact (errno_free tacit _ _).trans (calm nonnull)

theorem reply_resize_ne_outOfMemory
    (process : ProcessHeap (Recorder β))
    (addr size : Nat)
    (tier : Tier)
    (other : Nat) :
    (process.call (.resize addr size)).1 ≠ .refused (.outOfMemory tier other) := by
  have asked : Call.task? (process.session.active process.thread) (.resize addr size) =
      some (.resize addr size) := rfl
  obtain ⟨change, log, -, ends⟩ := ProcessHeap.call_ends asked
  generalize (process.call (.resize addr size)).1 = reply at *
  cases ends with
  | invalidResize invalid =>
      obtain ⟨rfl, -⟩ := Engine.reserve_eq_error invalid
      exact nofun
  | unknownResize | blocked | resized =>
      exact nofun

include tacit in
/-- Whatever the reason is, a block that could not be resized is as it was, and a success
leaves the error number alone. -/
theorem resize_heeds
    (kept : process.Kept flight)
    {block : Block}
    (nonnull : block.addr ≠ 0)
    {size : Nat}
    (abiding : Dealing.Abiding (resize process block size).2.dealings) :
    ((resize process block size).1 = 0 → process.Intact (resize process block size).2) ∧
      ((resize process block size).1 ≠ 0 →
        (resize process block size).2.errno = process.errno) := by
  have attempt := kept.preserved_attempt block.addr size
  have intact := kept.intact_call attempt.kept.abiding
  have errno : (process.call (.resize block.addr size)).2.errno = process.errno :=
    process.errno_call (Recorder.tacit tacit) rfl nofun
      (reply_resize_ne_outOfMemory process block.addr size)
  have asked : Call.task? (process.session.active process.thread) (.resize block.addr size) =
      some (.resize block.addr size) := rfl
  obtain ⟨change, log, -, ends⟩ := ProcessHeap.call_ends asked
  rw [resize] at abiding ⊢
  generalize process.call (.resize block.addr size) = result at *
  obtain ⟨reply, called⟩ := result
  dsimp only at *
  cases ends with
  | invalidResize | unknownResize =>
      exact ⟨fun _ => (intact rfl).setErrno _, fun success => absurd rfl success⟩
  | resized =>
      exact ⟨fun null => absurd null nonnull, fun _ => errno⟩
  | blocked =>
      have heeds := heeds_move tacit attempt.kept abiding
      constructor
      · intro null
        obtain ⟨code, holds⟩ := heeds.failed_iff.mp null
        exact (intact rfl).trans (heeds.refused code holds).1
      · intro success
        exact (heeds.calm success).trans errno

include tacit in
theorem heeds_resize
    (kept : process.Kept flight)
    {block : Block}
    (found : process.session.engine.table.get? block.addr = some block)
    {size : Nat}
    (positive : 0 < size)
    (abiding : Dealing.Abiding (resize process block size).2.dealings) :
    Heeds (ResizeRefused process block size) ((resize process block size).1 = 0) process
      (resize process block size).2 := by
  have blockPositive := kept.addr_pos found
  have ends := kept.resizeEnds_resize found positive abiding
  have supplied := ends.nonnull_iff blockPositive
  obtain ⟨intact, calm⟩ := resize_heeds tacit kept (Nat.ne_of_gt blockPositive) abiding
  by_cases null : (resize process block size).1 = 0
  · have unsupplied : ¬process.Supplies block size := fun supplies => supplied.mpr supplies null
    have retained := ends.retained kept found (preserved_resize kept abiding) null
    rcases retained.reason with ⟨large, errno⟩ | ⟨small, errno⟩
    · refine heeds_of_refused (fun errno => ?_) (intact null) errno null
      simp only [ResizeRefused, large, Nat.not_le_of_lt large, true_and, false_and, or_false]
    · refine heeds_of_refused (fun errno => ?_) (intact null) errno null
      simp only [ResizeRefused, small, Nat.not_lt_of_le small, unsupplied, not_false_eq_true,
        true_and, false_and, false_or]
  · refine heeds_of_served ?_ (calm null) null
    have reallocated := ends.reallocated kept found (preserved_resize kept abiding) null
    rintro other (⟨large, -⟩ | ⟨-, unsupplied, -⟩)
    · exact absurd large (Nat.not_lt_of_le reallocated.small)
    · exact unsupplied (supplied.mp null)

theorem allocationRefused_engine
    (process : ProcessHeap (Recorder β))
    (place : Placement)
    (size align : Nat)
    (errno : Int) :
    AllocationRefused process.engine.2 (placed process.engine.2 place) size align errno ↔
      AllocationRefused process (placed process place) size align errno := by
  have same := process.session_engine
  have thread : process.engine.2.thread = process.thread := by rw [process.engine_eq]
  simp only [AllocationRefused, Unsupplied, placed, same, thread]

theorem resizeRefused_engine
    (process : ProcessHeap (Recorder β))
    (block : Block)
    (size : Nat)
    (errno : Int) :
    ResizeRefused process.engine.2 block size errno ↔ ResizeRefused process block size errno := by
  simp only [ResizeRefused, ProcessHeap.Supplies, process.session_engine]

theorem realloc_null
    (process : ProcessHeap (Recorder β))
    (place : Placement)
    (size : Nat) :
    realloc process place 0 size = allocating process.engine.2 (place.allocate size) := by
  simp only [realloc, if_true]

include tacit in
theorem heeds_realloc_null
    (kept : process.Kept flight)
    {place : Placement}
    {size : Nat}
    (abiding : Dealing.Abiding (realloc process place 0 size).2.dealings) :
    Heeds (Refused process (.realloc place 0 size))
      (Fails process (.pointer (realloc process place 0 size).1) (.realloc place 0 size))
      process (realloc process place 0 size).2 := by
  have keptOn := kept.transport process.session_engine
  rw [realloc_null] at abiding ⊢
  have heeds := heeds_allocating tacit keptOn (place.task?_allocate _ size) abiding
  refine heeds.of_engine.congr (fun errno => ?_) ?_
  · exact (allocationRefused_engine process place size granule errno).symm
  · rw [Fails, Answer.pointer.injEq]
    exact and_iff_left fun live => live.1 rfl

include tacit in
theorem heeds_realloc_zero
    (kept : process.Kept flight)
    {ptr : Nat}
    (nonnull : ptr ≠ 0)
    (place : Placement) :
    Heeds (Refused process (.realloc place ptr 0))
      (Fails process (.pointer (realloc process place ptr 0).1) (.realloc place ptr 0))
      process (realloc process place ptr 0).2 := by
  have keptOn := kept.transport process.session_engine
  have heeds := (heeds_release tacit keptOn ptr).of_engine
  have reasons (errno : Int) : Refused process (.realloc place ptr 0) errno ↔
      ptr ≠ 0 ∧ Unknown process.engine.2 ptr errno := by
    rw [Refused, if_neg nonnull, if_pos rfl, Unknown, Unknown, ProcessHeap.block?_engine]
    exact (and_iff_right nonnull).symm
  simp only [realloc, if_neg nonnull, if_true]
  refine heeds.congr reasons ?_
  -- The result is null either way, so a failure is told by whether there was a block.
  rw [heeds.failed_iff]
  constructor
  · rintro ⟨-, unknown⟩
    refine ⟨invalidArgument, nonnull, ?_, rfl⟩
    rw [ProcessHeap.block?_engine]
    by_contra live
    exact unknown ⟨nonnull, rfl, live⟩
  · rintro ⟨errno, -, unknown, -⟩
    rw [ProcessHeap.block?_engine] at unknown
    exact ⟨rfl, fun live => live.2.2 unknown⟩

include tacit in
theorem heeds_realloc_positive
    (kept : process.Kept flight)
    {place : Placement}
    {ptr size : Nat}
    (nonnull : ptr ≠ 0)
    (positive : size ≠ 0)
    (abiding : Dealing.Abiding (realloc process place ptr size).2.dealings) :
    Heeds (Refused process (.realloc place ptr size))
      (Fails process (.pointer (realloc process place ptr size).1) (.realloc place ptr size))
      process (realloc process place ptr size).2 := by
  have keptOn := kept.transport process.session_engine
  have fails (result : Nat) :
      Fails process (.pointer result) (.realloc place ptr size) ↔ result = 0 := by
    rw [Fails, Answer.pointer.injEq]
    exact and_iff_left fun live => positive live.2.1
  have reasons (errno : Int) : Refused process (.realloc place ptr size) errno ↔
      Unknown process ptr errno ∨
        ∃ block, process.block? ptr = some block ∧ ResizeRefused process block size errno := by
    rw [Refused, if_neg nonnull, if_neg positive]
  cases known : process.block? ptr with
  | none =>
      have same : process.engine.1.block? ptr = none := known
      simp only [realloc, if_neg nonnull, if_neg positive, same]
      have unknown (errno : Int) :
          Refused process (.realloc place ptr size) errno ↔ errno = invalidArgument := by
        simp only [reasons, Unknown, known, true_and, reduceCtorEq, false_and, exists_false,
          or_false]
      exact heeds_of_refused unknown
        (.setErrno (.of_session process.session_engine process.memory_engine) _) rfl
        ((fails 0).mpr rfl)
  | some block =>
      have found : process.engine.2.session.engine.table.get? block.addr = some block := by
        rw [process.session_engine, kept.accounted.filed.get?_addr known]
        exact known
      rw [ProcessHeap.realloc_of_found known nonnull (Nat.pos_of_ne_zero positive)] at abiding ⊢
      have heeds := heeds_resize tacit keptOn found (Nat.pos_of_ne_zero positive) abiding
      refine heeds.of_engine.congr (fun errno => ?_) (fails _)
      rw [reasons, resizeRefused_engine]
      constructor
      · rintro (⟨unknown, -⟩ | ⟨other, present, refused⟩)
        · rw [known] at unknown
          cases unknown
        · rw [known] at present
          cases present
          exact refused
      · exact fun refused => .inr ⟨block, known, refused⟩

include tacit in
theorem heeds_realloc
    (kept : process.Kept flight)
    {place : Placement}
    {ptr size : Nat}
    (abiding : Dealing.Abiding (realloc process place ptr size).2.dealings) :
    Heeds (Refused process (.realloc place ptr size))
      (Fails process (.pointer (realloc process place ptr size).1) (.realloc place ptr size))
      process (realloc process place ptr size).2 := by
  by_cases null : ptr = 0
  · subst null
    exact heeds_realloc_null tacit kept abiding
  · by_cases nothing : size = 0
    · subst nothing
      exact heeds_realloc_zero tacit kept null place
    · exact heeds_realloc_positive tacit kept null nothing abiding

/-- A failure of `posixMemalign` is what it returns; the error number is what the backend of
the tier has left. -/
structure Returns
    (process : ProcessHeap (Recorder β))
    (place : Placement)
    (reason : Int → Prop)
    (answer : Answer)
    (after : ProcessHeap (Recorder β)) : Prop where
  failed_iff : (∃ code addr, answer = .stored code addr ∧ code ≠ 0) ↔ ∃ errno, reason errno
  refused : ∀ errno, reason errno → process.Intact after ∧ answer = .stored errno none
  errno : (∃ errno, reason errno) →
    after.errno =
      ProcessHeap.errnoAfter process.errno
        (process.session.engine.tiers.get (placed process place)).backend
        (after.session.engine.tiers.get (placed process place)).backend
  calm : (¬∃ errno, reason errno) → after.errno = process.errno

theorem Placement.task?_allocateAligned
    (place : Placement)
    (active : Tier)
    (size align : Nat) :
    (place.allocateAligned size align).task? active =
      some (.allocate (place.tier active) size align) := by
  cases place <;> rfl

theorem errnoOf_ne_zero (err : RequestError) : errnoOf err ≠ 0 := by
  cases err with
  | outOfMemory =>
      exact (by decide : noMemory ≠ 0)
  | _ =>
      exact (by decide : invalidArgument ≠ 0)

theorem returns_of_refused
    {place : Placement}
    {answer : Answer}
    {code : Int}
    (reasons : ∀ errno, reason errno ↔ errno = code)
    (intact : process.Intact after)
    (answered : answer = .stored code none)
    (failed : code ≠ 0)
    (errno : after.errno =
      ProcessHeap.errnoAfter process.errno
        (process.session.engine.tiers.get (placed process place)).backend
        (after.session.engine.tiers.get (placed process place)).backend) :
    Returns process place reason answer after where
  failed_iff := iff_of_true ⟨code, none, answered, failed⟩ ⟨code, (reasons code).mpr rfl⟩
  refused other holds := ⟨intact, by rw [(reasons other).mp holds, answered]⟩
  errno _ := errno
  calm unreasoned := absurd ⟨code, (reasons code).mpr rfl⟩ unreasoned

include tacit in
theorem returns_posixMemalign
    (kept : process.Kept flight)
    {place : Placement}
    {stores : Bool}
    {align size : Nat}
    (abiding :
      Dealing.Abiding (invoke process (.posixMemalign place stores align size)).2.dealings) :
    Returns process place (Refused process (.posixMemalign place stores align size))
      (invoke process (.posixMemalign place stores align size)).1
      (invoke process (.posixMemalign place stores align size)).2 := by
  have asked := place.task?_allocateAligned (process.session.active process.thread) size align
  have ends := request_ends tacit kept asked
  have left := process.errno_allocate asked
  simp only [invoke, posixMemalign] at abiding ⊢
  by_cases storable : Storable stores align
  · have reasons (errno : Int) :
        Refused process (.posixMemalign place stores align size) errno ↔
          AllocationRefused process (placed process place) size align errno := by
      simp only [Refused, storable, not_true_eq_false, false_and, false_or, true_and]
    have condition : stores = true ∧ isPowerOfTwo align = true ∧ align % pointerSize = 0 ∧
        align ≤ pageSize := storable
    simp only [if_pos condition] at abiding ⊢
    generalize process.call (place.allocateAligned size align) = result at *
    obtain ⟨reply, called⟩ := result
    dsimp only at *
    have abidingOn : Dealing.Abiding called.dealings := by
      cases reply <;> exact abiding
    cases ends abidingOn with
    | @refused err _ refusals intact =>
        exact returns_of_refused (fun errno => (reasons errno).trans (refusals errno)) intact rfl
          (errnoOf_ne_zero err) left
    | served none positive errno =>
        have unreasoned :
            ¬∃ errno, Refused process (.posixMemalign place stores align size) errno := by
          rintro ⟨other, holds⟩
          exact none other ((reasons other).mp holds)
        refine ⟨iff_of_false ?_ unreasoned, fun other holds => absurd ⟨other, holds⟩ unreasoned,
          fun holds => absurd holds unreasoned, fun _ => errno⟩
        rintro ⟨code, addr, same, failed⟩
        cases same
        exact failed rfl
  · have condition : ¬(stores = true ∧ isPowerOfTwo align = true ∧ align % pointerSize = 0 ∧
        align ≤ pageSize) := storable
    simp only [if_neg condition]
    have reasons (errno : Int) :
        Refused process (.posixMemalign place stores align size) errno ↔
          errno = invalidArgument := by
      simp only [Refused, storable, not_false_eq_true, true_and, false_and, or_false]
    exact returns_of_refused reasons (.of_session rfl rfl) rfl (by decide)
      (ProcessHeap.errnoAfter_of_errnos_eq rfl _).symm

/-! ## All entry points -/

/-- The entry point allocates, resizes or releases. -/
def Entry.Manages : Entry → Prop
  | .malloc _ _ => True
  | .calloc _ _ _ => True
  | .realloc _ _ _ => True
  | .alignedAlloc _ _ _ => True
  | .posixMemalign _ _ _ _ => True
  | .free _ => True
  | .freeQuietly _ => True
  | _ => False

/-- What callers may rely on about a failure of an entry point in this state. -/
structure Disciplined
    (process : ProcessHeap (Recorder β))
    (entry : Entry) : Prop where
  /-- It fails for a reason, and always if there is one. -/
  failed_iff :
    Fails process (invoke process entry).1 entry ↔ ∃ errno, Refused process entry errno
  /-- A failure leaves blocks, free space, register and memory as they were. -/
  intact : ∀ errno, Refused process entry errno → process.Intact (invoke process entry).2
  /-- The error number is that of the reason. -/
  errno : (∀ place stores align size, entry ≠ .posixMemalign place stores align size) →
    ∀ errno, Refused process entry errno → (invoke process entry).2.errno = errno
  /-- `posixMemalign` returns that number and stores nothing; the thread finds what the backend
  of its tier has left. -/
  returned : ∀ place stores align size, entry = .posixMemalign place stores align size →
    ∀ errno, Refused process entry errno →
      (invoke process entry).1 = .stored errno none ∧
        (invoke process entry).2.errno =
          ProcessHeap.errnoAfter process.errno
            (process.session.engine.tiers.get (placed process place)).backend
            ((invoke process entry).2.session.engine.tiers.get (placed process place)).backend
  /-- A success leaves the error number alone. -/
  calm : ¬Fails process (invoke process entry).1 entry →
    (invoke process entry).2.errno = process.errno
  /-- A block that is resized to nothing is released. -/
  zeroed : ∀ place ptr block, entry = .realloc place ptr 0 → process.block? ptr = some block →
    (invoke process entry).1 = .pointer 0 ∧
      (invoke process entry).2.session.engine.table =
        (process.session.engine.table.remove ptr).2
  /-- If the tier is pinned, the register has no say. -/
  unselected : ∀ tier, entry.place? = some (.pinned tier) → ∀ other, process.Alike other →
    (invoke process entry).1 = (invoke other entry).1 ∧
      (invoke process entry).2.Alike (invoke other entry).2

theorem disciplined_of_heeds
    {entry : Entry}
    (heeds :
      Heeds (Refused process entry) (Fails process (invoke process entry).1 entry) process
        (invoke process entry).2)
    (setting : ∀ place stores align size, entry ≠ .posixMemalign place stores align size)
    (zeroed : ∀ place ptr block, entry = .realloc place ptr 0 → process.block? ptr = some block →
      (invoke process entry).1 = .pointer 0 ∧
        (invoke process entry).2.session.engine.table =
          (process.session.engine.table.remove ptr).2) :
    Disciplined process entry where
  failed_iff := heeds.failed_iff
  intact errno holds := (heeds.refused errno holds).1
  errno _ errno holds := (heeds.refused errno holds).2
  returned place stores align size same := absurd same (setting place stores align size)
  calm := heeds.calm
  zeroed := zeroed
  unselected _ pinned _ alike := alike_invoke_pinned alike pinned

theorem zeroed_realloc
    (kept : process.Kept flight)
    (place : Placement)
    {ptr : Nat}
    {block : Block}
    (found : process.block? ptr = some block) :
    (realloc process place ptr 0).1 = 0 ∧
      (realloc process place ptr 0).2.session.engine.table =
        (process.session.engine.table.remove ptr).2 := by
  have nonnull : ptr ≠ 0 := Nat.ne_of_gt (kept.addr_pos found)
  have table : (process.engine.2.call (.free ptr)).2.session.engine.table =
      (process.session.engine.table.remove ptr).2 := by
    rw [ProcessHeap.session_call, Session.table_free, process.session_engine]
  simp only [realloc, release, if_neg nonnull, if_true]
  refine ⟨trivial, ?_⟩
  split
  · rw [ProcessHeap.session_setErrno]
    exact table
  · exact table

end Abi

namespace ProcessHeap

open Abi

variable {β : Type} [Backend β]

/-- In every state that a process can be in, over backends that owe their dealings and leave an
error number only when they fail, the entry points that allocate, resize or release fail for
their reasons only, and cleanly. -/
theorem disciplined
    (tacit : Backend.Tacit β)
    {process : ProcessHeap (Recorder β)}
    (reached : process.Reached)
    {entry : Entry}
    (manages : entry.Manages)
    (abiding : Dealing.Abiding (invoke process entry).2.dealings) :
    Disciplined process entry := by
  obtain ⟨flight, kept⟩ := reached.kept
  have pointers (ptr : Nat) : Answer.pointer ptr = .pointer 0 ↔ ptr = 0 := by
    rw [Answer.pointer.injEq]
  cases entry with
  | malloc place size =>
      have heeds := heeds_allocating tacit kept (place.task?_allocate _ size) abiding
      exact disciplined_of_heeds (heeds.congr (fun _ => .rfl) (pointers _)) nofun nofun
  | alignedAlloc place align size =>
      have heeds := heeds_allocating tacit kept (place.task?_allocateAligned _ size align) abiding
      exact disciplined_of_heeds (heeds.congr (fun _ => .rfl) (pointers _)) nofun nofun
  | calloc place count size =>
      have heeds := heeds_calloc tacit kept abiding
      exact disciplined_of_heeds (heeds.congr (fun _ => .rfl) (pointers _)) nofun nofun
  | realloc place ptr size =>
      refine disciplined_of_heeds (heeds_realloc tacit kept abiding) nofun ?_
      rintro _ _ block ⟨⟩ found
      obtain ⟨null, table⟩ := zeroed_realloc kept place found
      exact ⟨congrArg Answer.pointer null, table⟩
  | free ptr =>
      have heeds := heeds_release tacit kept ptr
      refine disciplined_of_heeds (heeds.congr (fun _ => .rfl) ?_) nofun nofun
      exact Answer.int.injEq _ _ ▸ .rfl
  | freeQuietly ptr =>
      have heeds := heeds_release tacit kept ptr
      refine disciplined_of_heeds (heeds.congr (fun _ => .rfl) ?_) nofun nofun
      rw [heeds.failed_iff]
      exact ⟨fun ⟨nonnull, absent⟩ => ⟨_, nonnull, absent, rfl⟩,
        fun ⟨_, nonnull, absent, _⟩ => ⟨nonnull, absent⟩⟩
  | posixMemalign place stores align size =>
      have returns := returns_posixMemalign tacit kept abiding
      refine ⟨returns.failed_iff, fun errno holds => (returns.refused errno holds).1,
        fun setting => absurd rfl (setting _ _ _ _), ?_, fun succeeds => ?_, nofun,
        fun tier pinned other alike => alike_invoke_pinned alike pinned⟩
      · rintro _ _ _ _ ⟨⟩ errno holds
        exact ⟨(returns.refused errno holds).2, returns.errno ⟨errno, holds⟩⟩
      · exact returns.calm fun holds => succeeds (returns.failed_iff.mpr holds)
  | _ =>
      exact manages.elim

/-- A process over the memory of the system, which has not built its engine yet. -/
def mapping : ProcessHeap (Recorder SystemBackend) :=
  .initial
    { lookup := fun _ => none
      source := fun config tier => .start (SystemBackend.ofConfig config tier) }

theorem reached_mapping : (mapping.run [.call (.malloc .byMode 100)]).Reached := by
  refine Reached.run (.fresh (built_of_waiting SystemBackend.ofConfig rfl rfl)) ?_
  simp only [← List.mem_inits]
  decide +kernel

/-- The system has no room for as much, and the block that was there stays. -/
theorem disciplined_mapping :
    (invoke (mapping.run [.call (.malloc .byMode 100)]) (.malloc (.pinned .cxl) 34359738368)).1 =
        .pointer 0 ∧
      (mapping.run [.call (.malloc .byMode 100)]).Intact
        (invoke (mapping.run [.call (.malloc .byMode 100)])
          (.malloc (.pinned .cxl) 34359738368)).2 ∧
      (invoke (mapping.run [.call (.malloc .byMode 100)])
        (.malloc (.pinned .cxl) 34359738368)).2.errno = noMemory := by
  have behaves : Disciplined (mapping.run [.call (.malloc .byMode 100)])
      (.malloc (.pinned .cxl) 34359738368) :=
    disciplined SystemBackend.tacit reached_mapping trivial (by decide +kernel)
  have refused :
      Refused (mapping.run [.call (.malloc .byMode 100)]) (.malloc (.pinned .cxl) 34359738368)
        noMemory :=
    .inr
      ⟨⟨34359738368, .backend (.mapFailed 34359738368 12), by decide +kernel, by decide +kernel⟩,
        rfl⟩
  exact ⟨behaves.failed_iff.mpr ⟨_, refused⟩, behaves.intact _ refused,
    behaves.errno nofun _ refused⟩

/-- A process whose first segment is shorter than it was asked for. -/
def shortened : ProcessHeap (Recorder SimulatedBackend) :=
  .initial
    { lookup := fun _ => none
      source := fun _ _ =>
        .start { SimulatedBackend.upwards 65536 0 [] with plan := [.answer none (some 4096)] } }

/-- A mapping that fails leaves its number, which `posixMemalign` does not take back; and a
backend that lends too little has lent it although the request fails. -/
theorem failures_leave_traces :
    (invoke mapping (.posixMemalign .byMode true 8 4611686018427387904)).1 =
        .stored noMemory none ∧
      mapping.errno = 0 ∧
      (invoke mapping (.posixMemalign .byMode true 8 4611686018427387904)).2.errno = 12 ∧
      (invoke shortened (.malloc .byMode 100000)).1 = .pointer 0 ∧
      shortened.session.engine.tiers.host.arena.held = [] ∧
      (invoke shortened (.malloc .byMode 100000)).2.session.engine.tiers.host.arena.held =
        [⟨65536, 4096⟩] := by
  decide +kernel

end ProcessHeap

end TierHeap
