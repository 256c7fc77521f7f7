import TierHeap.Proofs.Arena.Accounting

/-!
# Arenas whose sums are checked

Each operation of an arena that adds or subtracts has a form here that gives up, with `none`,
where a sum or a difference is no machine word, where the operation itself would wrap around or
stop at zero.  On an arena that is consistent with the ranges its callers hold none of them gives
up, at the very end of the address space as anywhere else.

What the operations count of events is left as it is: the growths, the refused growths and the
segments let go add one at a time to counters that no sum of addresses or lengths reaches.
-/

namespace TierHeap

def Segment.stopChecked? (segment : Segment) : Option Nat :=
  Word.addChecked? segment.base segment.len

namespace Arena

def segmentOfChecked?
    (arena : Arena)
    (addr : Nat) : Option (Option Segment) :=
  match arena.segments.atOrBelow? addr with
  | none => some none
  | some (base, len) => do
      let stop ← (Segment.mk base len).stopChecked?
      some (if base ≤ addr && addr < stop then some ⟨base, len⟩ else none)

theorem Laid.stopChecked?_eq
    {arena : Arena}
    (laid : arena.Laid)
    {segment : Segment}
    (member : segment ∈ arena.held) :
    segment.stopChecked? = some segment.stop := by
  rw [laid.segment_stop member]
  exact Word.addChecked?_of_lt (laid.fits segment member)

theorem Laid.segmentOfChecked?_eq
    {arena : Arena}
    (laid : arena.Laid)
    (addr : Nat) :
    arena.segmentOfChecked? addr = some (arena.segmentOf? addr) := by
  rw [segmentOfChecked?, segmentOf?]
  cases below : arena.segments.atOrBelow? addr with
  | none =>
      rfl
  | some entry =>
      obtain ⟨base, len⟩ := entry
      have member : (⟨base, len⟩ : Segment) ∈ arena.held := by
        rw [NatMap.atOrBelow?_eq_below?] at below
        exact mem_held.mpr ((arena.segments.below?_eq_some_iff _).mp below).1
      dsimp only
      rw [laid.stopChecked?_eq member]
      rfl

def joinBelowChecked?
    (arena : Arena)
    (segment : Segment)
    (addr len : Nat) : Option (Arena × Nat × Nat) :=
  match arena.freeByAddr.below? addr with
  | none => some (arena, addr, len)
  | some (below, belowLen) => do
      let stop ← Word.addChecked? below belowLen
      if stop = addr ∧ segment.base ≤ below then do
        let joined ← Word.addChecked? len belowLen
        some (arena.dropRange below belowLen, below, joined)
      else
        some (arena, addr, len)

def joinAboveChecked?
    (arena : Arena)
    (segment : Segment)
    (addr len : Nat) : Option (Arena × Nat) := do
  let next ← Word.addChecked? addr len
  let stop ← segment.stopChecked?
  if next < stop then
    match arena.freeByAddr.find? next with
    | none => some (arena, len)
    | some nextLen => do
        let joined ← Word.addChecked? len nextLen
        some (arena.dropRange next nextLen, joined)
  else
    some (arena, len)

def insertFreeChecked?
    (arena : Arena)
    (addr len : Nat) : Option Arena := do
  match ← arena.segmentOfChecked? addr with
  | none => none
  | some segment => do
      let (arena, addr, len) ← arena.joinBelowChecked? segment addr len
      let (arena, len) ← arena.joinAboveChecked? segment addr len
      some (arena.addRange addr len)

namespace Tiled

variable {arena : Arena} {outstanding : List Span}

theorem joinBelowChecked?_eq
    {addr len : Nat}
    (tiled : arena.Tiled (⟨addr, len⟩ :: outstanding))
    (segment : Segment) :
    arena.joinBelowChecked? segment addr len = some (arena.joinBelow segment addr len) := by
  have fits := tiled.stop_lt (tiled.outstanding_inside _ List.mem_cons_self)
  rw [Arena.joinBelowChecked?, Arena.joinBelow]
  cases below : arena.freeByAddr.below? addr with
  | none =>
      rfl
  | some entry =>
      obtain ⟨start, belowLen⟩ := entry
      have free : (⟨start, belowLen⟩ : Span) ∈ arena.freeSpans :=
        mem_freeSpans.mpr ((arena.freeByAddr.below?_eq_some_iff _).mp below).1
      have belowFits := tiled.stop_lt (tiled.free_inside _ free)
      simp only at fits belowFits
      simp only [Option.bind_eq_bind, Word.addChecked?_of_lt belowFits, Option.bind_some,
        Word.add_eq belowFits]
      split
      · rename_i touches
        have joined : len + belowLen < Word.bound := by omega
        rw [Word.addChecked?_of_lt joined, Word.add_eq joined]
        rfl
      · rfl

theorem joinAboveChecked?_eq
    {addr len : Nat}
    (tiled : arena.Tiled (⟨addr, len⟩ :: outstanding))
    {segment : Segment}
    (member : segment ∈ arena.held) :
    arena.joinAboveChecked? segment addr len = some (arena.joinAbove segment addr len) := by
  have fits := tiled.stop_lt (tiled.outstanding_inside _ List.mem_cons_self)
  simp only at fits
  simp only [Arena.joinAboveChecked?, Arena.joinAbove, Option.bind_eq_bind,
    Word.addChecked?_of_lt fits, Option.bind_some, Word.add_eq fits,
    tiled.laid.stopChecked?_eq member]
  split
  · cases found : arena.freeByAddr.find? (addr + len) with
    | none =>
        rfl
    | some nextLen =>
        have free : (⟨addr + len, nextLen⟩ : Span) ∈ arena.freeSpans := mem_freeSpans.mpr found
        have nextFits := tiled.stop_lt (tiled.free_inside _ free)
        simp only at nextFits
        have joined : len + nextLen < Word.bound := by omega
        dsimp only
        rw [Word.addChecked?_of_lt joined, Word.add_eq joined]
        rfl
  · rfl

theorem insertFreeChecked?_eq
    {addr len : Nat}
    (tiled : arena.Tiled (⟨addr, len⟩ :: outstanding)) :
    arena.insertFreeChecked? addr len = some (arena.insertFree addr len) := by
  obtain ⟨segment, member, found, within⟩ :=
    tiled.exists_segmentOf? (tiled.outstanding_inside _ List.mem_cons_self)
  obtain ⟨below, addr', len', belowEq, belowTiled, -, -⟩ := tiled.joinBelow member within
  have belowMember : segment ∈ below.held := by
    have frame := sameFrame_joinBelow arena segment addr len
    rw [belowEq] at frame
    exact frame.held_eq ▸ member
  simp only at found
  simp only [Arena.insertFreeChecked?, Arena.insertFree, Option.bind_eq_bind,
    tiled.laid.segmentOfChecked?_eq, found, Option.bind_some, tiled.joinBelowChecked?_eq,
    belowEq, belowTiled.joinAboveChecked?_eq belowMember]

end Tiled

def fitInChecked?
    (reserved align : Nat)
    (range : SizedRange) : Option (Option Fit) :=
  match nextMultiple? range.start align with
  | none => some none
  | some start => do
      let lead ← Word.subChecked? start range.start
      let needed ← Word.addChecked? lead reserved
      some (if needed ≤ range.len then some ⟨range.start, range.len, start⟩ else none)

def searchChecked?
    (reserved align : Nat) : List SizedRange → Option (Option Fit)
  | [] => some none
  | range :: rest => do
      match ← fitInChecked? reserved align range with
      | some fit => some (some fit)
      | none => searchChecked? reserved align rest

def findFitChecked?
    (arena : Arena)
    (reserved align : Nat) : Option (Option Fit) :=
  searchChecked? reserved align (arena.freeBySize.atLeast reserved)

def putHeadChecked?
    (arena : Arena)
    (fit : Fit) : Option Arena :=
  if fit.addr < fit.start then do
    let head ← Word.subChecked? fit.start fit.addr
    some (arena.addRange fit.addr head)
  else
    some arena

def carveAtChecked?
    (arena : Arena)
    (reserved : Nat)
    (fit : Fit) : Option Arena := do
  let headed ← (arena.dropRange fit.addr fit.len).putHeadChecked? fit
  let rangeStop ← Word.addChecked? fit.addr fit.len
  let stop ← Word.addChecked? fit.start reserved
  let tail ← Word.subChecked? rangeStop stop
  let inUse ← Word.addChecked? arena.inUse reserved
  let live ← Word.addChecked? arena.live 1
  let tailed := if 0 < tail then headed.addRange stop tail else headed
  some { tailed with inUse := inUse, live := live }

def carveChecked?
    (arena : Arena)
    (reserved align : Nat) : Option (Option (Nat × Arena)) := do
  match ← arena.findFitChecked? reserved align with
  | none => some none
  | some fit => do
      let carved ← arena.carveAtChecked? reserved fit
      some (some (fit.start, carved))

def freeChecked?
    (arena : Arena)
    (addr reserved : Nat) : Option Arena := do
  let inUse ← Word.subChecked? arena.inUse reserved
  let live ← Word.subChecked? arena.live 1
  { arena with inUse := inUse, live := live }.insertFreeChecked? addr reserved

def shrinkChecked?
    (arena : Arena)
    (addr oldReserved newReserved : Nat) : Option Arena := do
  let released ← Word.subChecked? oldReserved newReserved
  let inUse ← Word.subChecked? arena.inUse released
  let start ← Word.addChecked? addr newReserved
  { arena with inUse := inUse }.insertFreeChecked? start released

def takeNextChecked?
    (arena : Arena)
    (next nextLen needed : Nat) : Option Arena := do
  let dropped := arena.dropRange next nextLen
  let taken ←
    if needed < nextLen then do
      let start ← Word.addChecked? next needed
      let rest ← Word.subChecked? nextLen needed
      some (dropped.addRange start rest)
    else
      some dropped
  let inUse ← Word.addChecked? taken.inUse needed
  some { taken with inUse := inUse }

def enlargeChecked?
    (arena : Arena)
    (addr oldReserved newReserved : Nat) : Option (Option Arena) := do
  let needed ← Word.subChecked? newReserved oldReserved
  let next ← Word.addChecked? addr oldReserved
  match ← arena.segmentOfChecked? addr with
  | none => some none
  | some segment => do
      let stop ← segment.stopChecked?
      if stop ≤ next then
        some none
      else
        match arena.freeByAddr.find? next with
        | none => some none
        | some nextLen =>
            if nextLen < needed then
              some none
            else
              (arena.takeNextChecked? next nextLen needed).map some

def resizeChecked?
    (arena : Arena)
    (addr oldReserved newReserved : Nat) : Option (Option Arena) :=
  if newReserved = oldReserved then
    some (some arena)
  else if newReserved < oldReserved then
    (arena.shrinkChecked? addr oldReserved newReserved).map some
  else
    arena.enlargeChecked? addr oldReserved newReserved

def adoptChecked?
    (arena : Arena)
    (segment : Segment) : Option Arena := do
  let committed ← Word.addChecked? arena.committed segment.len
  let held :=
    { arena with
      segments := arena.segments.insert segment.base segment.len
      committed := committed
      peakCommitted := max arena.peakCommitted committed
      growths := arena.growths + 1
      newest := some segment }
  some (held.addRange segment.base segment.len)

def letGoChecked?
    (arena : Arena)
    (segment : Segment) : Option Arena := do
  let dropped := arena.dropRange segment.base segment.len
  let committed ← Word.subChecked? dropped.committed segment.len
  some
    { dropped with
      segments := dropped.segments.erase segment.base
      committed := committed
      releasedSegments := dropped.releasedSegments + 1 }

def freeBytesChecked? (arena : Arena) : Option Nat :=
  Word.sumChecked? arena.freeByAddr.values

/-! ## Nothing is given up -/

theorem putHeadChecked?_eq
    (arena : Arena)
    (fit : Fit) :
    arena.putHeadChecked? fit =
      some
        (if fit.addr < fit.start then arena.addRange fit.addr (fit.start - fit.addr)
        else arena) := by
  rw [putHeadChecked?]
  split
  · rename_i before
    rw [Word.subChecked?_of_le (Nat.le_of_lt before)]
    rfl
  · rfl

namespace Tiled

variable {arena : Arena} {outstanding : List Span}

theorem fitInChecked?_eq
    (tiled : arena.Tiled outstanding)
    {reserved align : Nat}
    (positive : 0 < align)
    (small : align ≤ pageSize)
    {span : Span}
    (member : span ∈ arena.freeSpans)
    (longEnough : reserved ≤ span.len) :
    fitInChecked? reserved align ⟨span.len, span.start⟩ =
      some (fitIn? reserved align ⟨span.len, span.start⟩) := by
  have holds := tiled.free_inside span member
  have fits := tiled.stop_lt holds
  have below := tiled.page_le_start holds
  rw [fitInChecked?, fitIn?]
  cases multiple : nextMultiple? span.start align with
  | none =>
      rfl
  | some start =>
      obtain ⟨after, near, -⟩ := nextMultiple?_bounds positive multiple
      have lead : start - span.start + reserved < Word.bound := by
        simp only [pageSize] at small below
        omega
      simp only [Option.bind_eq_bind, Word.subChecked?_of_le after, Option.bind_some,
        Word.addChecked?_of_lt lead, Word.add_eq lead]

theorem findFitChecked?_eq
    (tiled : arena.Tiled outstanding)
    {reserved align : Nat}
    (positive : 0 < align)
    (small : align ≤ pageSize) :
    arena.findFitChecked? reserved align = some (arena.findFit? reserved align) := by
  have candidates : ∀ range ∈ arena.freeBySize.atLeast reserved,
      fitInChecked? reserved align range = some (fitIn? reserved align range) := by
    rintro ⟨len, start⟩ candidate
    obtain ⟨indexed, longEnough⟩ := (SizeIndex.mem_atLeast _ _ _).mp candidate
    exact tiled.fitInChecked?_eq positive small ((tiled.indexed ⟨start, len⟩).mp indexed)
      longEnough
  rw [findFitChecked?, findFit?]
  generalize arena.freeBySize.atLeast reserved = ranges at candidates
  induction ranges with
  | nil =>
      rfl
  | cons range rest inductionHypothesis =>
      obtain ⟨first, others⟩ := List.forall_mem_cons.mp candidates
      rw [searchChecked?, first, List.findSome?_cons]
      cases fitIn? reserved align range with
      | none =>
          exact inductionHypothesis others
      | some fit =>
          rfl

/-- A free range whose start cannot be rounded up to the alignment cannot hold any request. -/
theorem not_canHold_of_nextMultiple?_eq_none
    (tiled : arena.Tiled outstanding)
    {span : Span}
    (member : span ∈ arena.freeSpans)
    {align : Nat}
    (beyond : nextMultiple? span.start align = none)
    (reserved : Nat) :
    ¬span.CanHold reserved align := by
  have fits := tiled.stop_lt (tiled.free_inside span member)
  rintro ⟨start, aligned, after, room⟩
  rw [Span.stop] at room
  obtain ⟨first, multiple, -⟩ := nextMultiple?_least after aligned (by omega)
  rw [beyond] at multiple
  cases multiple

end Tiled

namespace Consistent

variable {arena : Arena} {outstanding : List Span}

/-- With a free range there is room for its bytes and for one more range beside what callers
hold. -/
theorem room
    (consistent : arena.Consistent outstanding)
    {span : Span}
    (member : span ∈ arena.freeSpans) :
    arena.inUse + span.len < Word.bound ∧ arena.live + 1 < Word.bound := by
  have free := Span.len_le_total member
  have nonempty := (consistent.tiled.free_inside span member).nonempty
  have shorter := Span.length_le_total fun held heldMember =>
    (consistent.tiled.outstanding_inside held heldMember).nonempty
  have whole := consistent.tiled.total_eq
  have bound := consistent.tiled.total_held_lt
  rw [consistent.inUse, consistent.live]
  omega

theorem carveAtChecked?_eq
    (consistent : arena.Consistent outstanding)
    {reserved align : Nat}
    {fit : Fit}
    (fits : arena.FitsIn reserved align fit) :
    arena.carveAtChecked? reserved fit = some (arena.carveAt reserved fit) := by
  have free : (⟨fit.addr, fit.len⟩ : Span) ∈ arena.freeSpans := mem_freeSpans.mpr fits.free
  have rangeStop := consistent.tiled.stop_lt (consistent.tiled.free_inside _ free)
  obtain ⟨bytes, live⟩ := consistent.room free
  simp only at rangeStop bytes
  have after := fits.after
  have room := fits.room
  have stop : fit.start + reserved < Word.bound := Nat.lt_of_le_of_lt room rangeStop
  have inUse : arena.inUse + reserved < Word.bound := by omega
  simp only [carveAtChecked?, Arena.carveAt, putHeadChecked?_eq, Option.bind_eq_bind,
    Option.bind_some, Word.addChecked?_of_lt rangeStop, Word.addChecked?_of_lt stop,
    Word.subChecked?_of_le room, Word.addChecked?_of_lt inUse, Word.addChecked?_of_lt live,
    Word.add_eq rangeStop, Word.add_eq stop, Word.sub_eq room rangeStop]
  split <;> split <;> simp [dropRange, addRange, Word.add_eq inUse]

theorem carveChecked?_eq
    (consistent : arena.Consistent outstanding)
    {reserved align : Nat}
    (positive : 0 < align)
    (small : align ≤ pageSize) :
    arena.carveChecked? reserved align = some (arena.carve? reserved align) := by
  simp only [carveChecked?, carve?, consistent.tiled.findFitChecked?_eq positive small,
    Option.bind_eq_bind, Option.bind_some]
  cases found : arena.findFit? reserved align with
  | none =>
      rfl
  | some fit =>
      have fits := consistent.tiled.findFit?_eq_some positive small found
      simp only [consistent.carveAtChecked?_eq fits, Option.bind_some, Option.map_some]

theorem freeChecked?_eq
    {addr reserved : Nat}
    (consistent : arena.Consistent (⟨addr, reserved⟩ :: outstanding)) :
    arena.freeChecked? addr reserved = some (arena.free addr reserved) := by
  have inUse : reserved ≤ arena.inUse := by
    rw [consistent.inUse, Span.total_cons]
    exact Nat.le_add_right _ _
  have live : 1 ≤ arena.live := by
    rw [consistent.live, List.length_cons]
    exact Nat.le_add_left _ _
  have counted :
      { arena with inUse := arena.inUse - reserved, live := arena.live - 1 }.Tiled
        (⟨addr, reserved⟩ :: outstanding) :=
    consistent.tiled.transport (by rfl) (by rfl) (by rfl) (.refl _)
  simp only [freeChecked?, Arena.free, Word.subChecked?_of_le inUse, Word.subChecked?_of_le live,
    Option.bind_eq_bind, Option.bind_some, counted.insertFreeChecked?_eq]

theorem shrinkChecked?_eq
    {addr oldReserved newReserved : Nat}
    (consistent : arena.Consistent (⟨addr, oldReserved⟩ :: outstanding))
    (positive : 0 < newReserved)
    (aligned : newReserved % granule = 0)
    (smaller : newReserved < oldReserved) :
    (arena.shrinkChecked? addr oldReserved newReserved).map some =
      some (arena.resize? addr oldReserved newReserved) := by
  have fits := consistent.tiled.stop_lt
    (consistent.tiled.outstanding_inside _ List.mem_cons_self)
  have bound := consistent.tiled.total_outstanding_lt
  have counted := consistent.inUse
  rw [Span.total_cons] at bound counted
  simp only at fits bound counted
  have start : addr + newReserved < Word.bound := by omega
  have released : oldReserved - newReserved ≤ arena.inUse := by omega
  have inUse : arena.inUse < Word.bound := by omega
  -- The range is outstanding in two parts before the second one is returned.
  have whole : oldReserved = newReserved + (oldReserved - newReserved) := by omega
  have tiled := consistent.tiled
  rw [whole] at tiled
  have divided :
      { arena with inUse := arena.inUse - (oldReserved - newReserved) }.Tiled
        (⟨addr + newReserved, oldReserved - newReserved⟩ :: ⟨addr, newReserved⟩ ::
          outstanding) :=
    (tiled.split positive (by omega) aligned).transport (by rfl) (by rfl) (by rfl) (.swap _ _ _)
  rw [Arena.resize?, if_neg (Nat.ne_of_lt smaller), if_pos smaller]
  simp only [shrinkChecked?, Word.subChecked?_of_le (Nat.le_of_lt smaller),
    Word.subChecked?_of_le released, Word.addChecked?_of_lt start, Option.bind_eq_bind,
    Option.bind_some, divided.insertFreeChecked?_eq, Option.map_some,
    Word.sub_eq released inUse, Word.add_eq start]

theorem takeNextChecked?_eq
    (consistent : arena.Consistent outstanding)
    {next nextLen needed : Nat}
    (found : arena.freeByAddr.find? next = some nextLen)
    (enough : needed ≤ nextLen) :
    arena.takeNextChecked? next nextLen needed =
      some
        (let taken :=
          if needed < nextLen then
            (arena.dropRange next nextLen).addRange (Word.add next needed) (nextLen - needed)
          else
            arena.dropRange next nextLen
        { taken with inUse := Word.add taken.inUse needed }) := by
  have free : (⟨next, nextLen⟩ : Span) ∈ arena.freeSpans := mem_freeSpans.mpr found
  have fits := consistent.tiled.stop_lt (consistent.tiled.free_inside _ free)
  have bytes := (consistent.room free).1
  simp only at fits bytes
  have start : next + needed < Word.bound := by omega
  have inUse : arena.inUse + needed < Word.bound := by omega
  simp only [takeNextChecked?, Word.addChecked?_of_lt start, Word.subChecked?_of_le enough,
    Word.add_eq start, Option.bind_eq_bind, Option.bind_some]
  split <;> simp [dropRange, addRange, Word.addChecked?_of_lt inUse, Word.add_eq inUse]

theorem enlargeChecked?_eq
    {addr oldReserved newReserved : Nat}
    (consistent : arena.Consistent (⟨addr, oldReserved⟩ :: outstanding))
    (larger : oldReserved < newReserved) :
    arena.enlargeChecked? addr oldReserved newReserved =
      some (arena.resize? addr oldReserved newReserved) := by
  have next := consistent.tiled.stop_lt
    (consistent.tiled.outstanding_inside _ List.mem_cons_self)
  simp only at next
  rw [Arena.resize?, if_neg (Nat.ne_of_gt larger), if_neg (Nat.lt_asymm larger)]
  simp only [enlargeChecked?, Word.subChecked?_of_le (Nat.le_of_lt larger),
    Word.addChecked?_of_lt next, Word.add_eq next, Option.bind_eq_bind, Option.bind_some,
    consistent.tiled.laid.segmentOfChecked?_eq]
  cases ofAddr : arena.segmentOf? addr with
  | none =>
      rfl
  | some segment =>
      have member := (consistent.tiled.segmentOf?_eq_some_iff.mp ofAddr).1
      simp only [consistent.tiled.laid.stopChecked?_eq member, Option.bind_some]
      split
      · rfl
      · cases found : arena.freeByAddr.find? (addr + oldReserved) with
        | none =>
            rfl
        | some nextLen =>
            dsimp only
            split
            · rfl
            · rename_i enough
              rw [consistent.takeNextChecked?_eq found (Nat.le_of_not_lt enough)]
              rfl

theorem resizeChecked?_eq
    {addr oldReserved newReserved : Nat}
    (consistent : arena.Consistent (⟨addr, oldReserved⟩ :: outstanding))
    (positive : 0 < newReserved)
    (aligned : newReserved % granule = 0) :
    arena.resizeChecked? addr oldReserved newReserved =
      some (arena.resize? addr oldReserved newReserved) := by
  rw [resizeChecked?]
  split
  · rename_i same
    rw [Arena.resize?, if_pos same]
  · rename_i different
    split
    · rename_i smaller
      exact consistent.shrinkChecked?_eq positive aligned smaller
    · exact consistent.enlargeChecked?_eq (by omega)

theorem adoptChecked?_eq
    (consistent : arena.Consistent outstanding)
    {segment : Segment}
    (placed : segment.Placed)
    (apart : ∀ held ∈ arena.held, segment.span.Apart held.span) :
    arena.adoptChecked? segment = some (arena.adopt segment) := by
  have after := (consistent.tiled.adopt placed apart).total_held_lt
  rw [← (consistent.adopt placed apart).committed,
    consistent.committed_adopt placed apart] at after
  simp only [adoptChecked?, Arena.adopt, Word.addChecked?_of_lt after, Word.add_eq after,
    Option.bind_eq_bind, Option.bind_some]

theorem committed_lt (consistent : arena.Consistent outstanding) :
    arena.committed < Word.bound := by
  rw [consistent.committed]
  exact consistent.tiled.total_held_lt

theorem len_le_committed
    (consistent : arena.Consistent outstanding)
    {segment : Segment}
    (member : segment ∈ arena.held) :
    segment.len ≤ arena.committed := by
  rw [consistent.committed]
  exact Span.len_le_total (span_mem_heldSpans member)

/-- What is let go and what is still held make up what was held. -/
theorem len_add_committed_letGo
    (consistent : arena.Consistent outstanding)
    {segment : Segment}
    (member : segment ∈ arena.held) :
    segment.len + (arena.letGo segment).committed = arena.committed := by
  have part := consistent.len_le_committed member
  have difference : (arena.letGo segment).committed = arena.committed - segment.len :=
    Word.sub_eq part consistent.committed_lt
  omega

theorem letGoChecked?_eq
    (consistent : arena.Consistent outstanding)
    {segment : Segment}
    (member : segment ∈ arena.held) :
    arena.letGoChecked? segment = some (arena.letGo segment) := by
  have part : segment.len ≤ (arena.dropRange segment.base segment.len).committed :=
    consistent.len_le_committed member
  have bound : (arena.dropRange segment.base segment.len).committed < Word.bound :=
    consistent.committed_lt
  simp only [letGoChecked?, Arena.letGo, Word.subChecked?_of_le part, Word.sub_eq part bound,
    Option.bind_eq_bind, Option.bind_some]

theorem freeBytesChecked?_eq (consistent : arena.Consistent outstanding) :
    arena.freeBytesChecked? = some arena.freeBytes := by
  have whole := consistent.tiled.total_eq
  have bound := consistent.tiled.total_held_lt
  have values : arena.freeByAddr.values.sum = Span.total arena.freeSpans := by
    rw [freeSpans, Span.total, NatMap.values, List.map_map]
    rfl
  exact Word.sumChecked?_eq (by omega)

end Consistent

end Arena

end TierHeap
