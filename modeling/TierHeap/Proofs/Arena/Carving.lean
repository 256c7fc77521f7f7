import TierHeap.Proofs.Arena.Joining
import TierHeap.Proofs.Granularity

/-!
# Carving requests

The search goes through the free ranges that are long enough, shortest first, and takes the
first one that can hold the aligned request.  It fails exactly if no free range can hold it
(`Tiled.findFit?_eq_none_iff`).  Carving takes the range out, splits it into a head, the
request and a tail, and puts head and tail back (`Tiled.carveAt`).
-/

namespace TierHeap

/-- An aligned request finds room in the range. -/
def Span.CanHold
    (span : Span)
    (reserved align : Nat) : Prop :=
  ∃ start, start % align = 0 ∧ span.start ≤ start ∧ start + reserved ≤ span.stop

theorem Span.CanHold.le_len
    {span : Span}
    {reserved align : Nat}
    (canHold : span.CanHold reserved align) :
    reserved ≤ span.len := by
  obtain ⟨start, -, after, room⟩ := canHold
  simp only [Span.stop] at room
  omega

/-- A range that starts on a granule holds a request aligned to less than a granule if it
holds the request at all. -/
theorem Span.canHold_granule_iff
    {span : Span}
    (startAligned : span.start % granule = 0)
    {align : Nat}
    (power : isPowerOfTwo align = true)
    (reserved : Nat) :
    span.CanHold reserved (max align granule) ↔ span.CanHold reserved align := by
  constructor
  · rintro ⟨start, aligned, after, room⟩
    have divides : align ∣ max align granule := dvd_max_granule power
    exact ⟨start, Nat.mod_eq_zero_of_dvd
      (Nat.dvd_trans divides (Nat.dvd_of_mod_eq_zero aligned)), after, room⟩
  · rintro ⟨start, aligned, after, room⟩
    by_cases large : granule ≤ align
    · rw [Nat.max_eq_left large]
      exact ⟨start, aligned, after, room⟩
    · rw [Nat.max_eq_right (Nat.le_of_not_le large)]
      exact ⟨span.start, startAligned, Nat.le_refl _, by omega⟩

/-- A segment starts on a page, so it holds what is not longer, whatever the alignment is. -/
theorem Segment.Placed.canHold
    {segment : Segment}
    (placed : segment.Placed)
    {reserved align : Nat}
    (fits : reserved ≤ segment.len)
    (power : isPowerOfTwo align = true)
    (small : align ≤ pageSize) :
    segment.span.CanHold reserved align := by
  obtain ⟨-, -, -, alignDivides⟩ := alignment_bounds power small
  have pageDivides : align ∣ pageSize := Nat.dvd_trans (dvd_max_granule power) alignDivides
  have baseAligned : segment.base % align = 0 :=
    Nat.mod_eq_zero_of_dvd
      (Nat.dvd_trans pageDivides (Nat.dvd_of_mod_eq_zero placed.base_aligned))
  exact ⟨segment.base, baseAligned, Nat.le_refl _, Nat.add_le_add_left fits _⟩

namespace Arena

/-- The fit places a request inside a free range, aligned. -/
structure FitsIn
    (arena : Arena)
    (reserved align : Nat)
    (fit : Fit) : Prop where
  free : arena.freeByAddr.find? fit.addr = some fit.len
  after : fit.addr ≤ fit.start
  room : fit.start + reserved ≤ fit.addr + fit.len
  aligned : fit.start % align = 0

/-- The request starts at the first multiple in the range found for it. -/
theorem findFit?_start
    {arena : Arena}
    {reserved align : Nat}
    {fit : Fit}
    (found : arena.findFit? reserved align = some fit) :
    nextMultiple? fit.addr align = some fit.start := by
  obtain ⟨range, -, fits⟩ := List.exists_of_findSome?_eq_some found
  unfold fitIn? at fits
  split at fits
  · cases fits
  · rename_i start multiple
    split at fits
    · cases fits
      exact multiple
    · cases fits

namespace Tiled

variable {arena : Arena} {outstanding : List Span}

/-- A held range leaves room for a page below it. -/
theorem page_le_start
    (tiled : arena.Tiled outstanding)
    {span : Span}
    (holds : arena.Holds span) :
    pageSize ≤ span.start := by
  obtain ⟨segment, member, within⟩ := holds.inside
  have placed := tiled.placed segment member
  have positive := placed.base_pos
  have aligned := placed.base_aligned
  have lower := within.1
  simp only [Segment.span, pageSize] at *
  omega

theorem fitIn?_eq_some
    (tiled : arena.Tiled outstanding)
    {reserved align : Nat}
    (positive : 0 < align)
    (small : align ≤ pageSize)
    {span : Span}
    (member : span ∈ arena.freeSpans)
    (longEnough : reserved ≤ span.len)
    {fit : Fit}
    (found : fitIn? reserved align ⟨span.len, span.start⟩ = some fit) :
    fit.addr = span.start ∧ fit.len = span.len ∧ arena.FitsIn reserved align fit := by
  have holds := tiled.free_inside span member
  have fits := tiled.stop_lt holds
  have below := tiled.page_le_start holds
  unfold fitIn? at found
  split at found
  · cases found
  · rename_i start multiple
    obtain ⟨after, near, aligned⟩ := nextMultiple?_bounds positive multiple
    simp only [pageSize] at after near small below
    split at found
    · rename_i enough
      cases found
      have sum : Word.add (start - span.start) reserved = start - span.start + reserved :=
        Word.add_eq (by omega)
      simp only [sum] at enough
      refine ⟨rfl, rfl, mem_freeSpans.mp member, after, ?_, aligned⟩
      simp only
      omega
    · cases found

theorem fitIn?_isSome_of_canHold
    (tiled : arena.Tiled outstanding)
    {reserved align : Nat}
    {span : Span}
    (member : span ∈ arena.freeSpans)
    (canHold : span.CanHold reserved align) :
    (fitIn? reserved align ⟨span.len, span.start⟩).isSome = true := by
  have fits := tiled.stop_lt (tiled.free_inside span member)
  obtain ⟨other, aligned, after, room⟩ := canHold
  simp only [Span.stop] at room
  obtain ⟨start, multiple, near⟩ := nextMultiple?_least after aligned (by omega)
  have sum : Word.add (start - span.start) reserved = start - span.start + reserved :=
    Word.add_eq (by omega)
  have enough : Word.add (start - span.start) reserved ≤ span.len := by
    rw [sum]
    omega
  simp only [fitIn?, multiple, enough, if_true, Option.isSome_some]

/-- The search considers every free range that can hold the request. -/
theorem mem_atLeast_of_canHold
    (tiled : arena.Tiled outstanding)
    {reserved align : Nat}
    {span : Span}
    (member : span ∈ arena.freeSpans)
    (canHold : span.CanHold reserved align) :
    (⟨span.len, span.start⟩ : SizedRange) ∈ arena.freeBySize.atLeast reserved :=
  (SizeIndex.mem_atLeast _ _ _).mpr ⟨(tiled.indexed span).mpr member, canHold.le_len⟩

/-- What the search finds lies in a free range. -/
theorem findFit?_eq_some
    (tiled : arena.Tiled outstanding)
    {reserved align : Nat}
    (positive : 0 < align)
    (small : align ≤ pageSize)
    {fit : Fit}
    (found : arena.findFit? reserved align = some fit) :
    arena.FitsIn reserved align fit := by
  obtain ⟨range, candidate, fits⟩ := List.exists_of_findSome?_eq_some found
  obtain ⟨len, start⟩ := range
  obtain ⟨indexed, longEnough⟩ := (SizeIndex.mem_atLeast _ _ _).mp candidate
  exact (tiled.fitIn?_eq_some positive small ((tiled.indexed ⟨start, len⟩).mp indexed)
    longEnough fits).2.2

/-- The search fails exactly if no free range can hold the request. -/
theorem findFit?_eq_none_iff
    (tiled : arena.Tiled outstanding)
    {reserved align : Nat}
    (positive : 0 < align)
    (small : align ≤ pageSize) :
    arena.findFit? reserved align = none ↔
      ∀ span ∈ arena.freeSpans, ¬span.CanHold reserved align := by
  rw [findFit?, List.findSome?_eq_none_iff]
  constructor
  · intro refused span member canHold
    have some := tiled.fitIn?_isSome_of_canHold member canHold
    rw [refused _ (tiled.mem_atLeast_of_canHold member canHold)] at some
    cases some
  · intro tooSmall range candidate
    obtain ⟨len, start⟩ := range
    obtain ⟨indexed, longEnough⟩ := (SizeIndex.mem_atLeast _ _ _).mp candidate
    have member := (tiled.indexed ⟨start, len⟩).mp indexed
    cases fits : fitIn? reserved align ⟨len, start⟩ with
    | none =>
        rfl
    | some fit =>
        obtain ⟨sameAddr, sameLen, placed⟩ :=
          tiled.fitIn?_eq_some positive small member longEnough fits
        have after := placed.after
        have room := placed.room
        simp only at sameAddr sameLen
        refine absurd ⟨fit.start, placed.aligned, ?_, ?_⟩ (tooSmall _ member)
        · simp only
          omega
        · simp only [Span.stop]
          omega

/-- Put the head of an outstanding range back, if it has one. -/
theorem putHead
    {addr start stop : Nat}
    (tiled : arena.Tiled (⟨addr, stop - addr⟩ :: outstanding))
    (clearBelow : arena.ClearBelow addr)
    (after : addr ≤ start)
    (before : start < stop)
    (aligned : start % granule = 0) :
    (if addr < start then arena.addRange addr (start - addr) else arena).Tiled
      (⟨start, stop - start⟩ :: outstanding) := by
  split
  · rename_i hasHead
    have startAligned := (tiled.outstanding_inside _ List.mem_cons_self).start_aligned
    have whole : stop - addr = start - addr + (stop - start) := by omega
    rw [whole] at tiled
    have divided := tiled.split (by omega) (by omega) (by simp only [granule] at *; omega)
    rw [Nat.add_sub_cancel' after] at divided
    apply divided.put clearBelow
    intro free freeMember starts
    -- The request itself starts there, so no free range does.
    have inFree := Span.has_start _ (divided.free_inside free freeMember).nonempty
    have inRequest : (⟨start, stop - start⟩ : Span).has free.start = true := by
      simp only [Span.has_iff]
      omega
    exact absurd inRequest
      (divided.free_not_outstanding freeMember (List.mem_cons_of_mem _ List.mem_cons_self)
        inFree)
  · rename_i noHead
    have same : start = addr := Nat.le_antisymm (Nat.le_of_not_lt noHead) after
    subst same
    exact tiled

/-- Put the tail of an outstanding range back, if it has one. -/
theorem putTail
    {start reserved stop : Nat}
    (tiled : arena.Tiled (⟨start, stop - start⟩ :: outstanding))
    (clearAbove : arena.ClearAbove stop)
    (positive : 0 < reserved)
    (aligned : reserved % granule = 0)
    (room : start + reserved ≤ stop) :
    (if 0 < stop - (start + reserved) then
        arena.addRange (start + reserved) (stop - (start + reserved))
      else
        arena).Tiled (⟨start, reserved⟩ :: outstanding) := by
  split
  · rename_i hasTail
    have whole : stop - start = reserved + (stop - (start + reserved)) := by omega
    rw [whole] at tiled
    have divided := (tiled.split positive hasTail aligned).perm (.swap _ _ _)
    apply divided.put
    · intro free freeMember ends
      -- The request itself ends there, so no free range does.
      have freeNonempty := (divided.free_inside free freeMember).nonempty
      simp only [Span.stop] at ends
      have inFree : free.has (start + reserved - 1) = true := by
        rw [Span.has_iff]
        omega
      have inRequest : (⟨start, reserved⟩ : Span).has (start + reserved - 1) = true := by
        simp only [Span.has_iff]
        omega
      exact absurd inRequest
        (divided.free_not_outstanding freeMember (List.mem_cons_of_mem _ List.mem_cons_self)
          inFree)
    · have ends : start + reserved + (stop - (start + reserved)) = stop := by omega
      rw [ends]
      exact clearAbove
  · rename_i noTail
    have same : stop - start = reserved := by omega
    rw [same] at tiled
    exact tiled

theorem carveAt
    (tiled : arena.Tiled outstanding)
    {reserved align : Nat}
    (positive : 0 < reserved)
    (wholeGranules : reserved % granule = 0)
    (granuleAligned : granule ∣ align)
    {fit : Fit}
    (fits : arena.FitsIn reserved align fit) :
    (arena.carveAt reserved fit).Tiled (⟨fit.start, reserved⟩ :: outstanding) := by
  obtain ⟨found, after, room, aligned⟩ := fits
  have free : (⟨fit.addr, fit.len⟩ : Span) ∈ arena.freeSpans := mem_freeSpans.mpr found
  have bound := tiled.stop_lt (tiled.free_inside _ free)
  simp only at bound
  have startAligned : fit.start % granule = 0 :=
    Nat.mod_eq_zero_of_dvd (Nat.dvd_trans granuleAligned (Nat.dvd_of_mod_eq_zero aligned))
  have kept : ∀ other ∈ (arena.dropRange fit.addr fit.len).freeSpans,
      other ∈ arena.freeSpans := fun other member =>
    (freeSpans_dropRange_perm found).mem_iff.mpr (List.mem_cons_of_mem _ member)
  have taken := tiled.take found
  have whole : fit.len = fit.addr + fit.len - fit.addr := by omega
  have clearBelow : (arena.dropRange fit.addr fit.len).ClearBelow fit.addr :=
    fun other member ends => tiled.maximal other (kept other member) _ free ends
  rw [show (⟨fit.addr, fit.len⟩ : Span) = ⟨fit.addr, fit.addr + fit.len - fit.addr⟩ by
    rw [← whole]] at taken
  have headed := taken.putHead clearBelow after (by omega) startAligned
  have clearAbove :
      (if fit.addr < fit.start then
          (arena.dropRange fit.addr fit.len).addRange fit.addr (fit.start - fit.addr)
        else
          arena.dropRange fit.addr fit.len).ClearAbove (fit.addr + fit.len) := by
    have dropped : (arena.dropRange fit.addr fit.len).ClearAbove (fit.addr + fit.len) := by
      intro other member starts
      rw [starts]
      exact tiled.maximal _ free other (kept other member) starts
    split
    · intro other member starts
      have entry := mem_freeSpans.mp member
      simp only [addRange, NatMap.find?_insert] at entry
      have later : other.start ≠ fit.addr := by omega
      rw [if_neg later] at entry
      exact dropped other (mem_freeSpans.mpr entry) starts
    · exact dropped
  have stop : Word.add fit.start reserved = fit.start + reserved := Word.add_eq (by omega)
  have tail :
      Word.sub (Word.add fit.addr fit.len) (fit.start + reserved) =
        fit.addr + fit.len - (fit.start + reserved) := by
    rw [Word.add_eq bound, Word.sub_eq room bound]
  simp only [Arena.carveAt, stop, tail]
  exact
    (headed.putTail clearAbove positive wholeGranules room).transport (by rfl) (by rfl)
      (by rfl) (.refl _)

end Tiled

end Arena

end TierHeap
