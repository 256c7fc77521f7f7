import TierHeap.Proofs.Arena.Carving

/-!
# Operations on the tiling

Returning and resizing a range, taking a segment in and letting an idle one go, as moves on
the tiling.  None of them touches a figure other than those it is about (`SameFrame`).
-/

namespace TierHeap.Arena

namespace Tiled

variable {arena : Arena} {outstanding : List Span}

theorem held_insert_perm
    {segment : Segment}
    (absent : arena.segments.find? segment.base = none) :
    ((arena.segments.insert segment.base segment.len).entries.map fun entry =>
        (⟨entry.1, entry.2⟩ : Segment)).Perm (segment :: arena.held) :=
  (NatMap.entries_insert_perm absent segment.len).map _

theorem held_erase_perm
    {segment : Segment}
    (member : segment ∈ arena.held) :
    arena.held.Perm
      (segment ::
        (arena.segments.erase segment.base).entries.map fun entry => ⟨entry.1, entry.2⟩) :=
  (NatMap.entries_erase_perm (mem_held.mp member)).map _

/-- A segment apart from the others enters the tiling as an outstanding range. -/
theorem extend
    (tiled : arena.Tiled outstanding)
    {segment : Segment}
    (placed : segment.Placed)
    (apart : ∀ held ∈ arena.held, segment.span.Apart held.span)
    {extended : Arena}
    (held : extended.held.Perm (segment :: arena.held))
    (sameFree : extended.freeByAddr = arena.freeByAddr)
    (sameIndex : extended.freeBySize = arena.freeBySize) :
    extended.Tiled (segment.span :: outstanding) := by
  have sameSpans : extended.freeSpans = arena.freeSpans := by rw [freeSpans, freeSpans, sameFree]
  have spans : extended.heldSpans.Perm (segment.span :: arena.heldSpans) := held.map _
  have kept : ∀ other ∈ arena.held, other ∈ extended.held := fun other member =>
    held.mem_iff.mpr (List.mem_cons_of_mem _ member)
  have holds : ∀ span, arena.Holds span → extended.Holds span := by
    rintro span ⟨nonempty, startAligned, lenAligned, other, member, within⟩
    exact ⟨nonempty, startAligned, lenAligned, other, kept other member, within⟩
  refine
    { exact_cover := fun addr => ?_
      single := fun addr => ?_
      placed := fun other member => ?_
      free_inside := fun span member => ?_
      outstanding_inside := fun span member => ?_
      maximal := fun first firstMember second secondMember touches => ?_
      indexed := fun span => ?_ }
  · rw [sameSpans, Span.cover_perm spans, Span.cover_cons, Span.cover_cons, ← Nat.add_assoc,
      tiled.exact_cover]
  · rw [Span.cover_perm spans, Span.cover_cons]
    split
    · rename_i inside
      have others : Span.cover arena.heldSpans addr = 0 := by
        refine Span.cover_eq_zero fun span member => ?_
        obtain ⟨other, otherMember, rfl⟩ := List.mem_map.mp member
        exact Span.not_has_of_apart (apart other otherMember) inside
      omega
    · exact tiled.single addr
  · rcases List.mem_cons.mp (held.mem_iff.mp member) with rfl | earlier
    · exact placed
    · exact tiled.placed other earlier
  · rw [sameSpans] at member
    exact holds span (tiled.free_inside span member)
  · rcases List.mem_cons.mp member with rfl | earlier
    · have baseAligned := placed.base_aligned
      have lenAligned := placed.len_aligned
      refine ⟨placed.len_pos, ?_, ?_, segment, held.mem_iff.mpr List.mem_cons_self, ?_⟩
      · simp only [Segment.span, granule, pageSize] at *
        omega
      · simp only [Segment.span, granule, pageSize] at *
        omega
      · exact ⟨Nat.le_refl _, Nat.le_refl _⟩
    · exact holds span (tiled.outstanding_inside span earlier)
  · rw [sameSpans] at firstMember secondMember
    obtain ⟨other, member, starts⟩ := tiled.maximal first firstMember second secondMember touches
    exact ⟨other, kept other member, starts⟩
  · rw [sameIndex, sameSpans]
    exact tiled.indexed span

/-- A segment that is outstanding as a whole leaves the tiling. -/
theorem shrink
    {segment : Segment}
    (tiled : arena.Tiled (segment.span :: outstanding))
    (member : segment ∈ arena.held)
    {shrunk : Arena}
    (held : arena.held.Perm (segment :: shrunk.held))
    (sameFree : shrunk.freeByAddr = arena.freeByAddr)
    (sameIndex : shrunk.freeBySize = arena.freeBySize) :
    shrunk.Tiled outstanding := by
  have sameSpans : shrunk.freeSpans = arena.freeSpans := by rw [freeSpans, freeSpans, sameFree]
  have spans : arena.heldSpans.Perm (segment.span :: shrunk.heldSpans) := held.map _
  have kept : ∀ other ∈ shrunk.held, other ∈ arena.held := fun other otherMember =>
    held.mem_iff.mpr (List.mem_cons_of_mem _ otherMember)
  have remains : ∀ span, arena.Holds span → ¬segment.span.has span.start = true →
      shrunk.Holds span := by
    rintro span ⟨nonempty, startAligned, lenAligned, other, otherMember, within⟩ outside
    rcases List.mem_cons.mp (held.mem_iff.mp otherMember) with rfl | still
    · exact absurd (Span.has_of_within within (Span.has_start _ nonempty)) outside
    · exact ⟨nonempty, startAligned, lenAligned, other, still, within⟩
  refine
    { exact_cover := fun addr => ?_
      single := fun addr => ?_
      placed := fun other otherMember => tiled.placed other (kept other otherMember)
      free_inside := fun span spanMember => ?_
      outstanding_inside := fun span spanMember => ?_
      maximal := fun first firstMember second secondMember touches => ?_
      indexed := fun span => ?_ }
  · have before := tiled.exact_cover addr
    rw [Span.cover_perm spans, Span.cover_cons, Span.cover_cons] at before
    rw [sameSpans]
    omega
  · have before := tiled.single addr
    rw [Span.cover_perm spans, Span.cover_cons] at before
    omega
  · rw [sameSpans] at spanMember
    have holds := tiled.free_inside span spanMember
    exact remains span holds
      (tiled.free_not_outstanding spanMember List.mem_cons_self (Span.has_start _ holds.nonempty))
  · have holds := tiled.outstanding_inside span (List.mem_cons_of_mem _ spanMember)
    refine remains span holds fun inside => ?_
    have once := tiled.tiles_once span.start
    have covered := Span.cover_pos_of_mem spanMember (Span.has_start _ holds.nonempty)
    rw [Span.cover_append, Span.cover_cons, if_pos inside] at once
    omega
  · rw [sameSpans] at firstMember secondMember
    obtain ⟨other, otherMember, starts⟩ :=
      tiled.maximal first firstMember second secondMember touches
    rcases List.mem_cons.mp (held.mem_iff.mp otherMember) with rfl | still
    · have holds := tiled.free_inside second secondMember
      have inSegment : other.span.has second.start = true := by
        rw [← starts]
        exact Span.has_start other.span (tiled.placed other otherMember).len_pos
      exact absurd inSegment
        (tiled.free_not_outstanding secondMember List.mem_cons_self
          (Span.has_start _ holds.nonempty))
    · exact ⟨other, still, starts⟩
  · rw [sameIndex, sameSpans]
    exact tiled.indexed span

theorem base_absent
    (tiled : arena.Tiled outstanding)
    {segment : Segment}
    (placed : segment.Placed)
    (apart : ∀ held ∈ arena.held, segment.span.Apart held.span) :
    arena.segments.find? segment.base = none := by
  by_contra present
  obtain ⟨len, found⟩ := Option.ne_none_iff_exists'.mp present
  have member : (⟨segment.base, len⟩ : Segment) ∈ arena.held := mem_held.mpr found
  have inOther :=
    Span.has_start (Segment.span ⟨segment.base, len⟩) (tiled.placed _ member).len_pos
  exact Span.not_has_of_apart (apart _ member) (Span.has_start segment.span placed.len_pos)
    inOther

theorem adopt
    (tiled : arena.Tiled outstanding)
    {segment : Segment}
    (placed : segment.Placed)
    (apart : ∀ held ∈ arena.held, segment.span.Apart held.span) :
    (arena.adopt segment).Tiled outstanding := by
  have absent := tiled.base_absent placed apart
  have extended :
      { arena with
        segments := arena.segments.insert segment.base segment.len
        committed := Word.add arena.committed segment.len
        peakCommitted := max arena.peakCommitted (Word.add arena.committed segment.len)
        growths := arena.growths + 1
        newest := some segment }.Tiled (segment.span :: outstanding) :=
    tiled.extend placed apart (held_insert_perm absent) rfl rfl
  have member : segment ∈ (arena.adopt segment).held :=
    (held_insert_perm absent).mem_iff.mpr List.mem_cons_self
  refine extended.put (fun free _ _ => ⟨segment, member, rfl⟩) fun free freeMember starts => ?_
  rw [starts]
  exact extended.isBase_of_follows (extended.free_inside free freeMember) member starts.symm

theorem held_adopt_perm
    (tiled : arena.Tiled outstanding)
    {segment : Segment}
    (placed : segment.Placed)
    (apart : ∀ held ∈ arena.held, segment.span.Apart held.span) :
    (arena.adopt segment).held.Perm (segment :: arena.held) :=
  held_insert_perm (tiled.base_absent placed apart)

/-- The new segment is one more free range. -/
theorem freeSpans_adopt_perm
    (tiled : arena.Tiled outstanding)
    {segment : Segment}
    (placed : segment.Placed)
    (apart : ∀ held ∈ arena.held, segment.span.Apart held.span) :
    (arena.adopt segment).freeSpans.Perm (segment.span :: arena.freeSpans) := by
  have absent : arena.freeByAddr.find? segment.base = none := by
    by_contra present
    obtain ⟨len, found⟩ := Option.ne_none_iff_exists'.mp present
    have free : (⟨segment.base, len⟩ : Span) ∈ arena.freeSpans := mem_freeSpans.mpr found
    have holds := tiled.free_inside _ free
    obtain ⟨other, otherMember, within⟩ := holds.inside
    have inOther := Span.has_of_within within (Span.has_start _ holds.nonempty)
    exact Span.not_has_of_apart (apart other otherMember)
      (Span.has_start segment.span placed.len_pos) inOther
  exact (NatMap.entries_insert_perm absent segment.len).map _

theorem letGo
    (tiled : arena.Tiled outstanding)
    {segment : Segment}
    (member : segment ∈ arena.held)
    (idle : arena.freeByAddr.find? segment.base = some segment.len) :
    (arena.letGo segment).Tiled outstanding :=
  (tiled.take idle).shrink member (held_erase_perm member) rfl rfl

end Tiled

/-! ## Idle segments -/

section

variable {arena : Arena}

theorem held_nodup (arena : Arena) : arena.held.Nodup := by
  have ascending : arena.held.Pairwise fun first second => first.base < second.base :=
    List.pairwise_map.mpr arena.segments.ascending
  apply ascending.imp
  rintro first second less rfl
  exact Nat.lt_irrefl first.base less

theorem base_ne_of_ne
    {first second : Segment}
    (firstMember : first ∈ arena.held)
    (secondMember : second ∈ arena.held)
    (different : first ≠ second) :
    first.base ≠ second.base := by
  intro sameBase
  have found := mem_held.mp firstMember
  rw [sameBase, mem_held.mp secondMember] at found
  obtain ⟨base, len⟩ := first
  obtain ⟨base', len'⟩ := second
  simp only [Option.some.injEq] at found sameBase
  exact different (by rw [sameBase, found])

theorem mem_idle
    {segment : Segment} :
    segment ∈ arena.idle ↔
      segment ∈ arena.held ∧ arena.freeByAddr.find? segment.base = some segment.len := by
  rw [idle, List.mem_filter, beq_iff_eq]

theorem mem_idle_letGo
    {segment other : Segment}
    (member : segment ∈ arena.held)
    (otherIdle : other ∈ arena.idle)
    (different : other ≠ segment) :
    other ∈ (arena.letGo segment).idle := by
  obtain ⟨otherMember, found⟩ := mem_idle.mp otherIdle
  have otherBase := base_ne_of_ne otherMember member different
  refine mem_idle.mpr ⟨mem_held.mpr ?_, ?_⟩
  · change (arena.segments.erase segment.base).find? other.base = some other.len
    rw [NatMap.find?_erase, if_neg otherBase]
    exact mem_held.mp otherMember
  · change (arena.freeByAddr.erase segment.base).find? other.base = some other.len
    rw [NatMap.find?_erase, if_neg otherBase]
    exact found

end

theorem sameFrame_carveAt
    (arena : Arena)
    (reserved : Nat)
    (fit : Fit) :
    (arena.carveAt reserved fit).SameFrame
      { arena with inUse := Word.add arena.inUse reserved, live := arena.live + 1 } := by
  simp only [carveAt]
  split <;> split <;> exact ⟨rfl, rfl, rfl, rfl, rfl, rfl, rfl, rfl, rfl⟩

theorem sameFrame_free
    (arena : Arena)
    (addr reserved : Nat) :
    (arena.free addr reserved).SameFrame
      { arena with inUse := arena.inUse - reserved, live := arena.live - 1 } :=
  sameFrame_insertFree _ addr reserved

/-- A resize changes the free ranges and the bytes in use, by the difference. -/
theorem sameFrame_resize?
    {arena changed : Arena}
    {addr oldReserved newReserved : Nat}
    (resized : arena.resize? addr oldReserved newReserved = some changed) :
    changed.SameFrame
      { arena with
        inUse :=
          if newReserved = oldReserved then arena.inUse
          else if newReserved < oldReserved then
            Word.sub arena.inUse (oldReserved - newReserved)
          else Word.add arena.inUse (newReserved - oldReserved) } := by
  unfold resize? at resized
  split at resized
  · rename_i same
    cases resized
    rw [if_pos same]
    exact .refl _
  · rename_i different
    rw [if_neg different]
    split at resized
    · rename_i smaller
      cases resized
      rw [if_pos smaller]
      exact sameFrame_insertFree _ _ _
    · rename_i notSmaller
      rw [if_neg notSmaller]
      simp only at resized
      split at resized
      · cases resized
      · split at resized
        · cases resized
        · split at resized
          · cases resized
          · split at resized
            · cases resized
            · cases resized
              split <;> exact ⟨rfl, rfl, rfl, rfl, rfl, rfl, rfl, rfl, rfl⟩

namespace Tiled

variable {arena : Arena} {outstanding : List Span}

theorem free
    {addr reserved : Nat}
    (tiled : arena.Tiled (⟨addr, reserved⟩ :: outstanding)) :
    (arena.free addr reserved).Tiled outstanding :=
  insertFree (tiled.transport (by rfl) (by rfl) (by rfl) (.refl _))

/-- The part given up by a smaller range becomes free. -/
theorem resizeDown
    {addr oldReserved newReserved : Nat}
    (tiled : arena.Tiled (⟨addr, oldReserved⟩ :: outstanding))
    (positive : 0 < newReserved)
    (aligned : newReserved % granule = 0)
    (smaller : newReserved < oldReserved) :
    (arena.insertFree (Word.add addr newReserved) (oldReserved - newReserved)).Tiled
      (⟨addr, newReserved⟩ :: outstanding) := by
  have fits := tiled.stop_lt (tiled.outstanding_inside _ List.mem_cons_self)
  simp only at fits
  have whole : oldReserved = newReserved + (oldReserved - newReserved) := by omega
  rw [whole] at tiled
  have divided := (tiled.split positive (by omega) aligned).perm (.swap _ _ _)
  rw [Word.add_eq (by omega)]
  exact divided.insertFree

/-- A range grows into the free range that starts where it ends, in the same segment; what
is left of that range stays free. -/
theorem resizeUp
    {addr oldReserved nextLen needed : Nat}
    (tiled : arena.Tiled (⟨addr, oldReserved⟩ :: outstanding))
    {segment : Segment}
    (member : segment ∈ arena.held)
    (inside : segment.span.has addr = true)
    (before : addr + oldReserved < segment.base + segment.len)
    (found : arena.freeByAddr.find? (addr + oldReserved) = some nextLen)
    (positive : 0 < needed)
    (aligned : needed % granule = 0)
    (enough : needed ≤ nextLen) :
    (if needed < nextLen then
        (arena.dropRange (addr + oldReserved) nextLen).addRange
          (addr + oldReserved + needed) (nextLen - needed)
      else
        arena.dropRange (addr + oldReserved) nextLen).Tiled
      (⟨addr, oldReserved + needed⟩ :: outstanding) := by
  have holds := tiled.outstanding_inside _ List.mem_cons_self
  have wholeGranules := holds.len_aligned
  have within := tiled.within_of_has holds member (Span.has_start _ holds.nonempty) inside
  obtain ⟨joined, clearAbove⟩ := tiled.joinNext member within before found
  -- The range takes the whole neighbour and gives back what it does not need.
  have length : addr + (oldReserved + nextLen) - addr = oldReserved + nextLen := by omega
  have rest :
      addr + (oldReserved + nextLen) - (addr + (oldReserved + needed)) = nextLen - needed := by
    omega
  rw [← length] at joined
  have grown : (oldReserved + needed) % granule = 0 := by
    simp only [granule] at *
    omega
  have room : addr + (oldReserved + needed) ≤ addr + (oldReserved + nextLen) := by omega
  have put := joined.putTail clearAbove (Nat.add_pos_right oldReserved positive) grown room
  rw [rest, ← Nat.add_assoc] at put
  simp only [Nat.sub_pos_iff_lt] at put
  exact put

theorem resize?
    {addr oldReserved newReserved : Nat}
    (tiled : arena.Tiled (⟨addr, oldReserved⟩ :: outstanding))
    (positive : 0 < newReserved)
    (aligned : newReserved % granule = 0)
    {changed : Arena}
    (resized : arena.resize? addr oldReserved newReserved = some changed) :
    changed.Tiled (⟨addr, newReserved⟩ :: outstanding) := by
  have holds := tiled.outstanding_inside _ List.mem_cons_self
  have next : Word.add addr oldReserved = addr + oldReserved := Word.add_eq (tiled.stop_lt holds)
  unfold Arena.resize? at resized
  split at resized
  · rename_i same
    cases resized
    exact same ▸ tiled
  · rename_i different
    split at resized
    · rename_i smaller
      cases resized
      exact
        resizeDown (tiled.transport (by rfl) (by rfl) (by rfl) (.refl _)) positive aligned smaller
    · rename_i notSmaller
      simp only [next] at resized
      split at resized
      · cases resized
      · rename_i segment ofAddr
        obtain ⟨member, inside⟩ := tiled.segmentOf?_eq_some_iff.mp ofAddr
        rw [tiled.segment_stop member] at resized
        split at resized
        · cases resized
        · rename_i before
          split at resized
          · cases resized
          · rename_i nextLen found
            split at resized
            · cases resized
            · rename_i enough
              have lenAligned := holds.len_aligned
              have nextFits :=
                tiled.stop_lt (tiled.free_inside ⟨_, nextLen⟩ (mem_freeSpans.mpr found))
              simp only at lenAligned nextFits
              have needed : 0 < newReserved - oldReserved := by omega
              have neededAligned : (newReserved - oldReserved) % granule = 0 := by
                simp only [granule] at *
                omega
              have grown :=
                tiled.resizeUp member inside (by omega) found needed neededAligned (by omega)
              rw [Nat.add_sub_cancel' (by omega : oldReserved ≤ newReserved)] at grown
              have rest :
                  Word.add (addr + oldReserved) (newReserved - oldReserved) =
                    addr + oldReserved + (newReserved - oldReserved) :=
                Word.add_eq (by omega)
              rw [rest] at resized
              cases resized
              exact grown.transport (by rfl) (by rfl) (by rfl) (.refl _)

end Tiled

end TierHeap.Arena
