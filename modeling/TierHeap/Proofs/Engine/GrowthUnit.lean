import TierHeap.Proofs.Allocator.Growth
import TierHeap.Proofs.Config.Independence
import TierHeap.Proofs.Engine.Building
import TierHeap.Proofs.Engine.Tasks

/-!
# The growth unit that is set

A segment size is rounded up to whole pages twice: when it is put into a configuration, where the
result is cut at the largest word, and when an allocator is made, where a page takes the place of
a result that is no word.  Both agree up to the last page multiple among the words: there the
configuration holds what was set in whole pages, and that is what its allocators grow by.  The
sizes beyond are accepted as well, but cut to a number that is no page multiple, and the
allocators grow by a page (`Config.growth_as_set`).
-/

namespace TierHeap

namespace Allocator

variable {β : Type} [Backend β]

/-- The growth unit of an allocator is the length that it asks its backend for, if nothing that
is free serves a request of at most that length and the ceiling leaves room for it. -/
structure GrowsBy
    (allocator : Allocator (Recorder β))
    (unit : Nat) : Prop where
  unit_eq : allocator.growthUnit = unit
  asks : ∀ depth reserved align, reserved ≤ unit →
    allocator.carve? reserved (max align granule) = none →
      (∀ ceiling, allocator.capacity = some ceiling →
        unit ≤ ceiling - allocator.arena.committed) →
        ∃ granted, (allocator.allocate depth reserved align).2.backend.dealings =
          .commit unit granted :: allocator.backend.dealings

theorem growsBy_unitOf
    {allocator : Allocator (Recorder β)}
    {segmentSize : Nat}
    (unit : allocator.growthUnit = unitOf segmentSize) :
    allocator.GrowsBy (unitOf segmentSize) where
  unit_eq := unit
  asks depth reserved align short full room := by
    -- A unit is whole pages, so a request of at most a unit is not rounded up beyond it.
    obtain ⟨-, aligned, fits⟩ := unitOf_bounds segmentSize
    obtain ⟨minimum, rounded, low⟩ := pageAlign?_least short aligned fits
    have preferred : max minimum allocator.growthUnit = unitOf segmentSize := by
      rw [unit, Nat.max_eq_right low]
    refine allocate_commits full rounded ?_ depth
    cases limit : allocator.capacity with
    | none =>
        rw [growthLength?_unlimited limit, preferred]
    | some ceiling =>
        have roomy := room ceiling limit
        rw [← preferred] at roomy
        rw [growthLength?_roomy limit roomy, preferred]

end Allocator

namespace Config

/-- The segment size of a configuration has been set to a number of bytes. -/
inductive SegmentSizeSet (n : Nat) : Config → Prop where
  /-- By a program; any word will do. -/
  | program
      (config : Config)
      (word : n < Word.bound) :
      SegmentSizeSet n (config.withSegmentSize n)
  /-- By the value of the key, which a lenient reading has not rejected. -/
  | lenient
      {lookup : Lookup}
      {raw : String}
      (given : lookup.value? .segmentSize = some raw)
      (read : parseSize? raw = some n)
      (accepted : ¬(ofLookupLenient lookup).Rejects .segmentSize) :
      SegmentSizeSet n (ofLookupLenient lookup).config
  /-- By the value of the key, in a strict reading that has succeeded. -/
  | strict
      {lookup : Lookup}
      {raw : String}
      {config : Config}
      (given : lookup.value? .segmentSize = some raw)
      (read : parseSize? raw = some n)
      (accepted : ofLookup lookup = .ok config) :
      SegmentSizeSet n config

/-- A strict reading succeeds with what a lenient one holds, if that rejects nothing. -/
theorem eq_of_ofLookup
    {lookup : Lookup}
    {config : Config}
    (accepted : ofLookup lookup = .ok config) :
    config = (ofLookupLenient lookup).config ∧
      ∀ key, ¬(ofLookupLenient lookup).Rejects key := by
  rw [ofLookup] at accepted
  split at accepted
  · rename_i nothing
    cases accepted
    refine ⟨rfl, fun key rejects => ?_⟩
    obtain ⟨err, member, -⟩ := rejects
    rw [nothing] at member
    cases member
  · cases accepted

/-- A value of the key that is not rejected is a positive size, and the configuration holds it
rounded up. -/
theorem segmentSize_of_accepted
    {lookup : Lookup}
    {raw : String}
    {n : Nat}
    (given : lookup.value? .segmentSize = some raw)
    (read : parseSize? raw = some n)
    (accepted : ¬(ofLookupLenient lookup).Rejects .segmentSize) :
    0 < n ∧ (ofLookupLenient lookup).config.segmentSize = pageCeilSaturating n := by
  obtain ⟨size, parsed, field⟩ :=
    field_of_accepted given accepted fun other => absurd other (by decide)
  rw [EnvKey.parse?, EnvKey.parseSegmentSize?, read, Option.bind_some] at parsed
  by_cases positive : 0 < n
  · rw [if_pos positive] at parsed
    exact ⟨positive, field.trans (Option.some.inj parsed).symm⟩
  · rw [if_neg positive] at parsed
    cases parsed

/-- However the segment size was set, it was rounded up in the same way. -/
theorem SegmentSizeSet.segmentSize_eq
    {n : Nat}
    {config : Config}
    (set : config.SegmentSizeSet n) :
    config.segmentSize = pageCeilSaturating (max n 1) := by
  cases set with
  | program config word =>
      rfl
  | lenient given read accepted =>
      obtain ⟨positive, size⟩ := segmentSize_of_accepted given read accepted
      rw [size, Nat.max_eq_left positive]
  | strict given read accepted =>
      obtain ⟨rfl, rejects⟩ := eq_of_ofLookup accepted
      obtain ⟨positive, size⟩ := segmentSize_of_accepted given read (rejects .segmentSize)
      rw [size, Nat.max_eq_left positive]

/-- Allocators made from a configuration grow by a unit, whatever they were asked before. -/
structure GrowsBy
    (config : Config)
    (unit : Nat) : Prop where
  /-- An allocator on its own, under any ceiling. -/
  alone : ∀ {β : Type} [Backend β] (tier : Tier) (backend : β) (capacity : Option Nat)
      (depth : Nat) (requests : List Request),
    ((Tenancy.start tier (Recorder.start backend) capacity config.segmentSize).run depth
      requests).allocator.GrowsBy unit
  /-- The allocators of an engine, however it was made. -/
  owned : ∀ {β : Type} [Backend β] (session : Session (Recorder β)), session.Built →
    session.engine.config = config →
      ∀ calls tier, ((session.run calls).engine.tiers.get tier).GrowsBy unit

theorem growsBy_unitOf (config : Config) :
    config.GrowsBy (Allocator.unitOf config.segmentSize) where
  alone tier backend capacity depth requests := by
    have settings :=
      Tenancy.sameSettings_run depth
        (Tenancy.start tier (Recorder.start backend) capacity config.segmentSize) requests
    apply Allocator.growsBy_unitOf
    rw [settings.growthUnit, Tenancy.start, Allocator.growthUnit_new]
  owned session built same calls tier := by
    obtain ⟨source, made, bank, fresh⟩ := built.fresh
    obtain rfl : made = config := fresh.config_eq.symm.trans same
    apply Allocator.growsBy_unitOf
    rw [(session.sameSettings_run calls tier).growthUnit, fresh.allocator,
      Allocator.growthUnit_new]

/-- The segment size is the least positive number of whole pages that holds so many bytes, and
allocators grow by it. -/
structure SizedFor
    (config : Config)
    (n : Nat) : Prop where
  positive : 0 < config.segmentSize
  aligned : config.segmentSize % pageSize = 0
  enough : n ≤ config.segmentSize
  least : ∀ size, 0 < size → size % pageSize = 0 → n ≤ size → config.segmentSize ≤ size
  growth : config.GrowsBy config.segmentSize

/-- The segment size is cut at the largest word, which is no number of whole pages, and
allocators grow by a page. -/
structure SizeCut (config : Config) : Prop where
  largest : config.segmentSize = Word.largest
  unaligned : config.segmentSize % pageSize ≠ 0
  growth : config.GrowsBy pageSize

theorem sizedFor_of_pageAlign?
    {config : Config}
    {n : Nat}
    (rounded : pageAlign? (max n 1) = some config.segmentSize) :
    config.SizedFor n := by
  obtain ⟨aligned, large, close, fits⟩ := pageAlign?_bounds rounded
  have positive : 0 < config.segmentSize := Nat.le_trans (Nat.le_max_right n 1) large
  have growth := config.growsBy_unitOf
  rw [Allocator.unitOf_of_aligned positive aligned fits] at growth
  refine ⟨positive, aligned, Nat.le_trans (Nat.le_max_left n 1) large, ?_, growth⟩
  intro size sizePositive sizeAligned holds
  simp only [pageSize] at *
  omega

/-- Up to the last page multiple among the words, a size that is set is held in whole pages,
and these are what allocators grow by.  Beyond it, neither is so. -/
theorem growth_as_set
    {n : Nat}
    {config : Config}
    (set : config.SegmentSizeSet n) :
    (n ≤ Word.bound - pageSize → config.SizedFor n) ∧
      (Word.bound - pageSize < n → config.SizeCut) := by
  have size := set.segmentSize_eq
  constructor
  · intro small
    apply sizedFor_of_pageAlign?
    rw [size]
    exact pageAlign?_eq_pageCeilSaturating (Nat.max_le.mpr ⟨small, by decide⟩)
  · intro beyond
    rw [pageCeilSaturating_of_beyond (Nat.lt_of_lt_of_le beyond (Nat.le_max_left n 1))] at size
    -- No page multiple from the largest word on is a word, so an allocator falls back to a page.
    have fallback : Allocator.unitOf Word.largest = pageSize := by decide
    have growth := config.growsBy_unitOf
    rw [size, fallback] at growth
    refine ⟨size, ?_, growth⟩
    rw [size]
    decide

def fiveThousand : Lookup := fun name =>
  if name = "TIERMEM_SEGMENT_SIZE" then some " 5000" else none

/-- A size between two page multiples, the last page multiple among the words, and a byte
more. -/
theorem growth_as_set_fiveThousand :
    (ofLookupLenient fiveThousand).config.SegmentSizeSet 5000 ∧
      (ofLookupLenient fiveThousand).config.segmentSize = 8192 ∧
      (ofLookupLenient fiveThousand).config.SizedFor 5000 ∧
      (standard.withSegmentSize (Word.bound - pageSize)).SizedFor (Word.bound - pageSize) ∧
      (standard.withSegmentSize (Word.bound - pageSize + 1)).SizeCut := by
  have rejected : (ofLookupLenient fiveThousand).rejected = [] := by decide +kernel
  have given : fiveThousand.value? .segmentSize = some " 5000" := by decide +kernel
  have read : parseSize? " 5000" = some 5000 := by decide +kernel
  have set : (ofLookupLenient fiveThousand).config.SegmentSizeSet 5000 := by
    refine .lenient given read ?_
    rintro ⟨err, member, -⟩
    rw [rejected] at member
    cases member
  refine ⟨set, by decide +kernel, (growth_as_set set).1 (by decide), ?_, ?_⟩
  · exact (growth_as_set (.program standard (by decide))).1 (Nat.le_refl _)
  · exact (growth_as_set (.program standard (by decide))).2 (by decide)

def largestSize : Lookup := fun name =>
  if name = "TIERMEM_SEGMENT_SIZE" then some "18446744073709551615" else none

/-- The largest word is accepted, both from the key and from a program.  The segment size is no
number of whole pages then, and for a block of 16 bytes an engine commits a page. -/
theorem largest_size_not_grown_by :
    ofLookup largestSize = .ok (standard.withSegmentSize Word.largest) ∧
      (standard.withSegmentSize Word.largest).SegmentSizeSet Word.largest ∧
      ¬(standard.withSegmentSize Word.largest).SizedFor Word.largest ∧
      (standard.withSegmentSize Word.largest).segmentSize = Word.largest ∧
      Word.largest % pageSize ≠ 0 ∧
      ((Session.opening (standard.withSegmentSize Word.largest) .initial
          (Session.distantBackends.map Recorder.start)).call 0
        (.allocateOn .host 16)).2.dealings.host = [.commit 4096 (some ⟨65536, 4096⟩)] := by
  have unaligned : Word.largest % pageSize ≠ 0 := by decide
  have size : (standard.withSegmentSize Word.largest).segmentSize = Word.largest := by
    decide +kernel
  refine ⟨by decide +kernel, .program standard (by decide), ?_, size, unaligned,
    by decide +kernel⟩
  intro sized
  have aligned := sized.aligned
  rw [size] at aligned
  exact unaligned aligned

end Config

end TierHeap
