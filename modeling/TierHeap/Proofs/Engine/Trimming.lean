import TierHeap.Proofs.Allocator.Trimming
import TierHeap.Proofs.Engine.Reporting
import TierHeap.Proofs.Interleaving.Reached

/-!
# The figure of a trim

A trim goes through both tiers and adds up what each of them handed back.  A tier whose backend
refuses a segment stops there and counts for nothing, although the segments before that one are
gone.  So the figure falls short of the committed bytes that were given up exactly if a tier was
refused a segment after it had handed one back (`Session.trims_of_reached`), as in
`Session.trim_forgets_returned`.
-/

namespace TierHeap

namespace Backed

variable {β : Type} {tiers : PerTier (Allocator (Recorder β))} {blocks : List Block}

/-- The segments of both tiers share no byte, so that together they fit in the address
space. -/
theorem committed_lt
    (backed : Backed tiers blocks)
    (abiding : Dealing.Abiding tiers.dealings) :
    (tiers.get .host).arena.committed + (tiers.get .cxl).arena.committed < Word.bound := by
  have host := (backed.consistent .host).arena
  have cxl := (backed.consistent .cxl).arena
  have apart : ((tiers.get .host).arena.heldSpans ++
      (tiers.get .cxl).arena.heldSpans).Pairwise Span.Apart := by
    refine List.pairwise_append.mpr
      ⟨host.tiled.heldSpans_apart, cxl.tiled.heldSpans_apart, fun span inHost other inCxl => ?_⟩
    obtain ⟨hostSegment, hostHeld, rfl⟩ := List.mem_map.mp inHost
    obtain ⟨cxlSegment, cxlHeld, rfl⟩ := List.mem_map.mp inCxl
    exact backed.segments_apart abiding (by decide : Tier.host ≠ .cxl) hostHeld cxlHeld
  have below : ∀ span ∈ (tiers.get .host).arena.heldSpans ++ (tiers.get .cxl).arena.heldSpans,
      span.stop ≤ Word.largest := by
    intro span member
    rcases List.mem_append.mp member with inHost | inCxl
    · exact Nat.le_of_lt_succ (host.tiled.held_stop_lt inHost)
    · exact Nat.le_of_lt_succ (cxl.tiled.held_stop_lt inCxl)
  have total := Span.total_le_of_cover_le_one below (Span.cover_le_one_of_pairwise_apart apart)
  rw [Span.total_append] at total
  have hostCommitted := host.committed
  have cxlCommitted := cxl.committed
  simp only [Word.largest, Word.bound] at *
  omega

end Backed

namespace Allocator

variable {β : Type}

def counted (answers : List (Segment × Bool)) : Nat :=
  if Unrefused answers then handedBack answers else 0

theorem counted_le (answers : List (Segment × Bool)) :
    counted answers ≤ handedBack answers := by
  rw [counted]
  split
  · exact Nat.le_refl _
  · exact Nat.zero_le _

/-- All that was handed back is counted unless a segment was refused after another one had been
taken back. -/
theorem Consistent.counted_eq_iff
    {allocator : Allocator (Recorder β)}
    {outstanding : List Span}
    (consistent : allocator.Consistent outstanding)
    {answers : List (Segment × Bool)}
    (asked : AskedInOrder (allocator.arena.idle.drop 1) answers) :
    counted answers = handedBack answers ↔ Unrefused answers ∨ takenBack answers = [] := by
  have held : takenBack answers ⊆ allocator.arena.held :=
    ((asked.takenBack_sublist.trans (List.drop_sublist 1 _)).trans List.filter_sublist).subset
  rw [counted]
  split
  · rename_i unrefused
    exact iff_of_true rfl (.inl unrefused)
  · rename_i refused
    rw [or_iff_right refused, handedBack]
    cases returned : takenBack answers with
    | nil =>
        exact iff_of_true rfl rfl
    | cons segment rest =>
        have member : segment ∈ takenBack answers := returned ▸ List.mem_cons_self
        have nonempty := (consistent.arena.tiled.placed segment (held member)).len_pos
        refine iff_of_false ?_ (List.cons_ne_nil _ _)
        rw [List.map_cons, Span.total_cons]
        exact Nat.ne_of_lt (Nat.add_pos_left nonempty _)

variable [Backend β]

theorem TrimEnds.trimmedBytes
    {allocator : Allocator (Recorder β)}
    {answers : List (Segment × Bool)}
    (ends :
      TrimEnds allocator (allocator.trim Engine.depth).2 (allocator.trim Engine.depth).1 answers) :
    Task.trimmedBytes allocator = counted answers := by
  have figure := ends.figure
  rw [Task.trimmedBytes, counted]
  cases answer : (allocator.trim Engine.depth).1 with
  | ok bytes =>
      rw [answer] at figure
      split at figure
      · rename_i unrefused
        rw [if_pos unrefused]
        exact Option.some.inj figure
      · cases figure
  | error err =>
      rw [answer] at figure
      split at figure
      · cases figure
      · rename_i refused
        rw [if_neg refused]

end Allocator

namespace Engine

variable {β : Type}

def trimEvent (bytes : Nat) : Log.Event :=
  (Log.Event.new "trim" "trim" "released").withSize bytes

theorem appended_trim
    [Backend β]
    (engine : Engine β)
    (enabled : engine.log.enabled .info = true) :
    ∃ earlier record, engine.log.Appended engine.trim.2.log (earlier ++ [record]) ∧
      record.level = .info ∧ record.event = trimEvent engine.trim.1 := by
  have counted : engine.log.Quiet (engine.count Metrics.onTrim).log := .refl engine.log
  obtain ⟨earlier, appended, -⟩ := quiet_trimTier (quiet_trimTier counted .host) .cxl
  have passes := enabled
  rw [Log.Lifecycle.enabled, ← appended.threshold, ← Log.Lifecycle.enabled] at passes
  simp only [trim]
  refine ⟨earlier, _, appended.trans (Log.Lifecycle.appended_record_of_enabled passes _ _ _), ?_⟩
  exact ⟨rfl, rfl⟩

def committedBytes (engine : Engine β) : Nat :=
  (engine.tierStats .host).committedBytes + (engine.tierStats .cxl).committedBytes

/-- A trim of both tiers that returns so many bytes, given what the backends answered. -/
structure Trims
    (before after : Engine (Recorder β))
    (bytes : Nat)
    (answers : PerTier (List (Segment × Bool))) : Prop where
  /-- Each tier asks for its idle segments but the lowest one, in address order, until it is
  refused one. -/
  asked : ∀ tier,
    Allocator.AskedInOrder ((before.tiers.get tier).arena.idle.drop 1) (answers.get tier)
  dealings : ∀ tier,
    (after.tiers.get tier).backend.dealings =
      Dealing.releases (answers.get tier) ++ (before.tiers.get tier).backend.dealings
  /-- Each tier gives up the segments that its backend took back. -/
  committed : ∀ tier,
    (before.tierStats tier).committedBytes =
      (after.tierStats tier).committedBytes + Allocator.handedBack (answers.get tier)
  /-- A tier that was refused a segment counts for nothing. -/
  figure : bytes = Allocator.counted answers.host + Allocator.counted answers.cxl
  /-- The figure is right exactly if no tier was refused a segment after it had handed one
  back. -/
  right : before.committedBytes = after.committedBytes + bytes ↔
    ∀ tier, Allocator.Unrefused (answers.get tier) ∨ Allocator.takenBack (answers.get tier) = []
  /-- The log says the same. -/
  recorded : before.log.enabled .info = true →
    ∃ earlier record, before.log.Appended after.log (earlier ++ [record]) ∧
      record.level = .info ∧ record.event = trimEvent bytes

variable [Backend β] {engine : Engine (Recorder β)}

theorem tiers_trim (tier : Tier) :
    engine.trim.2.tiers.get tier = ((engine.tiers.get tier).trim depth).2 := by
  obtain ⟨log, -, after⟩ := engine.makes_trim
  rw [after]
  exact PerTier.get_map _ _ tier

theorem figure_trim :
    engine.trim.1 =
      Word.add (Task.trimmedBytes (engine.tiers.get .host))
        (Task.trimmedBytes (engine.tiers.get .cxl)) := by
  obtain ⟨log, reply, -⟩ := engine.makes_trim
  exact Reply.released.inj reply

theorem Accounted.trims
    {flight : List Block}
    (accounted : engine.Accounted flight)
    (abiding : Dealing.Abiding engine.tiers.dealings) :
    ∃ answers, engine.Trims engine.trim.2 engine.trim.1 answers := by
  have consistent := accounted.backed.consistent
  choose answers ends using fun tier => (consistent tier).trim_ends depth
  have figure := engine.figure_trim
  have recorded := engine.appended_trim
  have tiers := engine.tiers_trim
  rw [(ends .host).trimmedBytes, (ends .cxl).trimmedBytes] at figure
  generalize engine.trim = result at *
  obtain ⟨bytes, after⟩ := result
  have asked (tier : Tier) := (ends tier).asked
  have dealings (tier : Tier) :
      (after.tiers.get tier).backend.dealings =
        Dealing.releases (answers tier) ++ (engine.tiers.get tier).backend.dealings := by
    rw [tiers]
    exact (ends tier).dealings
  have committed (tier : Tier) :
      (engine.tierStats tier).committedBytes =
        (after.tierStats tier).committedBytes + Allocator.handedBack (answers tier) := by
    rw [tierStats, tierStats, tiers]
    exact (ends tier).committed
  -- Neither tier counts more than it gave up, so the two figures add up without wrapping around.
  have least (tier : Tier) := Allocator.counted_le (answers tier)
  have counts (tier : Tier) := (consistent tier).counted_eq_iff (asked tier)
  have bound : (engine.tierStats .host).committedBytes + (engine.tierStats .cxl).committedBytes <
      Word.bound := accounted.backed.committed_lt abiding
  have host := committed .host
  have cxl := committed .cxl
  have leastHost := least .host
  have leastCxl := least .cxl
  rw [Word.add_eq (by omega)] at figure
  refine ⟨⟨answers .host, answers .cxl⟩, ?_⟩
  have same (tier : Tier) :
      (⟨answers .host, answers .cxl⟩ : PerTier (List (Segment × Bool))).get tier =
        answers tier := by
    cases tier <;> rfl
  refine
    { asked := fun tier => by rw [same]; exact asked tier
      dealings := fun tier => by rw [same]; exact dealings tier
      committed := fun tier => by rw [same]; exact committed tier
      figure := figure
      right := ?_
      recorded := recorded }
  simp only [same, ← counts]
  rw [committedBytes, committedBytes]
  constructor
  · intro total tier
    cases tier with
    | host => omega
    | cxl => omega
  · intro each
    have hostCounted := each .host
    have cxlCounted := each .cxl
    omega

end Engine

namespace Session

variable {β : Type} [Backend β]

/-- What a trim returns in any session that calls have led to, whichever releases fail. -/
theorem trims_of_reached
    {config : Config}
    {bank : RegisterBank}
    {backends : PerTier β}
    {session : Session (Recorder β)}
    (reached : Reached config bank backends session) :
    ∃ answers, session.engine.Trims session.engine.trim.2 session.engine.trim.1 answers := by
  obtain ⟨flight, accounted⟩ := reached.accounted
  exact accounted.trims reached.abiding

/-- Three blocks of a page, each in a segment of its own, are allocated and released. -/
def threePages : List (Nat × Call) :=
  [(0, .allocate 4096), (0, .allocate 4096), (0, .allocate 4096), (0, .free 65536),
    (0, .free 69632), (0, .free 73728)]

/-- Backends of which the first will take one segment back, but not a second one. -/
def refusingBackends : PerTier SimulatedBackend :=
  ⟨.upwards 65536 0 [1], .upwards 1099511627776 4096 []⟩

def threeIdle : Session (Recorder SimulatedBackend) :=
  (opening { Config.standard with segmentSize := 4096 } .initial
    (refusingBackends.map Recorder.start)).run threePages

theorem reached_threeIdle :
    Reached { Config.standard with segmentSize := 4096 } .initial refusingBackends threeIdle := by
  refine .calls threePages ?_
  simp only [← List.mem_inits]
  decide +kernel

/-- One segment is handed back and the next one refused. -/
theorem trims_threeIdle :
    ∃ answers, threeIdle.engine.Trims threeIdle.engine.trim.2 threeIdle.engine.trim.1 answers :=
  trims_of_reached reached_threeIdle

/-- The trim gives 4096 committed bytes up and returns zero. -/
theorem trim_forgets_returned :
    Reached { Config.standard with segmentSize := 4096 } .initial refusingBackends threeIdle ∧
      threeIdle.engine.committedBytes = 12288 ∧
      threeIdle.engine.trim.2.committedBytes = 8192 ∧
      threeIdle.engine.trim.1 = 0 := by
  refine ⟨reached_threeIdle, ?_⟩
  decide +kernel

end Session

end TierHeap
