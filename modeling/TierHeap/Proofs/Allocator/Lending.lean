import TierHeap.Proofs.Allocator.Growth
import TierHeap.Proofs.Arena.Idle

/-!
# How segments are lent and returned

A backend lends segments to an allocator, and the allocator returns them: the idle ones when it
is trimmed, and all of them when it is closed.  A backend may refuse to take a segment back;
then the segment stays with the allocator as it was.

A run of an allocator is given here by its moments, each a tenancy, so that the same statement
(`Tenancy.Lending`) is about an allocator by itself and about one that an engine owns, whose
callers hold ranges of the other tier as well.  It follows from what one step can do
(`Tenancy.Advances`) and from the soundness of every moment (`Tenancy.lending_of_advances`).
-/

namespace TierHeap

namespace Dealing

/-- The releases of segments with the answers to them, the latest one first. -/
def releases (answers : List (Segment × Bool)) : List Dealing :=
  (answers.map fun answer => .release answer.1 answer.2).reverse

/-- Every release named a segment that was lent at that time; the latest dealing is first. -/
def Due : List Dealing → Prop
  | [] => True
  | .commit _ _ :: earlier => Due earlier
  | .release segment _ :: earlier => segment ∈ lent earlier ∧ Due earlier

theorem releases_cons
    (answer : Segment × Bool)
    (answers : List (Segment × Bool)) :
    releases (answer :: answers) = releases answers ++ [.release answer.1 answer.2] := by
  rw [releases, List.map_cons, List.reverse_cons]
  rfl

theorem mem_releases
    {answers : List (Segment × Bool)}
    {segment : Segment}
    {accepted : Bool} :
    .release segment accepted ∈ releases answers ↔ (segment, accepted) ∈ answers := by
  rw [releases, List.mem_reverse, List.mem_map]
  constructor
  · rintro ⟨answer, member, same⟩
    cases same
    exact member
  · intro member
    exact ⟨(segment, accepted), member, rfl⟩

theorem mem_lent_release
    {segment other : Segment}
    {earlier : List Dealing}
    (different : other ≠ segment)
    (member : other ∈ lent earlier)
    (accepted : Bool) :
    other ∈ lent (.release segment accepted :: earlier) := by
  cases accepted with
  | false => exact member
  | true => exact (List.mem_erase_of_ne different).mpr member

/-- Different segments that are lent may be released one after the other, whatever the
answers are. -/
theorem Due.releases
    {earlier : List Dealing}
    (due : Due earlier)
    {answers : List (Segment × Bool)}
    (distinct : (answers.map Prod.fst).Nodup)
    (areLent : ∀ answer ∈ answers, answer.1 ∈ lent earlier) :
    Due (releases answers ++ earlier) := by
  induction answers generalizing earlier with
  | nil =>
      exact due
  | cons answer answers inductionHypothesis =>
      obtain ⟨absent, restDistinct⟩ := List.nodup_cons.mp distinct
      have first : Due (.release answer.1 answer.2 :: earlier) :=
        ⟨areLent answer List.mem_cons_self, due⟩
      rw [releases_cons, List.append_assoc]
      apply inductionHypothesis first restDistinct
      intro other member
      have different : other.1 ≠ answer.1 := fun same =>
        absent (same ▸ List.mem_map_of_mem member)
      exact mem_lent_release different (areLent other (List.mem_cons_of_mem _ member)) answer.2

theorem Due.commits
    {earlier recent : List Dealing}
    (due : Due earlier)
    (commits : ∀ dealing ∈ recent, ∃ len granted, dealing = .commit len granted) :
    Due (recent ++ earlier) := by
  induction recent with
  | nil =>
      exact due
  | cons dealing recent inductionHypothesis =>
      obtain ⟨len, granted, rfl⟩ := commits dealing List.mem_cons_self
      exact inductionHypothesis fun other member => commits other (List.mem_cons_of_mem _ member)

end Dealing

namespace Allocator

variable {β : Type}

/-- A backend is asked about segments one after the other until it refuses to take one back;
`answers` are the segments it was asked about, with what it answered. -/
def AskedInOrder
    (segments : List Segment)
    (answers : List (Segment × Bool)) : Prop :=
  answers = segments.map (·, true) ∨
    ∃ returned refused rest, segments = returned ++ refused :: rest ∧
      answers = returned.map (·, true) ++ [(refused, false)]

theorem map_fst_accepted
    (segments : List Segment) :
    (segments.map (·, true)).map Prod.fst = segments := by
  rw [List.map_map]
  exact List.map_id segments

theorem AskedInOrder.isPrefix
    {segments : List Segment}
    {answers : List (Segment × Bool)}
    (asked : AskedInOrder segments answers) :
    answers.map Prod.fst <+: segments := by
  rcases asked with rfl | ⟨returned, refused, rest, rfl, rfl⟩
  · rw [map_fst_accepted]
  · rw [List.map_append, map_fst_accepted]
    exact ⟨rest, by rw [List.append_assoc]; rfl⟩

theorem AskedInOrder.cons
    {segments : List Segment}
    {answers : List (Segment × Bool)}
    (asked : AskedInOrder segments answers)
    (segment : Segment) :
    AskedInOrder (segment :: segments) ((segment, true) :: answers) := by
  rcases asked with rfl | ⟨returned, refused, rest, rfl, rfl⟩
  · exact .inl rfl
  · exact .inr ⟨segment :: returned, refused, rest, rfl, rfl⟩

/-- The segments that were taken back. -/
def takenBack (answers : List (Segment × Bool)) : List Segment :=
  (answers.filter Prod.snd).map Prod.fst

/-- No segment was refused. -/
def Unrefused (answers : List (Segment × Bool)) : Prop :=
  ∀ answer ∈ answers, answer.2 = true

instance : DecidablePred Unrefused := fun answers =>
  inferInstanceAs (Decidable (∀ answer ∈ answers, answer.2 = true))

theorem unrefused_accepted (segments : List Segment) : Unrefused (segments.map (·, true)) := by
  intro answer member
  obtain ⟨_, _, rfl⟩ := List.mem_map.mp member
  rfl

theorem takenBack_accepted (segments : List Segment) :
    takenBack (segments.map (·, true)) = segments := by
  rw [takenBack, List.filter_eq_self.mpr (unrefused_accepted segments), map_fst_accepted]

theorem takenBack_append_refused
    (returned : List Segment)
    (refused : Segment) :
    takenBack (returned.map (·, true) ++ [(refused, false)]) = returned := by
  have accepted : takenBack (returned.map (·, true)) = returned := takenBack_accepted returned
  rw [takenBack] at accepted ⊢
  rw [List.filter_append, List.map_append, accepted]
  exact List.append_nil returned

variable [Backend β]

/-- Segments are handed back one after the other; their lengths are added up, but a refusal
leaves no sum. -/
theorem releaseAll_cases
    (depth released : Nat)
    (segments : List Segment)
    (allocator : Allocator (Recorder β)) :
    ∃ answers, AskedInOrder segments answers ∧
      (releaseAll depth released segments allocator).2.backend.dealings =
        Dealing.releases answers ++ allocator.backend.dealings ∧
      (releaseAll depth released segments allocator).2.arena =
        (takenBack answers).foldl Arena.letGo allocator.arena ∧
      (releaseAll depth released segments allocator).1.toOption =
        if Unrefused answers then
          some (((takenBack answers).map Segment.len).foldl Word.add released)
        else none := by
  induction segments generalizing released allocator with
  | nil =>
      exact ⟨[], .inl rfl, rfl, rfl, rfl⟩
  | cons segment rest inductionHypothesis =>
      simp only [releaseAll, Backend.release]
      cases Backend.release allocator.backend.backend depth segment with
      | mk answer backend =>
          cases answer with
          | error err =>
              refine ⟨[(segment, false)], .inr ⟨[], segment, rest, rfl, rfl⟩, rfl, rfl, ?_⟩
              rw [if_neg (by simp [Unrefused])]
              rfl
          | ok done =>
              obtain ⟨answers, asked, dealings, arena, figure⟩ :=
                inductionHypothesis (Word.add released segment.len)
                  { allocator with
                    backend := ⟨backend, .release segment true :: allocator.backend.dealings⟩
                    arena := allocator.arena.letGo segment }
              refine ⟨(segment, true) :: answers, asked.cons segment, ?_, arena, ?_⟩
              · rw [Dealing.releases_cons, List.append_assoc]
                exact dealings
              · have same : Unrefused ((segment, true) :: answers) ↔ Unrefused answers := by
                  simp [Unrefused]
                rw [if_congr same rfl rfl]
                exact figure

theorem trim_cases
    (allocator : Allocator (Recorder β))
    (depth : Nat) :
    ∃ answers, AskedInOrder (allocator.arena.idle.drop 1) answers ∧
      (allocator.trim depth).2.backend.dealings =
        Dealing.releases answers ++ allocator.backend.dealings ∧
      (allocator.trim depth).2.arena =
        (takenBack answers).foldl Arena.letGo allocator.arena ∧
      (allocator.trim depth).1.toOption =
        if Unrefused answers then some (Word.sum ((takenBack answers).map Segment.len))
        else none :=
  releaseAll_cases depth 0 (allocator.arena.idle.drop 1) allocator

theorem close_dealings
    (allocator : Allocator (Recorder β))
    (depth : Nat) :
    ∃ answers, answers.map Prod.fst = allocator.arena.held ∧
      (allocator.close depth).dealings =
        Dealing.releases answers ++ allocator.backend.dealings := by
  rw [close]
  generalize allocator.backend = recorder
  generalize allocator.arena.held = segments
  induction segments generalizing recorder with
  | nil =>
      exact ⟨[], rfl, rfl⟩
  | cons segment rest inductionHypothesis =>
      obtain ⟨answers, asked, dealings⟩ :=
        inductionHypothesis (Backend.release recorder depth segment).2
      refine
        ⟨(segment, (Backend.release recorder.backend depth segment).1.isOk) :: answers, ?_, ?_⟩
      · rw [List.map_cons, asked]
      · rw [Dealing.releases_cons, List.append_assoc]
        exact dealings

/-- The allocator keeps a segment as one that it may use, and may ask its backend to take back
again. -/
structure Retains
    (allocator : Allocator (Recorder β))
    (segment : Segment) : Prop where
  held : segment ∈ allocator.arena.held
  /-- All of it is free. -/
  free : segment.span ∈ allocator.arena.freeSpans
  /-- A request that fits into it is served without asking the backend. -/
  usable : ∀ depth reserved align, reserved ≤ segment.len → isPowerOfTwo align = true →
    align ≤ pageSize →
      ∃ addr, (allocator.allocate depth reserved align).1 = .ok ⟨addr, reserved, false⟩ ∧
        (allocator.allocate depth reserved align).2.backend = allocator.backend
  /-- The next trim asks for it before any other. -/
  next : (allocator.arena.idle.drop 1).head? = some segment

theorem Consistent.usable
    {allocator : Allocator (Recorder β)}
    {outstanding : List Span}
    (consistent : allocator.Consistent outstanding)
    {segment : Segment}
    (held : segment ∈ allocator.arena.held)
    (free : segment.span ∈ allocator.arena.freeSpans)
    {depth reserved align : Nat}
    (fits : reserved ≤ segment.len)
    (power : isPowerOfTwo align = true)
    (small : align ≤ pageSize) :
    ∃ addr, (allocator.allocate depth reserved align).1 = .ok ⟨addr, reserved, false⟩ ∧
      (allocator.allocate depth reserved align).2.backend = allocator.backend := by
  have canHold : segment.span.CanHold reserved align :=
    (consistent.arena.tiled.placed segment held).canHold fits power small
  cases carved : allocator.carve? reserved (max align granule) with
  | none =>
      exact absurd canHold
        ((consistent.carve?_eq_none_iff power small reserved).mp carved segment.span free)
  | some found =>
      obtain ⟨addr, after⟩ := found
      obtain ⟨fit, -, -, rfl⟩ := carve?_eq_some carved
      refine ⟨addr, ?_, ?_⟩
      · simp only [allocate, carved]
      · simp only [allocate, carved]

theorem Consistent.retains_of_refused
    {allocator : Allocator (Recorder β)}
    {outstanding : List Span}
    (consistent : allocator.Consistent outstanding)
    {depth : Nat}
    {answers : List (Segment × Bool)}
    (asked : AskedInOrder (allocator.arena.idle.drop 1) answers)
    (arena :
      (allocator.trim depth).2.arena = (takenBack answers).foldl Arena.letGo allocator.arena)
    {segment : Segment}
    (member : (segment, false) ∈ answers) :
    (allocator.trim depth).2.Retains segment := by
  rcases asked with rfl | ⟨returned, refused, rest, candidates, rfl⟩
  · obtain ⟨_, _, same⟩ := List.mem_map.mp member
    cases same
  · obtain rfl : segment = refused := by
      rcases List.mem_append.mp member with accepted | last
      · obtain ⟨_, _, same⟩ := List.mem_map.mp accepted
        cases same
      · cases List.mem_singleton.mp last
        rfl
    rw [takenBack_append_refused] at arena
    -- The first idle segment is never asked for, so the refused one comes right after it.
    cases whole : allocator.arena.idle with
    | nil =>
        simp [whole] at candidates
    | cons first later =>
        rw [whole, List.drop_one, List.tail_cons] at candidates
        have idle : (allocator.trim depth).2.arena.idle = first :: segment :: rest := by
          rw [arena]
          exact Arena.idle_foldl_letGo (whole.trans (by rw [candidates]))
        have isIdle : segment ∈ (allocator.trim depth).2.arena.idle := by
          rw [idle]
          exact List.mem_cons_of_mem _ List.mem_cons_self
        obtain ⟨held, found⟩ := Arena.mem_idle.mp isIdle
        have free : segment.span ∈ (allocator.trim depth).2.arena.freeSpans :=
          Arena.mem_freeSpans.mpr found
        refine ⟨held, free, fun _ _ _ fits power small => ?_, ?_⟩
        · exact (consistent.trim depth).usable held free fits power small
        · rw [idle]
          rfl

end Allocator

/-! ## Runs -/

namespace Tenancy

variable {β : Type}

/-- The allocator accounts for the ranges of its callers; what they hold besides lies in none
of its segments. -/
def Sound (tenancy : Tenancy (Recorder β)) : Prop :=
  ∃ own, tenancy.allocator.Consistent own ∧ own ⊆ tenancy.outstanding ∧
    ∀ span ∈ tenancy.outstanding,
      span ∈ own ∨ ∀ segment ∈ tenancy.allocator.arena.held, segment.span.Apart span

theorem sound_of_consistent
    {tenancy : Tenancy (Recorder β)}
    (consistent : tenancy.allocator.Consistent tenancy.outstanding) :
    tenancy.Sound :=
  ⟨tenancy.outstanding, consistent, List.Subset.refl _, fun _ member => .inl member⟩

namespace Sound

variable {tenancy : Tenancy (Recorder β)}

theorem lent (sound : tenancy.Sound) :
    (Dealing.lent tenancy.dealings).Perm tenancy.allocator.arena.held := by
  obtain ⟨own, consistent, -, -⟩ := sound
  exact consistent.lent

theorem mem_idle_iff
    (sound : tenancy.Sound)
    {segment : Segment} :
    segment ∈ tenancy.allocator.arena.idle ↔
      segment ∈ tenancy.allocator.arena.held ∧
        ∀ span ∈ tenancy.outstanding, segment.span.Apart span := by
  obtain ⟨own, consistent, within, elsewhere⟩ := sound
  rw [consistent.arena.tiled.mem_idle_iff]
  constructor
  · rintro ⟨held, apart⟩
    refine ⟨held, fun span member => ?_⟩
    rcases elsewhere span member with mine | other
    · exact apart span mine
    · exact other segment held
  · rintro ⟨held, apart⟩
    exact ⟨held, fun span mine => apart span (within mine)⟩

end Sound

variable [Backend β]

/-- What may happen to an allocator from one moment of a run to the next: its backend is asked
for segments only, or it is trimmed and its callers hold the same ranges. -/
inductive Advances (before after : Tenancy (Recorder β)) : Prop where
  | asked
      (recent : List Dealing)
      (dealings : after.dealings = recent ++ before.dealings)
      (commits : ∀ dealing ∈ recent, ∃ len granted, dealing = .commit len granted)
  | trimmed
      (depth : Nat)
      (allocator : after.allocator = (before.allocator.trim depth).2)
      (outstanding : after.outstanding = before.outstanding)

theorem advances_of_same_dealings
    {before after : Tenancy (Recorder β)}
    (dealings : after.dealings = before.dealings) :
    Advances before after :=
  .asked [] dealings fun _ member => nomatch member

theorem advances_free
    (allocator : Allocator (Recorder β))
    (addr reserved : Nat)
    (before later : List Span) :
    Advances ⟨allocator, before⟩ ⟨allocator.free addr reserved, later⟩ :=
  advances_of_same_dealings rfl

theorem advances_resize?
    {allocator after : Allocator (Recorder β)}
    {addr oldReserved newReserved : Nat}
    (resized : allocator.resize? addr oldReserved newReserved = some after)
    (before later : List Span) :
    Advances ⟨allocator, before⟩ ⟨after, later⟩ := by
  obtain ⟨arena, -, rfl⟩ := Allocator.resize?_eq_some resized
  exact advances_of_same_dealings rfl

theorem advances_allocate
    {allocator after : Allocator (Recorder β)}
    {depth reserved align : Nat}
    {answer : Except GrowError Carve}
    (allocated : allocator.allocate depth reserved align = (answer, after))
    (before later : List Span) :
    Advances ⟨allocator, before⟩ ⟨after, later⟩ := by
  rcases Allocator.allocate_dealings allocated with same | ⟨len, granted, one⟩
  · exact advances_of_same_dealings same
  · exact .asked [_] one fun _ member => ⟨len, granted, List.mem_singleton.mp member⟩

/-- How the segments of an allocator are lent and returned, in a run given by its moments and
when the allocator is closed after it. -/
structure Lending
    {ι : Type}
    (moment : List ι → Tenancy (Recorder β))
    (steps : List ι)
    (closed : Recorder β) : Prop where
  /-- Every release, those of the end included, names a segment that is lent at that time. -/
  due : Dealing.Due closed.dealings
  /-- The allocator holds what the backend has lent and not got back. -/
  held : ∀ before, before <+: steps →
    (Dealing.lent (moment before).dealings).Perm (moment before).allocator.arena.held
  /-- The idle segments are the lent ones that no range of a caller lies in. -/
  idle : ∀ before, before <+: steps → ∀ segment,
    segment ∈ (moment before).allocator.arena.idle ↔
      segment ∈ Dealing.lent (moment before).dealings ∧
        ∀ span ∈ (moment before).outstanding, segment.span.Apart span
  /-- A trim asks for the idle segments but the lowest one, in address order. -/
  trims : ∀ before, before <+: steps → ∀ depth, ∃ answers,
    Allocator.AskedInOrder ((moment before).allocator.arena.idle.drop 1) answers ∧
      ((moment before).allocator.trim depth).2.backend.dealings =
        Dealing.releases answers ++ (moment before).dealings
  /-- No step asks for a segment back that a range of a caller lies in, and a segment that is
  refused stays. -/
  spared : ∀ before step, before ++ [step] <+: steps → ∃ recent,
    (moment (before ++ [step])).dealings = recent ++ (moment before).dealings ∧
      ∀ segment accepted, .release segment accepted ∈ recent →
        (∀ span ∈ (moment before).outstanding ++ (moment (before ++ [step])).outstanding,
          segment.span.Apart span) ∧
        (accepted = false → (moment (before ++ [step])).allocator.Retains segment)
  /-- In the end every segment that is still lent is released once, in address order. -/
  closing : ∃ answers,
    closed.dealings = Dealing.releases answers ++ (moment steps).dealings ∧
      (answers.map Prod.fst).Perm (Dealing.lent (moment steps).dealings) ∧
      answers.Pairwise fun first second => first.1.base < second.1.base

theorem Advances.spared
    {before after : Tenancy (Recorder β)}
    (advances : Advances before after)
    (sound : before.Sound) :
    ∃ recent, after.dealings = recent ++ before.dealings ∧
      ∀ segment accepted, .release segment accepted ∈ recent →
        (∀ span ∈ before.outstanding ++ after.outstanding, segment.span.Apart span) ∧
        (accepted = false → after.allocator.Retains segment) := by
  cases advances with
  | asked recent dealings commits =>
      refine ⟨recent, dealings, fun segment accepted member => ?_⟩
      obtain ⟨len, granted, same⟩ := commits _ member
      cases same
  | trimmed depth allocator outstanding =>
      obtain ⟨answers, asked, dealings, arena, -⟩ := before.allocator.trim_cases depth
      refine ⟨Dealing.releases answers, ?_, fun segment accepted member => ⟨?_, ?_⟩⟩
      · rw [Tenancy.dealings, allocator]
        exact dealings
      · have answered := List.mem_map_of_mem (f := Prod.fst) (Dealing.mem_releases.mp member)
        have idle : segment ∈ before.allocator.arena.idle :=
          List.mem_of_mem_drop (asked.isPrefix.subset answered)
        have apart := (sound.mem_idle_iff.mp idle).2
        rw [outstanding]
        intro span spanMember
        exact apart span ((List.mem_append.mp spanMember).elim id id)
      · rintro rfl
        obtain ⟨own, consistent, -, -⟩ := sound
        rw [allocator]
        exact consistent.retains_of_refused asked arena (Dealing.mem_releases.mp member)

theorem Advances.due
    {before after : Tenancy (Recorder β)}
    (advances : Advances before after)
    (sound : before.Sound)
    (due : Dealing.Due before.dealings) :
    Dealing.Due after.dealings := by
  cases advances with
  | asked recent dealings commits =>
      rw [dealings]
      exact due.commits commits
  | trimmed depth allocator outstanding =>
      obtain ⟨answers, asked, dealings, -⟩ := before.allocator.trim_cases depth
      rw [Tenancy.dealings, allocator, dealings]
      have candidates := asked.isPrefix.sublist.trans (List.drop_sublist 1 _)
      refine due.releases (before.allocator.arena.idle_nodup.sublist candidates) ?_
      intro answer member
      have idle := candidates.subset (List.mem_map_of_mem member)
      exact sound.lent.mem_iff.mpr (Arena.mem_idle.mp idle).1

/-- What holds of every moment and every step holds of the run. -/
theorem lending_of_advances
    {ι : Type}
    {moment : List ι → Tenancy (Recorder β)}
    {steps : List ι}
    (fresh : (moment []).dealings = [])
    (sound : ∀ before, before <+: steps → (moment before).Sound)
    (advances : ∀ before step, before ++ [step] <+: steps →
      Advances (moment before) (moment (before ++ [step])))
    (depth : Nat) :
    Lending moment steps ((moment steps).allocator.close depth) := by
  -- Each step keeps the releases due, as the moment before it is sound.
  have due : ∀ before, before <+: steps → Dealing.Due (moment before).dealings := by
    intro before
    induction before using List.reverseRecOn with
    | nil =>
        intro _
        rw [fresh]
        trivial
    | append_singleton before step inductionHypothesis =>
        intro isPrefix
        have shorter := (List.prefix_append before [step]).trans isPrefix
        exact (advances before step isPrefix).due (sound before shorter)
          (inductionHypothesis shorter)
  have whole := List.prefix_refl steps
  have lent := (sound steps whole).lent
  obtain ⟨answers, asked, dealings⟩ := (moment steps).allocator.close_dealings depth
  refine ⟨?_, ?_, ?_, ?_, ?_, answers, dealings, ?_, ?_⟩
  · rw [dealings]
    refine (due steps whole).releases ?_ ?_
    · rw [asked]
      exact Arena.held_nodup _
    · intro answer member
      exact lent.mem_iff.mpr (asked ▸ List.mem_map_of_mem member)
  · exact fun before isPrefix => (sound before isPrefix).lent
  · intro before isPrefix segment
    rw [(sound before isPrefix).mem_idle_iff, (sound before isPrefix).lent.mem_iff]
  · intro before isPrefix depth
    obtain ⟨answers, asked, dealings, -⟩ := (moment before).allocator.trim_cases depth
    exact ⟨answers, asked, dealings⟩
  · intro before step isPrefix
    have shorter := (List.prefix_append before [step]).trans isPrefix
    exact (advances before step isPrefix).spared (sound before shorter)
  · rw [asked]
    exact lent.symm
  · have ascending := (moment steps).allocator.arena.held_ascending
    rw [← asked, List.pairwise_map] at ascending
    exact ascending

theorem advances_step
    (depth : Nat)
    (tenancy : Tenancy (Recorder β))
    (request : Request) :
    Advances tenancy (tenancy.step depth request) := by
  cases request with
  | allocate reserved align =>
      simp only [step]
      split
      · rename_i carve after allocated
        exact advances_allocate allocated _ _
      · rename_i err after allocated
        exact advances_allocate allocated _ _
  | free span =>
      exact advances_free _ _ _ _ _
  | resize span reserved =>
      simp only [step]
      split
      · rename_i after resized
        exact advances_resize? resized _ _
      · exact advances_of_same_dealings rfl
  | trim =>
      exact .trimmed depth rfl rfl

theorem run_append
    (depth : Nat)
    (tenancy : Tenancy β)
    (first second : List Request) :
    tenancy.run depth (first ++ second) = (tenancy.run depth first).run depth second :=
  List.foldl_append

theorem allows_earlier
    {depth : Nat}
    {tenancy : Tenancy β}
    {first second : List Request}
    (isPrefix : first <+: second)
    (allowed : tenancy.Allows depth second) :
    tenancy.Allows depth first := by
  induction first generalizing tenancy second with
  | nil =>
      trivial
  | cons request first inductionHypothesis =>
      obtain ⟨rest, rfl⟩ := isPrefix
      exact ⟨allowed.1, inductionHypothesis (List.prefix_append first rest) allowed.2⟩

theorem honest_earlier
    {depth : Nat}
    {tenancy : Tenancy (Recorder β)}
    {first second : List Request}
    (isPrefix : first <+: second)
    (honest : Dealing.Honest (tenancy.run depth second).dealings) :
    Dealing.Honest (tenancy.run depth first).dealings := by
  obtain ⟨rest, rfl⟩ := isPrefix
  obtain ⟨recent, whole⟩ := dealings_run depth (tenancy.run depth first) rest
  rw [run_append, whole] at honest
  exact honest.earlier

/-- The segments of an allocator that serves its callers' requests. -/
theorem lending_requests
    (tier : Tier)
    (backend : β)
    (capacity : Option Nat)
    (segmentSize depth closingDepth : Nat)
    {requests : List Request}
    (allowed : (start tier (Recorder.start backend) capacity segmentSize).Allows depth requests)
    (honest : Dealing.Honest
      ((start tier (Recorder.start backend) capacity segmentSize).run depth requests).dealings) :
    Lending
      (fun before =>
        (start tier (Recorder.start backend) capacity segmentSize).run depth before)
      requests
      (((start tier (Recorder.start backend) capacity segmentSize).run depth
        requests).allocator.close closingDepth) := by
  refine lending_of_advances rfl ?_ ?_ closingDepth
  · intro before isPrefix
    apply sound_of_consistent
    exact consistent_run (Allocator.consistent_new tier backend capacity segmentSize)
      (allows_earlier isPrefix allowed) (honest_earlier isPrefix honest)
  · intro before step _
    rw [run_append]
    exact advances_step depth _ step

end Tenancy

end TierHeap
