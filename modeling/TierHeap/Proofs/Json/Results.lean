import TierHeap.Proofs.Json.Contents

/-!
# What is read

Every number in a value that has been read is a word, a negative number down to `-2 ^ 63` or a
double, and no more arrays and objects are inside each other than may be open at a time
(`Json.admitted_of_read?`).  Each token that the reader takes keeps this up for all that it holds.
-/

namespace TierHeap

def JsonNumber.InRange : JsonNumber → Prop
  | .natural n => n < Word.bound
  | .negative size => 0 < size ∧ size ≤ Nat.pow 2 63
  | .double _ => True

theorem JsonNumber.InRange.whole
    {number : JsonNumber}
    (inRange : number.InRange)
    (notDouble : ∀ x, number ≠ .double x) :
    number.Whole := by
  cases number with
  | natural n => exact inRange
  | negative size => exact inRange
  | double x => exact absurd rfl (notDouble x)

namespace Json

namespace Token

/-- A token that stands for a number has one in range. -/
def InRange : Token → Prop
  | .number value => value.InRange
  | _ => True

theorem inRange_of_value?
    {parts : NumberParts}
    {value : JsonNumber}
    (read : parts.value? = some value) :
    value.InRange := by
  unfold NumberParts.value? at read
  dsimp only at read
  split at read
  · rename_i natural
    cases read
    exact natural.2.2.2
  · split at read
    · rename_i negative
      cases read
      exact negative.2.2.2
    · obtain ⟨x, -, rfl⟩ := Option.map_eq_some_iff.mp read
      exact trivial

theorem inRange_of_takeNumber?
    {cs rest : List Char}
    {value : JsonNumber}
    (taken : takeNumber? cs = some (value, rest)) :
    value.InRange := by
  obtain ⟨⟨parts, left⟩, -, valued⟩ := Option.bind_eq_some_iff.mp taken
  obtain ⟨number, read, same⟩ := Option.map_eq_some_iff.mp valued
  cases same
  exact inRange_of_value? read

theorem inRange_of_take?
    {cs rest : List Char}
    {token : Token}
    (taken : take? cs = some (token, rest)) :
    token.InRange := by
  unfold take? at taken
  split at taken
  case h_10 =>
    obtain ⟨⟨text, left⟩, -, same⟩ := Option.map_eq_some_iff.mp taken
    cases same
    exact trivial
  case h_11 =>
    obtain ⟨⟨value, left⟩, number, same⟩ := Option.map_eq_some_iff.mp taken
    cases same
    exact inRange_of_takeNumber? number
  all_goals
    cases taken
    exact trivial

theorem inRange_of_scanWith
    {fuel : Nat}
    {cs : List Char}
    {tokens : List Token}
    (scanned : scanWith fuel cs = some tokens) :
    ∀ token ∈ tokens, token.InRange := by
  induction fuel generalizing cs tokens with
  | zero =>
      rw [scanWith] at scanned
      split at scanned <;> cases scanned
      simp
  | succ fuel inductionHypothesis =>
      rw [scanWith] at scanned
      split at scanned
      · cases scanned
        simp
      · obtain ⟨⟨token, left⟩, taken, remaining⟩ := Option.bind_eq_some_iff.mp scanned
        obtain ⟨others, rest, rfl⟩ := Option.map_eq_some_iff.mp remaining
        exact List.forall_mem_cons.mpr ⟨inRange_of_take? taken, inductionHypothesis rest⟩

end Token

/-! ## The reader -/

/-- The numbers of the value are in range, and it is read with room for so many open arrays and
objects. -/
structure Admitted
    (value : Json)
    (room : Nat) : Prop where
  inRange : ∀ number ∈ value.numbers, number.InRange
  shallow : value.depth ≤ room

theorem admitted_array
    {items : List Json}
    {room : Nat}
    (admitted : ∀ item ∈ items, item.Admitted room) :
    (Json.array items).Admitted (room + 1) := by
  constructor
  · intro number inside
    rw [numbers, mem_itemNumbers] at inside
    obtain ⟨item, member, inside⟩ := inside
    exact (admitted item member).inRange number inside
  · rw [depth, Nat.add_le_add_iff_right, itemDepth_le_iff]
    exact fun item member => (admitted item member).shallow

theorem admitted_object
    {members : List (String × Json)}
    {room : Nat}
    (admitted : ∀ member ∈ members, member.2.Admitted room) :
    (Json.object members).Admitted (room + 1) := by
  constructor
  · intro number inside
    rw [numbers, mem_memberNumbers] at inside
    obtain ⟨member, isMember, inside⟩ := inside
    exact (admitted member isMember).inRange number inside
  · rw [depth, Nat.add_le_add_iff_right, memberDepth_le_iff]
    exact fun member isMember => (admitted member isMember).shallow

/-- What an object holds has one place less. -/
theorem Admitted.member
    {members : List (String × Json)}
    {room : Nat}
    (admitted : (Json.object members).Admitted (room + 1))
    {member : String × Json}
    (isMember : member ∈ members) :
    member.2.Admitted room := by
  have shallow := admitted.shallow
  rw [depth, Nat.add_le_add_iff_right] at shallow
  refine ⟨fun number inside => admitted.inRange number ?_,
    memberDepth_le_iff.mp shallow member isMember⟩
  rw [numbers, mem_memberNumbers]
  exact ⟨member, isMember, inside⟩

theorem Admitted.canonical
    {value : Json}
    {room : Nat}
    (admitted : value.Admitted room) :
    value.canonical.Admitted room :=
  ⟨fun number inside => admitted.inRange number (numbers_canonical_subset value inside),
    (depth_canonical_le value).trans admitted.shallow⟩

/-- Without a double, a value that is admitted is read as itself. -/
theorem Admitted.fits
    {value : Json}
    {room : Nat}
    (admitted : value.Admitted room)
    (doubleFree : value.DoubleFree) :
    value.Fits room :=
  fits_of_numbers
    (fun number inside => (admitted.inRange number inside).whole (doubleFree number inside))
    admitted.shallow

/-- The values that an open array or object holds so far. -/
def Frame.values : Frame → List Json
  | .array items => items
  | .object members => members.map Prod.snd
  | .member members _ => members.map Prod.snd

namespace Reader

/-- What the open arrays and objects hold is admitted with the room that is left inside
them. -/
def Kept : List Frame → Prop
  | [] => True
  | frame :: rest =>
      rest.length < maxDepth ∧
        (∀ value ∈ frame.values, value.Admitted (maxDepth - (rest.length + 1))) ∧ Kept rest

/-- The reader holds only what is admitted. -/
structure Sound (reader : Reader) : Prop where
  kept : Kept reader.stack
  result : ∀ value, reader.awaiting = .done value → value.Admitted maxDepth

/-- The latest of the open arrays and objects may hold one more value that is admitted. -/
theorem Kept.enter
    {before after : Frame}
    {stack : List Frame}
    (kept : Kept (before :: stack))
    {value : Json}
    (admitted : value.Admitted (maxDepth - (stack.length + 1)))
    (entered : after.values = value :: before.values) :
    Kept (after :: stack) := by
  refine ⟨kept.1, ?_, kept.2.2⟩
  rw [entered]
  exact List.forall_mem_cons.mpr ⟨admitted, kept.2.1⟩

theorem sound_deliver
    {stack : List Frame}
    (kept : Kept stack)
    {value : Json}
    (admitted : value.Admitted (maxDepth - stack.length))
    {reader : Reader}
    (delivered : deliver stack value = some reader) :
    reader.Sound := by
  unfold deliver at delivered
  split at delivered
  · cases delivered
    refine ⟨trivial, ?_⟩
    rintro _ ⟨⟩
    exact admitted
  · cases delivered
    exact ⟨kept.enter admitted rfl, by simp⟩
  · cases delivered
    exact ⟨kept.enter admitted rfl, by simp⟩
  · cases delivered

theorem sound_openFrame
    {stack : List Frame}
    (kept : Kept stack)
    {frame : Frame}
    (empty : frame.values = [])
    {awaiting : Awaiting}
    (unfinished : ∀ value, awaiting ≠ .done value)
    {reader : Reader}
    (opened : openFrame stack frame awaiting = some reader) :
    reader.Sound := by
  rw [openFrame] at opened
  split at opened
  · rename_i room
    cases opened
    exact ⟨⟨room, by simp [empty], kept⟩, fun value same => absurd same (unfinished value)⟩
  · cases opened

theorem sound_close
    {stack : List Frame}
    (kept : Kept stack)
    {token : Token}
    {reader : Reader}
    (closed : close stack token = some reader) :
    reader.Sound := by
  -- What is closed has one place more than what it holds.
  have room {rest : List Frame} (isOpen : rest.length < maxDepth) :
      maxDepth - (rest.length + 1) + 1 = maxDepth - rest.length := by
    omega
  unfold close at closed
  split at closed
  · rename_i items rest
    obtain ⟨isOpen, held, kept⟩ := kept
    have admitted := admitted_array fun item member => held item (List.mem_reverse.mp member)
    rw [room isOpen] at admitted
    exact sound_deliver kept admitted closed
  · rename_i members rest
    obtain ⟨isOpen, held, kept⟩ := kept
    have admitted := admitted_object fun member isMember =>
      held member.2 (List.mem_map_of_mem (List.mem_reverse.mp isMember))
    rw [room isOpen] at admitted
    exact sound_deliver kept admitted closed
  · cases closed

theorem sound_takeValue
    {stack : List Frame}
    (kept : Kept stack)
    {token : Token}
    (inRange : token.InRange)
    {reader : Reader}
    (taken : takeValue stack token = some reader) :
    reader.Sound := by
  have flat {value : Json}
      (numbers : ∀ number ∈ value.numbers, number.InRange)
      (flat : value.depth = 0) :
      value.Admitted (maxDepth - stack.length) :=
    ⟨numbers, by omega⟩
  cases token with
  | null =>
      exact sound_deliver kept (flat (by simp [numbers]) (by rw [depth])) taken
  | bool value =>
      exact sound_deliver kept (flat (by simp [numbers]) (by rw [depth])) taken
  | number value =>
      have numbers : ∀ number ∈ (Json.number value).numbers, number.InRange := by
        simpa [numbers, Token.InRange] using inRange
      exact sound_deliver kept (flat numbers (by rw [depth])) taken
  | string text =>
      exact sound_deliver kept (flat (by simp [numbers]) (by rw [depth])) taken
  | beginArray =>
      exact sound_openFrame kept rfl (by simp) taken
  | beginObject =>
      exact sound_openFrame kept rfl (by simp) taken
  | _ =>
      cases taken

theorem sound_takeKey
    {stack : List Frame}
    (kept : Kept stack)
    {token : Token}
    {reader : Reader}
    (taken : takeKey stack token = some reader) :
    reader.Sound := by
  unfold takeKey at taken
  split at taken
  · cases taken
    exact ⟨kept, by simp⟩
  · cases taken

theorem sound_takeNext
    {stack : List Frame}
    (kept : Kept stack)
    {token : Token}
    {reader : Reader}
    (taken : takeNext stack token = some reader) :
    reader.Sound := by
  unfold takeNext at taken
  split at taken
  · cases taken
    exact ⟨kept, by simp⟩
  · cases taken
    exact ⟨kept, by simp⟩
  · exact sound_close kept taken

/-- One token adds nothing that is not admitted. -/
theorem Sound.step
    {reader next : Reader}
    (sound : reader.Sound)
    {token : Token}
    (inRange : token.InRange)
    (stepped : reader.step token = some next) :
    next.Sound := by
  obtain ⟨stack, awaiting⟩ := reader
  have kept := sound.kept
  cases awaiting with
  | value =>
      exact sound_takeValue kept inRange stepped
  | firstItem =>
      dsimp only [Reader.step] at stepped
      split at stepped
      · exact sound_close kept stepped
      · exact sound_takeValue kept inRange stepped
  | firstKey =>
      dsimp only [Reader.step] at stepped
      split at stepped
      · exact sound_close kept stepped
      · exact sound_takeKey kept stepped
  | key =>
      exact sound_takeKey kept stepped
  | colon =>
      dsimp only [Reader.step] at stepped
      split at stepped
      · cases stepped
        exact ⟨kept, by simp⟩
      · cases stepped
  | next =>
      exact sound_takeNext kept stepped
  | done value =>
      cases stepped

theorem Sound.run
    {tokens : List Token}
    {reader last : Reader}
    (sound : reader.Sound)
    (inRange : ∀ token ∈ tokens, token.InRange)
    (ran : reader.run tokens = some last) :
    last.Sound := by
  induction tokens generalizing reader with
  | nil =>
      cases ran
      exact sound
  | cons token rest inductionHypothesis =>
      obtain ⟨first, others⟩ := List.forall_mem_cons.mp inRange
      obtain ⟨next, stepped, ran⟩ := Option.bind_eq_some_iff.mp ran
      exact inductionHypothesis (sound.step first stepped) others ran

end Reader

/-- A value that has been read is admitted with as much room as the reader has. -/
theorem admitted_of_read?
    {text : String}
    {value : Json}
    (read : read? text = some value) :
    value.Admitted Reader.maxDepth := by
  obtain ⟨tokens, scanned, read⟩ := Option.bind_eq_some_iff.mp read
  obtain ⟨reader, ran, finished⟩ := Option.bind_eq_some_iff.mp read
  have start : Reader.start.Sound := ⟨trivial, by simp [Reader.start]⟩
  have sound := start.run (Token.inRange_of_scanWith scanned) ran
  unfold Reader.result? at finished
  split at finished
  · rename_i awaiting
    cases finished
    exact sound.result value awaiting
  · cases finished

/-- The members of an object that has been read are admitted inside it, and are in dictionary
form. -/
theorem member_of_readCanonical?
    {text : String}
    {members : List (String × Json)}
    (read : readCanonical? text = some (.object members))
    {member : String × Json}
    (isMember : member ∈ members) :
    member.2.Admitted (Reader.maxDepth - 1) ∧ member.2.canonical = member.2 := by
  obtain ⟨value, read, same⟩ := Option.map_eq_some_iff.mp read
  have admitted := (admitted_of_read? read).canonical
  rw [same] at admitted
  refine ⟨admitted.member isMember, ?_⟩
  cases value with
  | object written =>
      rw [canonical] at same
      cases same
      obtain ⟨original, -, same⟩ := exists_of_mem_sorted isMember
      rw [← same, canonical_canonical]
  | _ =>
      rw [canonical] at same
      cases same

end Json

end TierHeap
