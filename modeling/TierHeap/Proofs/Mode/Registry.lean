import TierHeap.Proofs.Mode.Slots

/-!
# The registers of a process

Threads make registers, set them, read them, turn their indicators on and drop them, one call
at a time.  A registry carries the calls out on the bank and the slots; a history of calls says
by itself what a read should find (`RegisterCall.selected`): the tier of the last set of the
register, by any thread in process scope and by the reading thread in thread scope.  After every
run the registry agrees with its history (`Registry.remembers_run`), however many slots of
dropped registers the threads still keep.
-/

namespace TierHeap

/-- A call on the registers of a process.  Registers are numbered from zero as they are
made. -/
inductive RegisterCall where
  | create (scope : ModeScope)
  | set (target : Nat) (tier : Tier)
  | read (target : Nat)
  | enable (target : Nat)
  | drop (target : Nat)
  deriving DecidableEq, Repr

/-- Calls with the threads that make them, in order. -/
abbrev RegisterHistory := List (Nat × RegisterCall)

namespace RegisterCall

/-- The register that a call is about, unless it makes a new one. -/
def target? : RegisterCall → Option Nat
  | .create _ => none
  | .set target _ => some target
  | .read target => some target
  | .enable target => some target
  | .drop target => some target

/-- The scope of the register that a call makes. -/
def createdScope? : RegisterCall → Option ModeScope
  | .create scope => some scope
  | _ => none

/-- The tier that a call of a thread selects for a register as far as another thread is
concerned. -/
def heard
    (scope : ModeScope)
    (register thread : Nat) : Nat × RegisterCall → Option Tier
  | (caller, .set target tier) =>
      if target = register ∧ ModeRegister.heardBy scope caller thread then some tier else none
  | _ => none

/-- The tier of the last set of a register that concerns a thread; the host tier if there is
none. -/
def selected
    (scope : ModeScope)
    (history : RegisterHistory)
    (register thread : Nat) : Tier :=
  (history.filterMap (heard scope register thread)).getLast?.getD .host

/-- The indicator of a register has been turned on. -/
def wasEnabled
    (history : RegisterHistory)
    (register : Nat) : Bool :=
  history.any fun item => item.2 = .enable register

def scopes (history : RegisterHistory) : List ModeScope :=
  history.filterMap fun item => item.2.createdScope?

variable (scope : ModeScope) (history : RegisterHistory) (item : Nat × RegisterCall)
  (register thread : Nat)

theorem selected_snoc :
    selected scope (history ++ [item]) register thread =
      (heard scope register thread item).getD (selected scope history register thread) := by
  rw [selected, List.filterMap_append, selected]
  cases found : heard scope register thread item with
  | none =>
      simp [found]
  | some tier =>
      simp [found]

theorem wasEnabled_snoc :
    wasEnabled (history ++ [item]) register =
      (wasEnabled history register || decide (item.2 = .enable register)) := by
  simp [wasEnabled]

theorem heard_of_other
    {item : Nat × RegisterCall}
    {register : Nat}
    (other : item.2.target? ≠ some register) :
    heard scope register thread item = none := by
  obtain ⟨caller, call⟩ := item
  cases call with
  | set target tier =>
      have differs : target ≠ register := fun same => other (congrArg some same)
      simp [heard, differs]
  | _ =>
      rfl

variable {history} {register}

theorem selected_of_unmentioned
    (unmentioned : ∀ item ∈ history, item.2.target? ≠ some register) :
    selected scope history register thread = .host := by
  have nothing : history.filterMap (heard scope register thread) = [] := by
    rw [List.filterMap_eq_nil_iff]
    exact fun item member => heard_of_other scope thread (unmentioned item member)
  rw [selected, nothing]
  rfl

theorem wasEnabled_of_unmentioned
    (unmentioned : ∀ item ∈ history, item.2.target? ≠ some register) :
    wasEnabled history register = false := by
  rw [wasEnabled, List.any_eq_false]
  intro item member enabled
  apply unmentioned item member
  rw [of_decide_eq_true enabled]
  rfl

end RegisterCall

structure Registry where
  bank : RegisterBank
  /-- The registers that were made, in order; a dropped one is `none`. -/
  made : List (Option ModeRegister)

namespace Registry

def initial : Registry :=
  ⟨.initial, []⟩

variable (registry : Registry)

def find? (target : Nat) : Option ModeRegister :=
  registry.made[target]?.join

/-- Go on with another bank and put something in the place of a register. -/
def put
    (bank : RegisterBank)
    (target : Nat)
    (changed : Option ModeRegister) : Registry :=
  ⟨bank, registry.made.set target changed⟩

def tier?
    (target thread : Nat) : Option Tier :=
  (registry.find? target).map fun register => register.read registry.bank thread

theorem find?_put
    {target : Nat}
    (inside : target < registry.made.length)
    (bank : RegisterBank)
    (changed : Option ModeRegister)
    (wanted : Nat) :
    (registry.put bank target changed).find? wanted =
      if wanted = target then changed else registry.find? wanted := by
  simp only [find?, put, List.getElem?_set]
  by_cases own : wanted = target
  · subst own
    simp [inside]
  · simp [own, Ne.symm own]

theorem find?_append
    (bank : RegisterBank)
    (register : ModeRegister)
    (wanted : Nat) :
    (Registry.mk bank (registry.made ++ [some register])).find? wanted =
      if wanted = registry.made.length then some register else registry.find? wanted := by
  simp only [find?]
  rcases Nat.lt_trichotomy wanted registry.made.length with before | here | after
  · rw [List.getElem?_append_left before, if_neg (Nat.ne_of_lt before)]
  · subst here
    simp
  · rw [if_neg (Nat.ne_of_gt after), List.getElem?_eq_none (by simp; omega),
      List.getElem?_eq_none (Nat.le_of_lt after)]

variable {registry}

theorem inside_of_find?
    {target : Nat}
    {register : ModeRegister}
    (found : registry.find? target = some register) :
    target < registry.made.length := by
  by_contra outside
  rw [find?, List.getElem?_eq_none (Nat.le_of_not_lt outside)] at found
  cases found

/-! ## Registries and their histories -/

/-- The registry is the one that its history leads to. -/
structure Sound
    (registry : Registry)
    (history : RegisterHistory) : Prop where
  counted : registry.made.length = (RegisterCall.scopes history).length
  numbered : registry.bank.nextId = registry.made.length + 1
  ids : ∀ target register, registry.find? target = some register → register.id = target + 1
  scope : ∀ target register, registry.find? target = some register →
    (RegisterCall.scopes history)[target]? = some register.scope
  live : ∀ id, id ∈ registry.bank.live ↔
    ∃ target register, registry.find? target = some register ∧ register.scope = .thread ∧
      register.id = id
  slots : ∀ thread, (registry.bank.slots thread).Kept registry.bank
  mentioned : ∀ item ∈ history, ∀ target, item.2.target? = some target →
    target < registry.made.length
  read : ∀ target register, registry.find? target = some register → ∀ thread,
    register.read registry.bank thread =
      RegisterCall.selected register.scope history target thread
  enabled : ∀ target register, registry.find? target = some register →
    register.enabled = RegisterCall.wasEnabled history target

namespace Sound

variable {history : RegisterHistory} {target : Nat} {register : ModeRegister}

theorem alive
    (sound : registry.Sound history)
    (found : registry.find? target = some register) :
    register.scope = .thread → register.id ∈ registry.bank.live :=
  fun scope => (sound.live _).mpr ⟨target, register, found, scope, rfl⟩

theorem id_lt
    (sound : registry.Sound history)
    (found : registry.find? target = some register) :
    register.id < registry.bank.nextId := by
  have inside := inside_of_find? found
  rw [sound.ids target register found, sound.numbered]
  omega

theorem target_eq
    (sound : registry.Sound history)
    {other : Nat}
    {otherRegister : ModeRegister}
    (found : registry.find? target = some register)
    (otherFound : registry.find? other = some otherRegister)
    (same : otherRegister.id = register.id) :
    other = target := by
  have id := sound.ids _ _ found
  have otherId := sound.ids _ _ otherFound
  omega

/-- No call was about a register that is yet to be made. -/
theorem unmentioned
    (sound : registry.Sound history)
    (fresh : registry.made.length ≤ target) :
    ∀ item ∈ history, item.2.target? ≠ some target := by
  intro item member mentioned
  have inside := sound.mentioned item member target mentioned
  omega

theorem create
    (sound : registry.Sound history)
    (thread : Nat)
    (scope : ModeScope) :
    (Registry.mk (registry.bank.create scope).2
        (registry.made ++ [some (registry.bank.create scope).1])).Sound
      (history ++ [(thread, .create scope)]) := by
  have scopes : RegisterCall.scopes (history ++ [(thread, .create scope)]) =
      RegisterCall.scopes history ++ [scope] := by
    simp [RegisterCall.scopes, RegisterCall.createdScope?]
  have sameSlots (caller : Nat) :
      (registry.bank.create scope).2.slots caller = registry.bank.slots caller := rfl
  -- A register found afterwards is the new one or one that was there.
  have cases {wanted : Nat} {register : ModeRegister}
      (found : (Registry.mk (registry.bank.create scope).2
        (registry.made ++ [some (registry.bank.create scope).1])).find? wanted =
          some register) :
      wanted = registry.made.length ∧ register = (registry.bank.create scope).1 ∨
        wanted < registry.made.length ∧ registry.find? wanted = some register := by
    rw [find?_append] at found
    split at found
    · rename_i last
      exact .inl ⟨last, (Option.some.inj found).symm⟩
    · exact .inr ⟨inside_of_find? found, found⟩
  refine ⟨?_, ?_, ?_, ?_, ?_, ?_, ?_, ?_, ?_⟩
  · rw [scopes, List.length_append, List.length_append, sound.counted]
    rfl
  · change registry.bank.nextId + 1 = _
    rw [List.length_append, sound.numbered]
    rfl
  · intro wanted register found
    rcases cases found with ⟨rfl, rfl⟩ | ⟨inside, held⟩
    · exact sound.numbered
    · exact sound.ids wanted register held
  · intro wanted register found
    rw [scopes]
    rcases cases found with ⟨rfl, rfl⟩ | ⟨inside, held⟩
    · rw [sound.counted, List.getElem?_concat_length]
      rfl
    · rw [List.getElem?_append_left (sound.counted ▸ inside)]
      exact sound.scope wanted register held
  · intro id
    have before := sound.live id
    have liveEq : id ∈ (registry.bank.create scope).2.live ↔
        scope = .thread ∧ id = registry.bank.nextId ∨ id ∈ registry.bank.live := by
      cases scope <;> simp [RegisterBank.create]
    rw [liveEq, before]
    constructor
    · rintro (⟨threadScoped, rfl⟩ | ⟨wanted, register, found, threadScoped, rfl⟩)
      · refine ⟨registry.made.length, (registry.bank.create scope).1, ?_, threadScoped, rfl⟩
        rw [find?_append, if_pos rfl]
      · refine ⟨wanted, register, ?_, threadScoped, rfl⟩
        rw [find?_append, if_neg (Nat.ne_of_lt (inside_of_find? found))]
        exact found
    · rintro ⟨wanted, register, found, threadScoped, rfl⟩
      rcases cases found with ⟨rfl, rfl⟩ | ⟨inside, held⟩
      · exact .inl ⟨threadScoped, rfl⟩
      · exact .inr ⟨wanted, register, held, threadScoped, rfl⟩
  · exact fun caller => (sound.slots caller).create scope
  · intro item member wanted mentioned
    rw [List.length_append]
    rcases List.mem_append.mp member with earlier | last
    · exact Nat.lt_add_right _ (sound.mentioned item earlier wanted mentioned)
    · rw [List.mem_singleton.mp last] at mentioned
      cases mentioned
  · intro wanted register found caller
    rw [RegisterCall.selected_snoc]
    change _ = RegisterCall.selected register.scope history wanted caller
    rcases cases found with ⟨rfl, rfl⟩ | ⟨inside, held⟩
    · rw [RegisterCall.selected_of_unmentioned _ _ (sound.unmentioned (Nat.le_refl _))]
      cases scope with
      | process =>
          rfl
      | thread =>
          -- Slots are of registers that were made before, so there is none for the new number.
          have absent : (registry.bank.slots caller).find? registry.bank.nextId = none := by
            rw [ThreadSlots.find?_eq_none_iff]
            exact fun member =>
              Nat.lt_irrefl _ ((sound.slots caller).made registry.bank.nextId member)
          change (((registry.bank.create .thread).2.slots caller).find?
            registry.bank.nextId).getD .host = .host
          rw [sameSlots, absent]
          rfl
    · exact sound.read wanted register held caller
  · intro wanted register found
    rw [RegisterCall.wasEnabled_snoc]
    change _ = (RegisterCall.wasEnabled history wanted || false)
    rw [Bool.or_false]
    rcases cases found with ⟨rfl, rfl⟩ | ⟨inside, held⟩
    · exact (RegisterCall.wasEnabled_of_unmentioned
        (sound.unmentioned (Nat.le_refl _))).symm
    · exact sound.enabled wanted register held

/-- A call that is about a register which stays, under its number and in its scope, keeps the
registry sound if the new slots, reads and indicators are as they should be. -/
theorem put
    (sound : registry.Sound history)
    (found : registry.find? target = some register)
    (item : Nat × RegisterCall)
    (about : item.2.target? = some target)
    (changed : ModeRegister)
    (sameScope : changed.scope = register.scope)
    (sameId : changed.id = register.id)
    {bank : RegisterBank}
    (sameNext : bank.nextId = registry.bank.nextId)
    (sameLive : bank.live = registry.bank.live)
    (slots : ∀ thread, (bank.slots thread).Kept bank)
    (read : ∀ thread, changed.read bank thread =
      (RegisterCall.heard register.scope target thread item).getD
        (register.read registry.bank thread))
    (readOther : ∀ other otherRegister, other ≠ target →
      registry.find? other = some otherRegister → ∀ thread,
        otherRegister.read bank thread = otherRegister.read registry.bank thread)
    (enabled : changed.enabled = (register.enabled || decide (item.2 = .enable target))) :
    (registry.put bank target (some changed)).Sound (history ++ [item]) := by
  have inside := inside_of_find? found
  have lengths : (registry.put bank target (some changed)).made.length = registry.made.length :=
    List.length_set
  have scopes : RegisterCall.scopes (history ++ [item]) = RegisterCall.scopes history := by
    obtain ⟨caller, call⟩ := item
    cases call with
    | create scope =>
        cases about
    | _ =>
        simp [RegisterCall.scopes, RegisterCall.createdScope?]
  -- A register found afterwards is the changed one or another one that was there.
  have cases {wanted : Nat} {held : ModeRegister}
      (after : (registry.put bank target (some changed)).find? wanted = some held) :
      wanted = target ∧ held = changed ∨
        wanted ≠ target ∧ registry.find? wanted = some held := by
    rw [find?_put _ inside] at after
    split at after
    · rename_i own
      exact .inl ⟨own, (Option.some.inj after).symm⟩
    · rename_i other
      exact .inr ⟨other, after⟩
  refine ⟨?_, ?_, ?_, ?_, ?_, slots, ?_, ?_, ?_⟩
  · rw [lengths, scopes, sound.counted]
  · rw [lengths, ← sound.numbered]
    exact sameNext
  · intro wanted held after
    rcases cases after with ⟨rfl, rfl⟩ | ⟨other, before⟩
    · exact sameId.trans (sound.ids wanted register found)
    · exact sound.ids wanted held before
  · intro wanted held after
    rw [scopes]
    rcases cases after with ⟨rfl, rfl⟩ | ⟨other, before⟩
    · rw [sameScope]
      exact sound.scope wanted register found
    · exact sound.scope wanted held before
  · intro id
    change id ∈ bank.live ↔ _
    rw [sameLive, sound.live]
    constructor
    · rintro ⟨wanted, held, before, threadScoped, rfl⟩
      by_cases own : wanted = target
      · subst own
        obtain rfl := Option.some.inj (found.symm.trans before)
        refine ⟨wanted, changed, ?_, sameScope.trans threadScoped, sameId⟩
        rw [find?_put _ inside, if_pos rfl]
      · refine ⟨wanted, held, ?_, threadScoped, rfl⟩
        rw [find?_put _ inside, if_neg own]
        exact before
    · rintro ⟨wanted, held, after, threadScoped, rfl⟩
      rcases cases after with ⟨rfl, rfl⟩ | ⟨other, before⟩
      · exact ⟨wanted, register, found, sameScope.symm.trans threadScoped, sameId.symm⟩
      · exact ⟨wanted, held, before, threadScoped, rfl⟩
  · intro earlier member wanted mentioned
    rw [lengths]
    rcases List.mem_append.mp member with isEarlier | last
    · exact sound.mentioned earlier isEarlier wanted mentioned
    · rw [List.mem_singleton.mp last, about] at mentioned
      exact Option.some.inj mentioned ▸ inside
  · intro wanted held after thread
    rw [RegisterCall.selected_snoc]
    rcases cases after with ⟨rfl, rfl⟩ | ⟨other, before⟩
    · rw [sameScope, ← sound.read wanted register found thread]
      exact read thread
    · rw [RegisterCall.heard_of_other, Option.getD_none, ← sound.read wanted held before thread]
      · exact readOther wanted held other before thread
      · rw [about]
        exact fun same => other (Option.some.inj same).symm
  · intro wanted held after
    rw [RegisterCall.wasEnabled_snoc]
    rcases cases after with ⟨rfl, rfl⟩ | ⟨other, before⟩
    · rw [← sound.enabled wanted register found]
      exact enabled
    · have notThis : item.2 ≠ .enable wanted := by
        intro same
        rw [same] at about
        exact other (Option.some.inj about)
      rw [decide_eq_false notThis, Bool.or_false]
      exact sound.enabled wanted held before

theorem set
    (sound : registry.Sound history)
    (found : registry.find? target = some register)
    (thread : Nat)
    (tier : Tier) :
    (registry.put (register.set registry.bank thread tier).2.2 target
        (some (register.set registry.bank thread tier).2.1)).Sound
      (history ++ [(thread, .set target tier)]) := by
  have alive := sound.alive found
  obtain ⟨sameScope, sameId, sameEnabled⟩ := register.set_register registry.bank thread tier
  obtain ⟨sameNext, sameLive, keeps⟩ := register.set_bank registry.bank thread tier
  apply sound.put found (thread, .set target tier) rfl _ sameScope sameId sameNext sameLive
  · exact keeps (sound.id_lt found) alive sound.slots
  · intro reader
    rw [ModeRegister.read_set _ _ _ _ _ alive, RegisterCall.heard]
    cases ModeRegister.heardBy register.scope thread reader <;> simp
  · intro other otherRegister different otherFound reader
    apply ModeRegister.read_set_other
    · exact fun same => different (sound.target_eq found otherFound same)
    · exact sound.alive otherFound
  · rw [sameEnabled]
    simp

theorem enable
    (sound : registry.Sound history)
    (found : registry.find? target = some register)
    (thread : Nat) :
    (registry.put registry.bank target (some register.enable.2)).Sound
      (history ++ [(thread, .enable target)]) := by
  apply sound.put found (thread, .enable target) rfl register.enable.2 rfl rfl rfl rfl sound.slots
  · exact fun _ => rfl
  · exact fun _ _ _ _ _ => rfl
  · simp [ModeRegister.enable]

/-- A register that is dropped leaves its slots behind; nobody else's are touched. -/
theorem drop
    (sound : registry.Sound history)
    (found : registry.find? target = some register)
    (thread : Nat) :
    (registry.put (registry.bank.retire register) target none).Sound
      (history ++ [(thread, .drop target)]) := by
  have inside := inside_of_find? found
  obtain ⟨sameNext, sameSlots, live⟩ := registry.bank.retire_bank register
  have lengths :
      (registry.put (registry.bank.retire register) target none).made.length =
        registry.made.length :=
    List.length_set
  have scopes : RegisterCall.scopes (history ++ [(thread, .drop target)]) =
      RegisterCall.scopes history := by
    simp [RegisterCall.scopes, RegisterCall.createdScope?]
  have find (wanted : Nat) (held : ModeRegister) :
      (registry.put (registry.bank.retire register) target none).find? wanted = some held ↔
        wanted ≠ target ∧ registry.find? wanted = some held := by
    rw [find?_put _ inside]
    split <;> simp_all
  refine ⟨?_, ?_, ?_, ?_, ?_, ?_, ?_, ?_, ?_⟩
  · rw [lengths, scopes, sound.counted]
  · rw [lengths, ← sound.numbered]
    exact sameNext
  · exact fun wanted held after => sound.ids wanted held ((find wanted held).mp after).2
  · rw [scopes]
    exact fun wanted held after => sound.scope wanted held ((find wanted held).mp after).2
  · intro id
    change id ∈ (registry.bank.retire register).live ↔ _
    rw [live, sound.live]
    constructor
    · rintro ⟨⟨wanted, held, before, threadScoped, rfl⟩, stays⟩
      refine ⟨wanted, held, (find wanted held).mpr ⟨?_, before⟩, threadScoped, rfl⟩
      rintro rfl
      obtain rfl := Option.some.inj (found.symm.trans before)
      exact stays threadScoped rfl
    · rintro ⟨wanted, held, after, threadScoped, rfl⟩
      obtain ⟨other, before⟩ := (find wanted held).mp after
      refine ⟨⟨wanted, held, before, threadScoped, rfl⟩, fun _ same => ?_⟩
      exact other (sound.target_eq found before same)
  · intro caller
    change ((registry.bank.retire register).slots caller).Kept _
    rw [sameSlots]
    exact (sound.slots caller).retire register
  · intro item member wanted mentioned
    rw [lengths]
    rcases List.mem_append.mp member with earlier | last
    · exact sound.mentioned item earlier wanted mentioned
    · rw [List.mem_singleton.mp last] at mentioned
      exact Option.some.inj mentioned ▸ inside
  · intro wanted held after reader
    rw [RegisterCall.selected_snoc]
    exact (held.read_retire registry.bank register reader).trans
      (sound.read wanted held ((find wanted held).mp after).2 reader)
  · intro wanted held after
    rw [RegisterCall.wasEnabled_snoc,
      sound.enabled wanted held ((find wanted held).mp after).2]
    simp

end Sound

end Registry

end TierHeap
