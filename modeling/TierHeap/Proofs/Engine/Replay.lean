import TierHeap.Proofs.Engine.Changes
import TierHeap.Proofs.Engine.Reporting
import TierHeap.Proofs.Engine.Separation

/-!
# The log rebuilds the table

Someone who reads the whole log of an engine, by draining it now and then, knows its blocks:
replaying the records gives the addresses, sizes and tiers in the block table, and every record
on the way is true (`LogReader.replayed_run`).  It takes a log that records everything and has
dropped nothing, and backends that owe their dealings: when the same memory is lent to both
tiers, a block can displace another one, and the log then tells of more blocks than there are
(`LogReader.untruthful_overlap`).
-/

namespace TierHeap

def Block.entry (block : Block) : Nat × Nat × Tier :=
  (block.addr, block.size, block.tier)

/-- The inventory has the blocks of the table. -/
def Log.Inventory.Mirrors
    (inventory : Log.Inventory)
    (table : BlockTable) : Prop :=
  inventory.entries.Perm (table.blocks.map Block.entry)

namespace Log.Inventory.Mirrors

variable {inventory : Log.Inventory} {table : BlockTable}

theorem absent
    (mirrors : inventory.Mirrors table)
    (filed : table.Filed)
    {addr : Nat}
    (absent : table.get? addr = none) :
    inventory.find? addr = none := by
  by_contra present
  obtain ⟨held, found⟩ := Option.ne_none_iff_exists'.mp present
  have member := mirrors.mem_iff.mp (NatMap.find?_eq_some_iff _ |>.mp found)
  obtain ⟨block, inTable, same⟩ := List.mem_map.mp member
  have inside := filed.mem_blocks_iff.mp inTable
  cases same
  rw [absent] at inside
  cases inside

theorem found
    (mirrors : inventory.Mirrors table)
    (filed : table.Filed)
    {block : Block}
    (found : table.get? block.addr = some block) :
    inventory.find? block.addr = some (block.size, block.tier) := by
  have member : block.entry ∈ table.blocks.map Block.entry :=
    List.mem_map_of_mem (filed.mem_blocks_iff.mpr found)
  exact NatMap.find?_eq_some_iff _ |>.mpr (mirrors.mem_iff.mpr member)

theorem size
    (mirrors : inventory.Mirrors table) :
    inventory.size = table.size := by
  rw [NatMap.size, mirrors.length_eq, List.length_map, BlockTable.size_eq_length]

theorem bytes
    (mirrors : inventory.Mirrors table) :
    inventory.bytes = (table.blocks.map Block.size).sum := by
  have sizes := mirrors.map fun entry => entry.2.1
  rw [List.map_map] at sizes
  rw [Log.Inventory.bytes, NatMap.values, List.map_map]
  exact sizes.sum_eq

/-- In address order, the entries are those of the table. -/
theorem entries_eq
    (mirrors : inventory.Mirrors table) :
    inventory.entries = table.snapshot.map Block.entry := by
  have same := mirrors.trans ((Engine.snapshot_perm table).symm.map Block.entry)
  have sorted : (table.snapshot.map Block.entry).Pairwise fun first second => first.1 ≤ second.1 :=
    List.pairwise_map.mpr (Engine.snapshot_sorted table)
  refine same.eq_of_pairwise ?_ (inventory.ascending.imp Nat.le_of_lt) sorted
  rintro ⟨key, held⟩ ⟨other, kept⟩ member otherMember upwards downwards
  obtain rfl : key = other := Nat.le_antisymm upwards downwards
  have first := NatMap.find?_eq_some_iff _ |>.mpr member
  have second := NatMap.find?_eq_some_iff _ |>.mpr (same.mem_iff.mpr otherMember)
  rw [first] at second
  cases second
  rfl

end Log.Inventory.Mirrors

namespace Task.Ends

variable {β : Type} [Backend β] {engine : Engine (Recorder β)} {task : Task} {reply : Reply}
  {change : Change (Recorder β)}

/-- A change that tells of no block leaves the blocks of the log alone. -/
theorem mirrors_of_silent
    (ends : task.Ends engine.tiers engine.table reply change)
    (silent : change.tale? = none)
    {inventory : Log.Inventory}
    (mirrors : inventory.Mirrors engine.table) :
    inventory.Mirrors (change.apply engine).table := by
  cases ends with
  | allocated valid tried | freed found | resized valid found tried =>
      cases silent
  | _ =>
      exact mirrors

/-- What a change tells fits the table before it and makes the table after it. -/
theorem mirrors_of_tale
    (ends : task.Ends engine.tiers engine.table reply change)
    {flight : List Block}
    (accounted : engine.Accounted flight)
    (abiding : Dealing.Abiding (change.apply engine).tiers.dealings)
    {tale : Log.Tale}
    (told : change.tale? = some tale)
    {inventory : Log.Inventory}
    (mirrors : inventory.Mirrors engine.table) :
    tale.Fits inventory ∧ (tale.apply inventory).Mirrors (change.apply engine).table := by
  have filed := accounted.filed
  cases ends with
  | allocated valid tried =>
      cases told
      have fresh := (inFlight accounted valid tried abiding).fresh abiding
      have absent := mirrors.absent filed fresh
      refine ⟨absent, (NatMap.entries_insert_perm absent _).trans ?_⟩
      exact (mirrors.cons _).trans ((BlockTable.insert_perm fresh).symm.map Block.entry)
  | freed found =>
      cases told
      obtain rfl := filed.get?_addr found
      have held := mirrors.found filed found
      refine ⟨held, ?_⟩
      have taken := (NatMap.entries_erase_perm held).symm.trans mirrors
      exact (taken.trans ((BlockTable.remove_perm found).map Block.entry)).cons_inv
  | @resized addr size reserved block allocator valid found tried =>
      cases told
      obtain rfl := filed.get?_addr found
      have held := mirrors.found filed found
      refine ⟨⟨block.size, held⟩, ?_⟩
      have taken := (NatMap.entries_erase_perm held).symm.trans mirrors
      have others := (taken.trans ((BlockTable.remove_perm found).map Block.entry)).cons_inv
      have now := BlockTable.modify_perm found fun kept =>
        { kept with size := size, reserved := reserved }
      apply (NatMap.entries_modify_perm held _).trans
      exact (others.cons _).trans (now.symm.map Block.entry)
  | _ =>
      cases told

end Task.Ends

/-! ## Reading a log -/

/-- A session and the records that were taken out of its log, oldest first. -/
structure LogReader (β : Type) where
  session : Session β
  drained : List Log.Record

namespace LogReader

variable {β : Type}

/-- A call on behalf of a thread, or taking the records out. -/
inductive Step where
  | call (thread : Nat) (call : Call)
  | drain
  deriving DecidableEq, Repr

def start (session : Session β) : LogReader β :=
  ⟨session, []⟩

/-- The records that were taken out, followed by those in the log. -/
def records (reader : LogReader β) : List Log.Record :=
  reader.drained ++ reader.session.engine.log.snapshot

def step
    [Backend β]
    (reader : LogReader β) : Step → LogReader β
  | .call thread call => { reader with session := (reader.session.call thread call).2 }
  | .drain =>
      let (records, engine) := reader.session.engine.drainLog
      ⟨reader.session.withEngine engine, reader.drained ++ records⟩

def run
    [Backend β]
    (reader : LogReader β)
    (steps : List Step) : LogReader β :=
  steps.foldl step reader

/-- The records rebuild the table, are true and are numbered from one on. -/
structure Replayed (reader : LogReader β) : Prop where
  entries :
    (Log.replay reader.records).entries =
      reader.session.engine.table.snapshot.map Block.entry
  truthful : Log.Truthful reader.records
  numbers :
    reader.records.map Log.Record.decisionId = List.range' 1 reader.records.length

/-- All records that there were, with what they say of the engine. -/
structure Kept
    (reader : LogReader (Recorder β))
    (records : List Log.Record) : Prop where
  accounted : reader.session.engine.Accounted []
  gauged : reader.session.engine.Gauged
  threshold : reader.session.engine.log.threshold = some .trace
  holds : reader.session.engine.log.Holds reader.drained records
  truthful : Log.Truthful records
  mirrors : (Log.replay records).Mirrors reader.session.engine.table

variable {reader : LogReader (Recorder β)} {records : List Log.Record}

theorem Kept.replayed
    (kept : reader.Kept records)
    (complete : reader.session.engine.log.dropped = 0) :
    reader.Replayed := by
  have whole : reader.records = records := kept.holds.complete complete
  refine ⟨?_, ?_, ?_⟩ <;> rw [whole]
  · exact kept.mirrors.entries_eq
  · exact kept.truthful
  · exact kept.holds.numbers

/-- Records that tell of no block are read over. -/
theorem Kept.quiet
    (kept : reader.Kept records)
    {session : Session (Recorder β)}
    (quiet : reader.session.engine.log.Quiet session.engine.log)
    (accounted : session.engine.Accounted [])
    (gauged : session.engine.Gauged)
    (mirrors : (Log.replay records).Mirrors session.engine.table) :
    ∃ records, Kept { reader with session := session } records := by
  obtain ⟨silent, appended, allSilent⟩ := quiet
  refine ⟨records ++ silent, accounted, gauged, appended.threshold.trans kept.threshold,
    kept.holds.append appended, kept.truthful.append_silent allSilent, ?_⟩
  rw [Log.replay_append_silent records allSilent]
  exact mirrors

/-- A record that shows a fitting tale is true of the table that the tale makes. -/
theorem true_of_shows
    {inventory : Log.Inventory}
    {record : Log.Record}
    {tale : Log.Tale}
    {engine : Engine β}
    (shows : record.Shows tale engine.metrics)
    (fits : tale.Fits inventory)
    (mirrors : (tale.apply inventory).Mirrors engine.table)
    (reconciled : engine.Reconciled) :
    inventory.take record = tale.apply inventory ∧ record.True inventory := by
  have taken : inventory.take record = tale.apply inventory := by
    rw [Log.Inventory.take, shows.tale]
  refine ⟨taken, ⟨tale, shows.tale, fits⟩, ?_, ?_⟩
  · rw [taken, mirrors.size, shows.liveBlocks, reconciled.liveBlocks]
    rfl
  · rw [taken, mirrors.bytes, shows.outstandingBytes, reconciled.outstandingBytes]

/-- After records that tell of no block, one that tells what has happened is taken in. -/
theorem Kept.told
    (kept : reader.Kept records)
    {session : Session (Recorder β)}
    {tale : Log.Tale}
    (reports : session.engine.Reports reader.session.engine.log (some tale))
    (fits : tale.Fits (Log.replay records))
    (accounted : session.engine.Accounted [])
    (gauged : session.engine.Gauged)
    (reconciled : session.engine.Reconciled)
    (mirrors : (tale.apply (Log.replay records)).Mirrors session.engine.table) :
    ∃ records, Kept { reader with session := session } records := by
  obtain ⟨middle, record, ⟨silent, before, allSilent⟩, last, shows⟩ := reports
  obtain ⟨taken, true⟩ := true_of_shows shows fits mirrors reconciled
  have read := Log.replay_append_silent records allSilent
  rw [← read] at true taken
  refine ⟨records ++ silent ++ [record], accounted, gauged, ?_, ?_, ?_, ?_⟩
  · exact (last.threshold.trans before.threshold).trans kept.threshold
  · exact (kept.holds.append before).append last
  · exact (kept.truthful.append_silent allSilent).append_singleton fun _ => true
  · rw [Log.replay_append_singleton, taken, read]
    exact mirrors

variable [Backend β]

/-- The reader keeps up with a call. -/
theorem Kept.call
    (kept : reader.Kept records)
    {thread : Nat}
    {call : Call}
    (abiding : Dealing.Abiding (reader.session.call thread call).2.dealings) :
    ∃ records, (reader.step (.call thread call)).Kept records := by
  cases asked : call.task? (reader.session.active thread) with
  | none =>
      have quiet := Session.quiet_call_of_no_task asked
      obtain ⟨log, made⟩ := Session.call_of_no_task asked
      apply kept.quiet quiet
      · rw [made]
        exact kept.accounted.transport rfl rfl
      · rw [made]
        exact kept.gauged
      · rw [made]
        exact kept.mirrors
  | some task =>
      have reports := Session.reports_call kept.accounted.filed kept.threshold asked
      obtain ⟨log, made⟩ := Session.call_of_task asked
      have ends :=
        task.ends_outcome reader.session.engine.tiers reader.session.engine.table
      have afterChange : Dealing.Abiding
          ((task.outcome reader.session.engine.tiers
            reader.session.engine.table).2.apply reader.session.engine).tiers.dealings := by
        rw [made] at abiding
        exact abiding
      have accounted : (reader.session.call thread call).2.engine.Accounted [] := by
        rw [made]
        exact (ends.accounted kept.accounted afterChange).transport rfl rfl
      have gauged : (reader.session.call thread call).2.engine.Gauged := by
        rw [made]
        exact ends.gauged kept.accounted afterChange kept.gauged
      have reconciled := accounted.reconciled gauged abiding
      cases told : (task.outcome reader.session.engine.tiers
          reader.session.engine.table).2.tale? with
      | none =>
          rw [told] at reports
          apply kept.quiet reports accounted gauged
          rw [made]
          exact ends.mirrors_of_silent told kept.mirrors
      | some tale =>
          rw [told] at reports
          obtain ⟨fits, mirrors⟩ :=
            ends.mirrors_of_tale kept.accounted afterChange told kept.mirrors
          apply kept.told reports fits accounted gauged reconciled
          rw [made]
          exact mirrors

theorem Kept.drain
    (kept : reader.Kept records) :
    (reader.step .drain).Kept records :=
  ⟨kept.accounted.transport rfl rfl, kept.gauged, kept.threshold, kept.holds.drain,
    kept.truthful, kept.mirrors⟩

theorem kept_run
    (kept : reader.Kept records)
    {steps : List Step}
    (abiding : ∀ before, before <+: steps →
      Dealing.Abiding (reader.run before).session.dealings) :
    ∃ records, (reader.run steps).Kept records := by
  induction steps generalizing reader records with
  | nil =>
      exact ⟨records, kept⟩
  | cons first rest inductionHypothesis =>
      have later : ∀ before, before <+: rest →
          Dealing.Abiding ((reader.step first).run before).session.dealings := by
        intro before isPrefix
        exact abiding (first :: before) ((List.prefix_cons_inj _).mpr isPrefix)
      cases first with
      | drain =>
          exact inductionHypothesis kept.drain later
      | call thread call =>
          obtain ⟨recent, keptOn⟩ := kept.call (later [] List.nil_prefix)
          exact inductionHypothesis keptOn later

theorem kept_start
    {session : Session (Recorder β)}
    (built : session.Built)
    (threshold : session.engine.log.threshold = some .trace) :
    ∃ records, (start session).Kept records := by
  obtain ⟨least, capacity, silent, appended, allSilent⟩ := built.quiet
  have unused := built.unused
  refine ⟨silent, unused.accounted, unused.gauged, threshold,
    (Log.Lifecycle.holds_new least capacity).append appended,
    Log.truthful_nil.append_silent allSilent, ?_⟩
  have empty : Log.replay silent = .empty := Log.replay_append_silent [] allSilent
  rw [empty]
  simp only [start]
  rw [Log.Inventory.Mirrors, unused.table, BlockTable.blocks_empty]
  exact .refl []

/-- A log that records everything and has dropped nothing rebuilds the table, over backends
that owe their dealings and whatever calls were made and records taken out. -/
theorem replayed_run
    {session : Session (Recorder β)}
    (built : session.Built)
    (threshold : session.engine.log.threshold = some .trace)
    (steps : List Step)
    (abiding : ∀ before, before <+: steps →
      Dealing.Abiding ((start session).run before).session.dealings)
    (complete : ((start session).run steps).session.engine.log.dropped = 0) :
    ((start session).run steps).Replayed := by
  obtain ⟨first, kept⟩ := kept_start built threshold
  obtain ⟨records, keptOn⟩ := kept_run kept abiding
  exact keptOn.replayed complete

/-- A configuration with small segments, under which everything is recorded. -/
def tracingConfig : Config :=
  { Config.standard with threshold := some .trace, segmentSize := 4096 }

/-- The mixed calls, with the log drained at the start and in the middle. -/
def mixedSteps : List Step :=
  .drain :: (Session.mixedCalls.take 5).map (fun entry => .call entry.1 entry.2) ++
    .drain :: (Session.mixedCalls.drop 5).map fun entry => .call entry.1 entry.2

theorem replayed_run_mixedSteps :
    ((start (.opening tracingConfig .initial
      (Session.distantBackends.map Recorder.start))).run mixedSteps).Replayed := by
  have abiding : ∀ before, before <+: mixedSteps →
      Dealing.Abiding
        ((start (.opening tracingConfig .initial
          (Session.distantBackends.map Recorder.start))).run before).session.dealings := by
    simp only [← List.mem_inits]
    decide +kernel
  exact
    replayed_run (.withBackends tracingConfig .initial Session.distantBackends) rfl mixedSteps
      abiding (by decide +kernel)

/-- A session over backends that lend the same memory to both tiers. -/
def overlappingReader : LogReader SimulatedBackend :=
  start (.opening tracingConfig .initial Session.overlappingBackends)

def stepOnEach : List Step :=
  [.call 0 (.allocateOn .host 100), .call 0 (.allocateOn .cxl 100)]

/-- The last record of these steps: a block comes at an address where there was one already. -/
def displacingRecord : Log.Record :=
  ⟨6, .trace, ⟨"allocate_on", "alloc", "success", some 65536, some 100, some .cxl, ""⟩, 2, 200⟩

/-- Over such backends a record is not true, though everything is recorded and nothing has been
dropped: it counts two blocks where the log has brought one. -/
theorem untruthful_overlap :
    overlappingReader.session.engine.log.threshold = some .trace ∧
      (overlappingReader.run stepOnEach).session.engine.log.dropped = 0 ∧
        ¬(overlappingReader.run stepOnEach).Replayed := by
  refine ⟨rfl, by decide +kernel, ?_⟩
  intro replayed
  have whole : (overlappingReader.run stepOnEach).records.take 5 ++ [displacingRecord] ++ [] =
      (overlappingReader.run stepOnEach).records := by
    decide +kernel
  have true := replayed.truthful _ displacingRecord ⟨[], whole⟩ (by decide)
  have counted := true.liveBlocks
  revert counted
  decide +kernel

end LogReader

end TierHeap
