import TierHeap.Proofs.Process.Runs

/-!
# Data isolation

The bytes of a live block are its program's own.  No entry point changes one, so over any
stretch of a run that a byte is live, its value is what the program's own writes make of it
(`ProcessHeap.Isolated.stretches`).  Live blocks are apart, so a write inside one reaches no
other.  What `calloc` returns reads as zeros, whatever its range held before.
-/

namespace TierHeap

/-- Memory after the writes among these deeds, and nothing else. -/
def Memory.written
    (memory : Memory)
    (deeds : List Deed) : Memory :=
  deeds.foldl
    (fun memory deed =>
      match deed with
      | .write addr bytes => memory.write addr bytes
      | _ => memory)
    memory

theorem Memory.written_snoc
    (memory : Memory)
    (before : List Deed)
    (deed : Deed) :
    memory.written (before ++ [deed]) = (memory.written before).written [deed] := by
  rw [written, List.foldl_concat]
  rfl

/-- A byte after one deed's writing depends on that byte alone. -/
theorem Memory.byteAt_written_congr
    {first second : Memory}
    {addr : Nat}
    (same : first.byteAt addr = second.byteAt addr)
    (deed : Deed) :
    (first.written [deed]).byteAt addr = (second.written [deed]).byteAt addr := by
  cases deed with
  | write start bytes =>
      exact Memory.byteAt_write_congr same start bytes
  | call | turn =>
      exact same

namespace ProcessHeap

variable {β : Type} [Backend β] {process : ProcessHeap (Recorder β)} {flight : List Block}

/-- A deed acts on a byte that was live as the program's writing does. -/
theorem Kept.byteAt_act
    (kept : process.Kept flight)
    {deed : Deed}
    (abiding : Dealing.Abiding (process.act deed).dealings)
    {addr : Nat}
    (live : process.Live addr) :
    (process.act deed).memory.byteAt addr = (process.memory.written [deed]).byteAt addr := by
  cases deed with
  | call entry =>
      exact (Abi.preserved_invoke kept abiding).bytes addr live
  | write | turn =>
      rfl

/-- Different live blocks are apart. -/
theorem Kept.apart
    (kept : process.Kept flight)
    {first second : Block}
    (firstLive : process.block? first.addr = some first)
    (secondLive : process.block? second.addr = some second)
    (different : first.addr ≠ second.addr) :
    first.span.Apart second.span := by
  have : Std.Symm fun first second : Block => first.span.Apart second.span :=
    ⟨fun _ _ apart => apart.symm⟩
  have blocks := (List.pairwise_append.mp
    (kept.accounted.backed.pairwise_apart kept.abiding)).1
  have firstMember := kept.accounted.filed.mem_blocks_iff.mpr firstLive
  have secondMember := kept.accounted.filed.mem_blocks_iff.mpr secondLive
  exact blocks.forall firstMember secondMember fun same => different (congrArg Block.addr same)

/-- In every state of a run, entry points and writes leave the bytes of other blocks alone. -/
structure Isolated
    (process : ProcessHeap (Recorder β))
    (deeds : List Deed) : Prop where
  /-- No entry point changes a byte of a block that was live before. -/
  calls : ∀ before entry, before ++ [.call entry] <+: deeds → ∀ addr,
    (process.run before).Live addr →
      (process.run (before ++ [.call entry])).memory.byteAt addr =
        (process.run before).memory.byteAt addr
  /-- A write inside one live block changes no byte of another. -/
  writes : ∀ before addr bytes, before ++ [.write addr bytes] <+: deeds →
    ∀ block, (process.run before).block? block.addr = some block →
      Span.Within ⟨addr, bytes.length⟩ block.span →
        ∀ other, (process.run before).block? other.addr = some other →
          other.addr ≠ block.addr → ∀ byte, other.span.has byte = true →
            (process.run (before ++ [.write addr bytes])).memory.byteAt byte =
              (process.run before).memory.byteAt byte
  /-- While a byte is live, its value is what the program's writes make of it. -/
  stretches : ∀ before during, before ++ during <+: deeds → ∀ addr,
    (∀ first, first <+: during → (process.run (before ++ first)).Live addr) →
      (process.run (before ++ during)).memory.byteAt addr =
        ((process.run before).memory.written during).byteAt addr
  /-- What `calloc` returns is a live block of zeros. -/
  zeroed : ∀ before place count size, before ++ [.call (.calloc place count size)] <+: deeds →
    ∀ ptr, ptr ≠ 0 →
      (Abi.invoke (process.run before) (.calloc place count size)).1 = .pointer ptr →
        ∃ block,
          (process.run (before ++ [.call (.calloc place count size)])).block? ptr =
              some block ∧
            block.size = count * size ∧ block.size ≤ block.reserved ∧
            (process.run (before ++ [.call (.calloc place count size)])).memory.read ptr
                (count * size) =
              List.replicate (count * size) 0

/-- In every run over backends that owe their dealings, data is isolated. -/
theorem isolated_run
    (reached : process.Reached)
    (deeds : List Deed)
    (abiding : ∀ before, before <+: deeds → Dealing.Abiding (process.run before).dealings) :
    process.Isolated deeds := by
  have kept (before : List Deed) (isPrefix : before <+: deeds) :
      ∃ flight, (process.run before).Kept flight :=
    (reached.run fun earlier isEarlier => abiding earlier (isEarlier.trans isPrefix)).kept
  have keptBefore (before rest : List Deed) (isPrefix : before ++ rest <+: deeds) :
      ∃ flight, (process.run before).Kept flight :=
    kept before ((List.prefix_append before rest).trans isPrefix)
  constructor
  case calls =>
    intro before entry isPrefix addr live
    obtain ⟨flight, books⟩ := keptBefore before _ isPrefix
    have afterCall := abiding _ isPrefix
    rw [run_snoc] at afterCall ⊢
    exact books.byteAt_act afterCall live
  case writes =>
    intro before addr bytes isPrefix block blockLive within other otherLive different byte has
    obtain ⟨flight, books⟩ := keptBefore before _ isPrefix
    have apart := books.apart otherLive blockLive different
    rw [run_snoc]
    apply Memory.byteAt_write_outside
    rw [Span.has_iff] at has
    simp only [Span.Within, Span.Apart, Span.stop] at within apart
    omega
  case stretches =>
    intro before during
    induction during using List.reverseRecOn with
    | nil =>
        intro _ addr _
        rw [List.append_nil]
        rfl
    | append_singleton earlier deed inductionHypothesis =>
        intro isPrefix addr live
        rw [← List.append_assoc] at isPrefix ⊢
        obtain ⟨flight, books⟩ := keptBefore _ _ isPrefix
        have afterDeed := abiding _ isPrefix
        rw [run_snoc] at afterDeed ⊢
        have shorter := (List.prefix_append (before ++ earlier) [deed]).trans isPrefix
        have soFar := inductionHypothesis shorter addr fun first isFirst =>
          live first (isFirst.trans (List.prefix_append earlier [deed]))
        -- The byte is live just before the last deed, which is all that one needs.
        have liveNow := live earlier (List.prefix_append earlier [deed])
        rw [books.byteAt_act afterDeed liveNow, Memory.written_snoc]
        exact Memory.byteAt_written_congr soFar deed
  case zeroed =>
    intro before place count size isPrefix ptr nonnull returned
    obtain ⟨flight, books⟩ := keptBefore before _ isPrefix
    have afterCall := abiding _ isPrefix
    rw [run_snoc] at afterCall ⊢
    have pointer : (Abi.calloc (process.run before) place count size).1 = ptr :=
      Abi.Answer.pointer.inj returned
    have zeroed := Abi.zeroed_calloc books afterCall
    rw [pointer] at zeroed
    obtain ⟨reserved, found, fits, zeros⟩ := zeroed nonnull
    exact ⟨_, found, rfl, fits, zeros⟩

/-- A range that holds data is released, while blocks of both tiers live on, and `calloc` gets
it next. -/
def recycling : List Deed :=
  [.call (.malloc .byMode 100), .write 65536 [1, 2, 3], .call (.malloc (.pinned .cxl) 100),
    .write 1099511627776 [4, 5], .call (.free 65536), .call .trim,
    .call (.realloc .byMode 1099511627776 90), .call (.calloc .byMode 25 4)]

theorem isolated_run_recycling :
    (∀ before, before <+: recycling → Dealing.Abiding (waiting.run before).dealings) ∧
      (waiting.run recycling).memory.read 65536 100 = List.replicate 100 0 ∧
      (waiting.run recycling).memory.byteAt 1099511627777 = 5 := by
  have abiding : ∀ before, before <+: recycling →
      Dealing.Abiding (waiting.run before).dealings := by
    simp only [← List.mem_inits]
    decide +kernel
  have isolated := isolated_run (.fresh built_waiting) recycling abiding
  obtain ⟨block, -, -, -, zeros⟩ :=
    isolated.zeroed (recycling.take 7) .byMode 25 4 (List.prefix_refl recycling) 65536 (by decide)
      (by decide +kernel)
  have live : ∀ first, first <+: recycling.drop 4 →
      (waiting.run (recycling.take 4 ++ first)).Live 1099511627777 := by
    simp only [← List.mem_inits]
    decide +kernel
  have kept :=
    isolated.stretches (recycling.take 4) (recycling.drop 4) (List.prefix_refl recycling) _ live
  exact ⟨abiding, zeros, kept.trans (by decide +kernel)⟩

end ProcessHeap

end TierHeap
