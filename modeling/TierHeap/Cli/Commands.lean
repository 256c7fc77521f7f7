import TierHeap.Backend.System
import TierHeap.Cli.Help
import TierHeap.Journal.Artifacts
import TierHeap.Journal.Check
import TierHeap.Journal.Emitter
import TierHeap.Json.Printer
import TierHeap.Report.Churn

/-!
# Commands

What each command does, on any platform that has files, a clock, variables and two outputs.
A command that fails ends with a line that names the cause, and with the code 1; arguments
that make no sense end with the code 2.
-/

namespace TierHeap.Cli

/-- What commands need of the system they run on. -/
class Platform (m : Type → Type) where
  /-- The contents of a file. -/
  readFile : String → m (Except FileError (List UInt8))
  /-- Create a file, or replace its contents. -/
  writeFile : String → List UInt8 → m (Except FileError Unit)
  /-- Write to the output. -/
  out : String → m Unit
  /-- Write to the error output. -/
  err : String → m Unit
  now : m Instant
  environment : m Lookup
  /-- Compute a value and measure how many milliseconds it takes. -/
  timed : {α : Type} → (Unit → α) → m (α × Nat)

/-- The end of a command before its time, with the text of its last line. -/
abbrev Run (m : Type → Type) := ExceptT String m

variable {m : Type → Type} [Monad m] [Platform m]

def platform
    {α : Type}
    (action : m α) : Run m α :=
  ExceptT.lift action

def fileResult
    {α : Type}
    (action : m (Except FileError α)) : Run m α := do
  match ← platform action with
  | .ok value => return value
  | .error err => throw err.inspect

def textBytes (text : String) : List UInt8 :=
  text.toUTF8.toList

def errLine (text : String) : Run m Unit :=
  platform (Platform.err (text ++ "\n"))

/-- Read the clock, and so many times more. -/
def readClock (more : Nat) : Run m Clock := do
  let now ← platform Platform.now
  let later ← (List.range more).mapM fun _ => platform Platform.now
  return ⟨now, later⟩

def writeText
    (path text : String) : Run m Unit :=
  fileResult (Platform.writeFile path (textBytes text))

def addArtifact
    (index : Journal.ArtifactIndex)
    (path kind : String) : Run m Journal.ArtifactIndex := do
  let contents ← fileResult (Platform.readFile path)
  return index.add path kind contents

/-- The configuration of a churn: the environment, changed by the options.  A log file needs
records down to the level of arena growths. -/
def churnConfig
    (lookup : Lookup)
    (options : ChurnOptions) : Except Failure Config := do
  let config ← (Config.ofLookup lookup).mapError .setting
  let config ←
    match options.scope with
    | none => pure config
    | some raw =>
        match ModeScope.parse? raw with
        | some scope => pure { config with scope := scope }
        | none => throw (.setting ⟨"--scope", raw⟩)
  let config ←
    match options.cxlCapacity with
    | none => pure config
    | some raw =>
        match parseSize? raw with
        | some bytes => pure (config.withCapacity .cxl (some bytes))
        | none => throw (.setting ⟨"--cxl-capacity", raw⟩)
  let showsDebug :=
    match config.threshold with
    | none => false
    | some least => Log.Level.debug.atLeast least
  return if options.log.isSome && !showsDebug then { config with threshold := some .debug }
    else config

def wholePercent : Nat :=
  100

def churnPlan (options : ChurnOptions) : Churn.Plan :=
  { Churn.Plan.standard with
    threads := options.threads
    opsPerThread := options.ops
    maxSize := options.maxSize
    cxlPercent := min options.cxlPercent wholePercent
    seed := UInt64.ofNat options.seed }

/-- The journal of a churn: its start, the engine's records, and its end, each at a reading of
the clock of its own. -/
def churnJournal
    (runId : String)
    (clock : Clock)
    (records : List Log.Record)
    (summary : Churn.Summary) : String :=
  let emitter := Journal.Emitter.new runId (Journal.TextBuffer.mk "")
  let start : Journal.Entry :=
    { Journal.Entry.new clock.now "" .info "churn_start" with
      details := some (Report.churnPlan summary.plan).canonical }
  let finish : Journal.Entry :=
    { Journal.Entry.new (clock.tick.after records.length).now "" .info "churn_complete" with
      durationMs := some summary.elapsedMs
      outcome := some (if summary.isClean then "clean" else "dirty") }
  let (_, emitter) := emitter.emitEntry start
  let (_, emitter) := emitter.emitRecords clock.tick records
  let (_, emitter) := emitter.emitEntry finish
  emitter.sink.text

def dirtyText (summary : Churn.Summary) : String :=
  "churn finished dirty: mismatches=" ++ Text.decimal summary.tierMismatches ++
    " unknown_frees=" ++ Text.decimal summary.unknownFrees ++ " live=" ++
    Text.decimal summary.engine.liveBlocks

/-- The thread that commands run on. -/
def mainThread : Nat :=
  0

def churn (options : ChurnOptions) : Run m Unit := do
  let lookup ← platform Platform.environment
  let config ←
    match churnConfig lookup options with
    | .ok config => pure config
    | .error failure => throw failure.inspect
  let plan := churnPlan options
  let runId := "churn-" ++ Text.hex options.seed
  errLine ("Running churn: " ++ Text.decimal options.threads ++ " threads x " ++
    Text.decimal options.ops ++ " ops, cxl=" ++ Text.decimal plan.cxlPercent ++ "%")
  let (engine, bank) := Engine.ofConfig SystemBackend.ofConfig config .initial
  let ((result, session), elapsedMs) ←
    platform (Platform.timed fun _ => Churn.run plan ⟨engine, bank⟩ mainThread 0)
  let summary ←
    match result with
    | .ok summary => pure { summary with elapsedMs := elapsedMs }
    -- The lists of the standard plan are short, so this is an error that the churn returns.
    | .error ending => throw ending.inspect
  let now ← platform Platform.now
  let index := Journal.ArtifactIndex.new now runId
  let index ←
    match options.log with
    | none => pure index
    | some path =>
        let records := session.engine.log.snapshot
        let clock ← readClock (records.length + 1)
        writeText path (churnJournal runId clock records summary)
        errLine ("Wrote " ++ Text.decimal records.length ++ " lifecycle records to " ++ path)
        addArtifact index path "log"
  let text := (Report.churnSummary summary).pretty
  let index ←
    match options.report with
    | none =>
        platform (Platform.out (text ++ "\n"))
        pure index
    | some path =>
        writeText path text
        addArtifact index path "report"
  match options.artifactIndex with
  | none => pure ()
  | some path => writeText path index.text
  if !summary.isClean then
    throw (Text.quoted (dirtyText summary))

def validateLog (path : String) : Run m Unit := do
  let contents ← fileResult (Platform.readFile path)
  let report ←
    match Journal.checkBytes? contents with
    | some report => pure report
    | none => throw FileError.invalidText.inspect
  for found in report.faults do
    errLine found.text
  if report.faults.isEmpty then
    errLine (Text.decimal report.lines ++ " line(s) valid")
  else
    throw (Failure.validation path report.faults.length).inspect

def showConfig : Run m Unit := do
  let lookup ← platform Platform.environment
  match Config.ofLookup lookup with
  | .ok config => platform (Platform.out ((Report.config config).pretty ++ "\n"))
  | .error err => throw err.inspect

def execute : Command → Run m Unit
  | .churn options => churn options
  | .validateLog path => validateLog path
  | .config => showConfig
  | .help topic => platform (Platform.out topic.text)

/-- Carry out the command of a list of arguments; the result is the exit code. -/
def main (args : List String) : m Nat := do
  match parse? args with
  | none =>
      Platform.err HelpTopic.overview.text
      return 2
  | some command =>
      match ← (execute command : Run m Unit).run with
      | .ok () => return 0
      | .error text =>
          Platform.err ("Error: " ++ text ++ "\n")
          return 1

end TierHeap.Cli
