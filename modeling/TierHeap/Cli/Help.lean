import TierHeap.Cli.Arguments

/-!
# Help

The help texts: what a command does, how it is called, and a list of what it takes.  The
descriptions of a list stand in a column beside the names, or each on a line of its own when
the column is narrow and one of them does not fit.
-/

namespace TierHeap.Cli

/-- An entry of a list: a name and what it means. -/
structure HelpItem where
  label : String
  description : String
  deriving DecidableEq, Repr

namespace HelpItem

def valued
    (name placeholder description : String) : HelpItem :=
  ⟨"    --" ++ name ++ " <" ++ placeholder ++ ">", description⟩

def labelWidth (items : List HelpItem) : Nat :=
  (items.map fun item => item.label.length).foldl max 0

def lineWidth : Nat :=
  100

/-- The part of a line that the labels take, with the space around them. -/
def takenWidth (items : List HelpItem) : Nat :=
  labelWidth items + 12

/-- The descriptions go below the labels: these take more than two fifths of a line, and what
is left is too short for a description. -/
def goesBelow (items : List HelpItem) : Bool :=
  let taken := takenWidth items
  taken ≤ lineWidth && 2 * lineWidth < 5 * taken &&
    items.any fun item => lineWidth - taken < item.description.length

def spaces (count : Nat) : String :=
  String.ofList (List.replicate count ' ')

def beside
    (width : Nat)
    (item : HelpItem) : String :=
  spaces 2 ++ item.label ++ spaces (width + 2 - item.label.length) ++ item.description

def below (item : HelpItem) : String :=
  spaces 2 ++ item.label ++ "\n" ++ spaces 10 ++ item.description

def list
    (heading : String)
    (items : List HelpItem) : String :=
  let line := if goesBelow items then below else beside (labelWidth items)
  heading ++ ":\n" ++ String.intercalate "\n" (items.map line)

end HelpItem

def helpItem : HelpItem :=
  ⟨"-h, --help", "Print help"⟩

def commandItems : List HelpItem :=
  [⟨"churn", "Run a multi-threaded allocate/free churn against a fresh engine"⟩,
   ⟨"validate-log", "Validate a structured JSONL log"⟩,
   ⟨"config", "Print the engine configuration resolved from the environment"⟩,
   ⟨"help", "Print this message or the help of the given subcommand(s)"⟩]

def commandDescription (name : String) : String :=
  ((commandItems.find? fun item => item.label == name).map HelpItem.description).getD ""

def defaultNote (value : Nat) : String :=
  "[default: " ++ Text.decimal value ++ "]"

def churnItems : List HelpItem :=
  let standard := Churn.Plan.standard
  [.valued "threads" "THREADS" (defaultNote standard.threads),
   .valued "ops" "OPS" (defaultNote standard.opsPerThread),
   .valued "max-size" "MAX_SIZE"
     ("Largest single request in bytes " ++ defaultNote standard.maxSize),
   .valued "cxl-percent" "CXL_PERCENT"
     ("Share of allocations aimed at CXL (0-100) " ++ defaultNote standard.cxlPercent),
   .valued "seed" "SEED" (defaultNote standard.seed.toNat),
   .valued "scope" "SCOPE"
     "Mode register scope (`process` or `thread`); overrides the environment",
   .valued "cxl-capacity" "CXL_CAPACITY"
     "CXL capacity ceiling, e.g. `64m`; overrides the environment",
   .valued "log" "LOG" "Write engine lifecycle records here as JSONL",
   .valued "report" "REPORT" "Write the JSON report here (stdout if omitted)",
   .valued "artifact-index" "ARTIFACT_INDEX"
     "Write an artifact index covering the log and report here"]

/-- A help text: what is described, how it is called, and its lists. -/
def helpPage
    (description usage : String)
    (lists : List String) : String :=
  String.intercalate "\n\n" (description :: ("Usage: harness " ++ usage) :: lists) ++ "\n"

def HelpTopic.text : HelpTopic → String
  | .overview =>
      helpPage "Workload driver and log tooling for the tiermem engine" "<COMMAND>"
        [HelpItem.list "Commands" commandItems, HelpItem.list "Options" [helpItem]]
  | .churn =>
      helpPage (commandDescription "churn") "churn [OPTIONS]"
        [HelpItem.list "Options" (churnItems ++ [helpItem])]
  | .validateLog =>
      helpPage (commandDescription "validate-log") "validate-log --log <LOG>"
        [HelpItem.list "Options" [.valued "log" "LOG" "", helpItem]]
  | .config =>
      helpPage (commandDescription "config") "config" [HelpItem.list "Options" [helpItem]]
  | .help =>
      helpPage (commandDescription "help") "help [COMMAND]..."
        [HelpItem.list "Arguments" [⟨"[COMMAND]...", "Print help for the subcommand(s)"⟩]]

end TierHeap.Cli
