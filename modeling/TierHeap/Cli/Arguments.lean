import TierHeap.Churn.Worker
import TierHeap.Text.Digits

/-!
# Command-line arguments

A command is a word followed by options, each given once, as `--name value` or
`--name=value`.  A separate value does not start with a dash, unless it is a single dash.
-/

namespace TierHeap.Cli

structure ChurnOptions where
  threads : Nat
  ops : Nat
  maxSize : Nat
  cxlPercent : Nat
  seed : Nat
  scope : Option String
  cxlCapacity : Option String
  log : Option String
  report : Option String
  artifactIndex : Option String
  deriving DecidableEq, Repr

/-- What help is about: the program, or one of its commands. -/
inductive HelpTopic where
  | overview
  | churn
  | validateLog
  | config
  | help
  deriving DecidableEq, Repr

inductive Command where
  | churn (options : ChurnOptions)
  | validateLog (path : String)
  | config
  | help (topic : HelpTopic)
  deriving DecidableEq, Repr

/-- A value that an option was given. -/
abbrev Given := List (String × String)

/-- What a list of arguments amounts to. -/
inductive Scan where
  /-- The options given, each with its value. -/
  | options (given : Given)
  /-- A request for help. -/
  | help
  /-- Arguments that make no sense. -/
  | wrong
  deriving DecidableEq, Repr

/-- A separate value of an option: no other option, and not the end of options. -/
def isPlainValue (arg : String) : Bool :=
  match arg.toList with
  | ['-'] => true
  | '-' :: _ => false
  | _ => true

def splitEquals (cs : List Char) : List Char × Option (List Char) :=
  match cs.dropWhile (· != '=') with
  | [] => (cs, none)
  | _ :: value => (cs.takeWhile (· != '='), some value)

abbrev Accepts := String → String → Bool

/-- Take in an option with its value, if the command has it and it has not been given. -/
def accept?
    (names : List String)
    (accepts : Accepts)
    (given : Given)
    (name value : String) : Option Given :=
  if names.contains name ∧ (given.lookup name).isNone ∧ accepts name value then
    some (given ++ [(name, value)])
  else
    none

inductive Argument where
  /-- The two dashes that end the options. -/
  | endOfOptions
  /-- A request for help. -/
  | help
  /-- The name of an option, with its value if that stands in the same argument. -/
  | option (name : String) (value? : Option String)
  /-- Anything else. -/
  | word
  deriving DecidableEq, Repr

/-- Read one argument. -/
def Argument.of (arg : String) : Argument :=
  match arg.toList with
  | ['-', '-'] => .endOfOptions
  | '-' :: 'h' :: _ => .help
  | '-' :: '-' :: cs =>
      match splitEquals cs with
      | (name, value?) =>
          if name = "help".toList ∧ value?.isNone then .help
          else .option (String.ofList name) (value?.map String.ofList)
  | _ => .word

/-- Read options from left to right; the first thing that makes no sense, or asks for help,
decides. -/
def scan
    (names : List String)
    (accepts : Accepts) : Given → List String → Scan
  | given, [] => .options given
  | given, arg :: rest =>
      match Argument.of arg, rest with
      | .endOfOptions, [] => .options given
      | .help, _ => .help
      | .option name (some value), rest =>
          match accept? names accepts given name value with
          | some given => scan names accepts given rest
          | none => .wrong
      | .option name none, value :: rest =>
          if isPlainValue value then
            match accept? names accepts given name value with
            | some given => scan names accepts given rest
            | none => .wrong
          else
            .wrong
      | _, _ => .wrong

def word? (value : String) : Option Nat :=
  Text.numeral? Word.bound value.toList

def percentBound : Nat :=
  256

/-- Read a percentage; a negative zero is one too. -/
def percent? (value : String) : Option Nat :=
  match value.toList with
  | '-' :: cs => if cs ≠ [] ∧ cs.all (· = '0') then some 0 else none
  | cs => Text.numeral? percentBound cs

def churnNames : List String :=
  ["threads", "ops", "max-size", "cxl-percent", "seed", "scope", "cxl-capacity", "log", "report",
   "artifact-index"]

/-- The values that an option of a churn can have; paths are not empty. -/
def churnAccepts : Accepts := fun name value =>
  if ["threads", "ops", "max-size", "seed"].contains name then (word? value).isSome
  else if name == "cxl-percent" then (percent? value).isSome
  else if ["log", "report", "artifact-index"].contains name then value != ""
  else true

def churnOptions (given : Given) : ChurnOptions :=
  let standard := Churn.Plan.standard
  let number (name : String) (default : Nat) : Nat :=
    ((given.lookup name).bind word?).getD default
  { threads := number "threads" standard.threads
    ops := number "ops" standard.opsPerThread
    maxSize := number "max-size" standard.maxSize
    cxlPercent := ((given.lookup "cxl-percent").bind percent?).getD standard.cxlPercent
    seed := number "seed" standard.seed.toNat
    scope := given.lookup "scope"
    cxlCapacity := given.lookup "cxl-capacity"
    log := given.lookup "log"
    report := given.lookup "report"
    artifactIndex := given.lookup "artifact-index" }

def commandTopics : List (String × HelpTopic) :=
  [("churn", .churn), ("validate-log", .validateLog), ("config", .config), ("help", .help)]

/-- What the command for help can be asked: help on the program, or on one command. -/
def helpTopic? : List String → Option HelpTopic
  | [] => some .overview
  | [name] => commandTopics.lookup name
  | _ => none

/-- The command of a list of arguments, or `none` if they make no sense. -/
def parse? : List String → Option Command
  | [] => none
  | name :: rest =>
      if name = "churn" then
        match scan churnNames churnAccepts [] rest with
        | .options given => some (.churn (churnOptions given))
        | .help => some (.help .churn)
        | .wrong => none
      else if name = "validate-log" then
        match scan ["log"] (fun _ value => value != "") [] rest with
        | .options given => (given.lookup "log").map .validateLog
        | .help => some (.help .validateLog)
        | .wrong => none
      else if name = "config" then
        match scan [] (fun _ _ => false) [] rest with
        | .options _ => some .config
        | .help => some (.help .config)
        | .wrong => none
      else if name = "help" then
        (helpTopic? rest).map .help
      else if Argument.of name = .help then
        some (.help .overview)
      else
        none

end TierHeap.Cli
