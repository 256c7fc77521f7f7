import TierHeap.Journal.Entry

/-!
# Checking journal lines

A line is checked in two steps.  First the fields that are strings, numbers or absent are
checked by rule, and every fault is reported; only a line without a fault is then read as an
entry, which can still fail where a field has a kind of value it cannot have.
-/

namespace TierHeap.Journal

inductive Fault where
  | notJson
  | notObject
  | missing (field : String)
  | unknownLevel (level : String)
  | unknownTier (field tier : String)
  | plainAddress (addr : String)
  | plainTrace (traceId : String)
  /-- The trace of an engine record does not end in its decision number. -/
  | strayDecision (id : Nat) (traceId : String)
  | notEntry
  deriving DecidableEq, Repr

namespace Fault

def field : Fault → String
  | .notJson => "<json>"
  | .notObject => "<root>"
  | .missing field => field
  | .unknownLevel _ => "level"
  | .unknownTier field _ => field
  | .plainAddress _ => "addr"
  | .plainTrace _ => "trace_id"
  | .strayDecision _ _ => "decision_id"
  | .notEntry => "<deserialization>"

def message : Fault → String
  | .notJson => "invalid JSON"
  | .notObject => "expected JSON object"
  | .missing _ => "required field missing"
  | .unknownLevel level => "invalid level: '" ++ level ++ "'"
  | .unknownTier _ tier => "invalid tier: '" ++ tier ++ "'"
  | .plainAddress addr => "address should be 0x-prefixed hex, got: '" ++ addr ++ "'"
  | .plainTrace traceId => "trace_id should be '::'-separated, got: '" ++ traceId ++ "'"
  | .strayDecision id traceId =>
      "decision_id " ++ Text.decimal id ++ " does not match trace_id '" ++ traceId ++ "'"
  | .notEntry => "failed to deserialize"

end Fault

structure LineFault where
  line : Nat
  fault : Fault
  deriving DecidableEq, Repr

def LineFault.text (found : LineFault) : String :=
  "line " ++ Text.decimal found.line ++ ": field '" ++ found.fault.field ++ "': " ++
    found.fault.message

def traceMark : List Char :=
  [':', ':']

/-- The characters occur in a row. -/
def occursIn
    (wanted : List Char) : List Char → Bool
  | [] => wanted.isEmpty
  | c :: cs => wanted.isPrefixOf (c :: cs) || occursIn wanted cs

def hasParts (traceId : String) : Bool :=
  occursIn traceMark traceId.toList

def isEngineTrace (traceId : String) : Bool :=
  "core::".toList.isPrefixOf traceId.toList

/-- The trace ends in the sixteen digits of a decision number. -/
def endsInDecision
    (traceId : String)
    (id : Nat) : Bool :=
  (Text.hexPadded 16 id).toList.isSuffixOf traceId.toList

def isHexMarked (addr : String) : Bool :=
  "0x".toList.isPrefixOf addr.toList

def stringAt?
    (members : List (String × Json))
    (key : String) : Option String :=
  (members.lookup key).bind Json.string?

def missingFaults
    (members : List (String × Json))
    (field : String) : List Fault :=
  if (members.lookup field).isSome then [] else [.missing field]

def ruleFaults
    (members : List (String × Json))
    (field : String)
    (rule : String → Bool)
    (fault : String → Fault) : List Fault :=
  match stringAt? members field with
  | none => []
  | some text => if rule text then [] else [fault text]

def decisionFaults (members : List (String × Json)) : List Fault :=
  match (members.lookup "decision_id").bind Json.nat?, stringAt? members "trace_id" with
  | some id, some traceId =>
      if isEngineTrace traceId ∧ endsInDecision traceId id = false then
        [.strayDecision id traceId]
      else
        []
  | _, _ => []

def requiredFields : List String :=
  ["timestamp", "trace_id", "level", "event"]

/-- All faults of the members of an object, in the order in which they are reported. -/
def memberFaults (members : List (String × Json)) : List Fault :=
  requiredFields.flatMap (missingFaults members) ++
    ruleFaults members "level" (fun text => (Log.Level.ofName? text).isSome) .unknownLevel ++
    ruleFaults members "tier" (fun text => (Tier.ofName? text).isSome) (.unknownTier "tier") ++
    ruleFaults members "mode" (fun text => (Tier.ofName? text).isSome) (.unknownTier "mode") ++
    ruleFaults members "addr" isHexMarked .plainAddress ++
    ruleFaults members "trace_id" hasParts .plainTrace ++
    decisionFaults members

/-- Check the members of an object and read them as an entry. -/
def checkMembers (members : List (String × Json)) : Except (List Fault) Entry :=
  match memberFaults members with
  | [] =>
      match Entry.ofMembers? members with
      | some entry => .ok entry
      | none => .error [.notEntry]
  | faults => .error faults

def checkLine (line : String) : Except (List Fault) Entry :=
  match Json.readCanonical? line with
  | none => .error [.notJson]
  | some (.object members) => checkMembers members
  | some _ => .error [.notObject]

def withoutReturn (line : List Char) : List Char :=
  (Text.withoutSuffix? line ['\r']).getD line

/-- Split a text at its line ends, each a newline with or without a carriage return before it;
what follows the last one is a line if it is not empty. -/
def splitLines (cs : List Char) : List (List Char) :=
  let pieces := cs.splitOn '\n'
  let ended := pieces.dropLast.map withoutReturn
  match pieces.getLast? with
  | none | some [] => ended
  | some rest => ended ++ [rest]

/-- The result of checking a file: how many lines have text, and what is wrong with them. -/
structure Report where
  lines : Nat
  faults : List LineFault
  deriving DecidableEq, Repr

/-- Check one line of a file, unless it is blank. -/
def Report.checkLine
    (report : Report)
    (number : Nat)
    (line : List Char) : Report :=
  match Text.trimChars line with
  | [] => report
  | cs =>
      let found :=
        match Journal.checkLine (String.ofList cs) with
        | .ok _ => []
        | .error faults => faults.map fun fault => LineFault.mk number fault
      ⟨report.lines + 1, report.faults ++ found⟩

def checkText (text : String) : Report :=
  ((splitLines text.toList).zipIdx 1).foldl
    (fun report (line, number) => report.checkLine number line) ⟨0, []⟩

/-- Check the lines of a file that is given as bytes, if they are UTF-8 text. -/
def checkBytes? (bytes : List UInt8) : Option Report :=
  (String.fromUTF8? ⟨bytes.toArray⟩).map checkText

end TierHeap.Journal
