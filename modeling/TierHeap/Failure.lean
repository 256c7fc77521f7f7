import TierHeap.Error

/-!
# Failures of commands

What can end a command early, with two texts: `message` for people and `inspect`, which
names the cause and its fields, for the last line of a failed command.
-/

namespace TierHeap

/-- Why a file could not be read or written. -/
inductive FileError where
  /-- The system's code, kind and wording. -/
  | system (code : Nat) (kind message : String)
  /-- The contents are no text. -/
  | invalidText
  /-- The path holds a character that no path can hold. -/
  | invalidPath
  deriving DecidableEq, Repr

namespace FileError

def notFound : FileError :=
  .system 2 "NotFound" "No such file or directory"

def notDirectory : FileError :=
  .system 20 "NotADirectory" "Not a directory"

def isDirectory : FileError :=
  .system 21 "IsADirectory" "Is a directory"

def nameTooLong : FileError :=
  .system 36 "InvalidFilename" "File name too long"

def kind : FileError → String
  | .system _ kind _ => kind
  | .invalidText => "InvalidData"
  | .invalidPath => "InvalidInput"

def invalidTextMessage : String :=
  "stream did not contain valid UTF-8"

def invalidPathMessage : String :=
  "file name contained an unexpected NUL byte"

def message : FileError → String
  | .system code _ message => message ++ " (os error " ++ Text.decimal code ++ ")"
  | .invalidText => invalidTextMessage
  | .invalidPath => invalidPathMessage

end FileError

inductive Failure where
  | file (err : FileError)
  | allocation (err : RequestError)
  | invariant (violation : InvariantViolation)
  | setting (err : SettingError)
  /-- A checked file has faults. -/
  | validation (path : String) (failures : Nat)
  /-- A worker could not start. -/
  | workerPanicked
  deriving DecidableEq, Repr

def Failure.name : Failure → String
  | .file _ => "Io"
  | .allocation _ => "Alloc"
  | .invariant _ => "Invariant"
  | .setting _ => "Config"
  | .validation _ _ => "Validation"
  | .workerPanicked => "WorkerPanicked"

def Failure.message : Failure → String
  | .file err => "io: " ++ err.message
  | .allocation err => "allocation failed: " ++ err.message
  | .invariant violation => "engine invariant violated: " ++ violation.message
  | .setting err => "configuration: " ++ err.message
  | .validation path failures =>
      Text.decimal failures ++ " validation error(s) in " ++ path
  | .workerPanicked => "worker thread panicked"

def inspectFields
    (name : String)
    (fields : List (String × String)) : String :=
  name ++ " \x7b " ++
    String.intercalate ", " (fields.map fun field => field.1 ++ ": " ++ field.2) ++ " \x7d"

def inspectTier : Tier → String
  | .host => "Host"
  | .cxl => "Cxl"

def RequestError.inspectedFields : RequestError → List (String × String)
  | .outOfMemory tier requested =>
      [("tier", inspectTier tier), ("requested", Text.decimal requested)]
  | .unknownAddress addr => [("addr", Text.decimal addr)]
  | .invalidSize size => [("size", Text.decimal size)]
  | .invalidAlignment align => [("align", Text.decimal align)]

def RequestError.inspect (err : RequestError) : String :=
  inspectFields err.name err.inspectedFields

def SettingError.inspect (err : SettingError) : String :=
  inspectFields err.name [("key", Text.quoted err.key), ("value", Text.quoted err.value)]

def InvariantViolation.inspectedFields : InvariantViolation → List (String × String)
  | .bytesMismatch tier table arena =>
      [("tier", inspectTier tier), ("table", Text.decimal table),
       ("allocator", Text.decimal arena)]
  | .countMismatch tier table arena =>
      [("tier", inspectTier tier), ("table", Text.decimal table),
       ("allocator", Text.decimal arena)]
  | .overlap first second =>
      [("first", Text.decimal first), ("second", Text.decimal second)]
  | .outsideArena addr tier => [("addr", Text.decimal addr), ("tier", inspectTier tier)]

def InvariantViolation.inspect (violation : InvariantViolation) : String :=
  inspectFields violation.name violation.inspectedFields

def FileError.inspect : FileError → String
  | .system code kind message =>
      inspectFields "Os"
        [("code", Text.decimal code), ("kind", kind), ("message", Text.quoted message)]
  | .invalidText =>
      inspectFields "Error"
        [("kind", FileError.invalidText.kind), ("message", Text.quoted invalidTextMessage)]
  | .invalidPath =>
      inspectFields "Error"
        [("kind", FileError.invalidPath.kind), ("message", Text.quoted invalidPathMessage)]

def Failure.inspect (failure : Failure) : String :=
  match failure with
  | .file err => failure.name ++ "(" ++ err.inspect ++ ")"
  | .allocation err => failure.name ++ "(" ++ err.inspect ++ ")"
  | .invariant violation => failure.name ++ "(" ++ violation.inspect ++ ")"
  | .setting err => failure.name ++ "(" ++ err.inspect ++ ")"
  | .validation path failures =>
      inspectFields failure.name
        [("path", Text.quoted path), ("failures", Text.decimal failures)]
  | .workerPanicked => failure.name

end TierHeap
