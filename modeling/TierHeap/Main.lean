import Std.Time.DateTime.Timestamp
import TierHeap.Cli.Commands

/-!
# The program

The commands on the files, the clock, the variables and the outputs of the system.
-/

namespace TierHeap

/-- The cause of a failed file access, in the system's terms. -/
def fileErrorOf : IO.Error → FileError
  | .noFileOrDirectory _ _ _ => .notFound
  | .inappropriateType _ code _ => if code = 20 then .notDirectory else .isDirectory
  | .invalidArgument _ code _ => if code = 36 then .nameTooLong else .invalidPath
  | .permissionDenied _ code _ => .system code.toNat "PermissionDenied" "Permission denied"
  | err => .system 0 "Uncategorized" (toString err)

def attempt
    {α : Type}
    (action : IO α) : IO (Except FileError α) :=
  try
    return .ok (← action)
  catch err =>
    return .error (fileErrorOf err)

instance : Cli.Platform IO where
  readFile path := attempt do return (← IO.FS.readBinFile path).toList
  writeFile path contents := attempt (IO.FS.writeBinFile path ⟨contents.toArray⟩)
  out text := do
    let output ← IO.getStdout
    output.putStr text
    output.flush
  err text := do
    let output ← IO.getStderr
    output.putStr text
    output.flush
  now := do
    let stamp ← Std.Time.Timestamp.now
    return ⟨stamp.val.second.val, stamp.val.nano.val.toNat⟩
  environment := do
    let values ← EnvKey.all.mapM fun key => return (key.name, ← IO.getEnv key.name)
    return fun name => (values.lookup name).join
  timed compute := do
    let start ← IO.monoMsNow
    let value ← IO.lazyPure compute
    let stop ← IO.monoMsNow
    return (value, stop - start)

end TierHeap

def main (args : List String) : IO UInt32 := do
  let code ← TierHeap.Cli.main args
  return UInt32.ofNat code
