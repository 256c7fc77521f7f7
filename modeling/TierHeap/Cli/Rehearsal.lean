import TierHeap.Cli.Commands
import TierHeap.Cli.FileTree

/-!
# Rehearsals

A platform in memory, on which commands can be carried out without touching the system.  The
clock stands still, and the files are those of a tree.
-/

namespace TierHeap.Cli

/-- The files, variables and outputs of a rehearsal. -/
structure Stage where
  files : FileTree
  environment : List (String × String)
  now : Instant
  out : String
  err : String

namespace Stage

/-- A stage with files given by path; one whose path leads nowhere is left out. -/
def ofFiles
    (files : List (String × List UInt8))
    (environment : List (String × String))
    (now : Instant) : Stage where
  files :=
    files.foldl (fun tree file => (tree.write file.1 file.2).toOption.getD tree) FileTree.empty
  environment := environment
  now := now
  out := ""
  err := ""

def read
    (stage : Stage)
    (path : String) : Except FileError (List UInt8) :=
  stage.files.read path

end Stage

abbrev Rehearsal := StateM Stage

instance : Platform Rehearsal where
  readFile path := return (← get).read path
  writeFile path contents := do
    let stage ← get
    match stage.files.write path contents with
    | .ok files =>
        set { stage with files := files }
        return .ok ()
    | .error err => return .error err
  out text := modify fun stage => { stage with out := stage.out ++ text }
  err text := modify fun stage => { stage with err := stage.err ++ text }
  now := return (← get).now
  environment := do
    let stage ← get
    return fun name => stage.environment.lookup name
  timed compute := return (compute (), 0)

/-- Carry out a command on a stage; the result is the exit code and the stage afterwards. -/
def rehearse
    (args : List String)
    (stage : Stage) : Nat × Stage :=
  (main args : Rehearsal Nat).run stage

end TierHeap.Cli
