import TierHeap.Failure

/-!
# Files in memory

A tree of files below a root, with one directory in it to which paths are relative.  A path is
walked part by part, from the root if it starts with a slash: a dot stays where it is, two dots
lead one directory up, and what is passed on the way is a directory.
-/

namespace TierHeap.Cli

/-- The contents of the files, by their names from the root on. -/
structure FileTree where
  files : List (List String × List UInt8)
  deriving DecidableEq, Repr

def nameLimit : Nat :=
  255

def pathLimit : Nat :=
  4095

/-- A path, taken apart at its slashes. -/
structure SplitPath where
  /-- The path starts at the root. -/
  fromRoot : Bool
  /-- The parts on the way. -/
  way : List String
  /-- The part at the end, empty for a path of slashes. -/
  target : String
  /-- The path ends in a slash. -/
  endsInSlash : Bool
  deriving DecidableEq, Repr

namespace SplitPath

def of (path : String) : SplitPath :=
  let cs := path.toList
  let body := (cs.reverse.dropWhile (· == '/')).reverse
  let parts := (body.splitOn '/').map String.ofList
  { fromRoot := cs.head? == some '/'
    way := parts.dropLast
    target := parts.getLast?.getD ""
    endsInSlash := cs.getLast? == some '/' }

/-- The end of the path is no name, but a place that is there in any directory. -/
def endsInPlace (path : SplitPath) : Bool :=
  ["", ".", ".."].contains path.target

end SplitPath

namespace FileTree

def home : List String :=
  ["tmp", "rehearsal"]

def sink : List String :=
  ["dev", "null"]

def empty : FileTree :=
  ⟨[(sink, [])]⟩

def find?
    (tree : FileTree)
    (names : List String) : Option (List UInt8) :=
  tree.files.lookup names

/-- The names lead to a directory: one above the relative paths, or one that holds a file. -/
def isDirectory
    (tree : FileTree)
    (names : List String) : Bool :=
  names.isPrefixOf home ||
    tree.files.any fun file => names.isPrefixOf file.1 && names != file.1

inductive Found where
  | directory
  | file (contents : List UInt8)
  | nothing
  deriving DecidableEq, Repr

def look
    (tree : FileTree)
    (directory : List String)
    (name : String) : Except FileError Found :=
  let names := directory ++ [name]
  if nameLimit < name.utf8ByteSize then .error .nameTooLong
  else if tree.isDirectory names then .ok .directory
  else
    match tree.find? names with
    | some contents => .ok (.file contents)
    | none => .ok .nothing

/-- Go from a directory to the one that a part of a path leads to. -/
def enter
    (tree : FileTree)
    (directory : List String)
    (part : String) : Except FileError (List String) :=
  if part = "" ∨ part = "." then .ok directory
  else if part = ".." then .ok directory.dropLast
  else do
    match ← tree.look directory part with
    | .directory => .ok (directory ++ [part])
    | .file _ => .error .notDirectory
    | .nothing => .error .notFound

def walk
    (tree : FileTree)
    (path : SplitPath) : Except FileError (List String) :=
  path.way.foldlM tree.enter (if path.fromRoot then [] else home)

/-- Refuse what is no path at all: texts that hold a zero, are empty or too long. -/
def checkPath (path : String) : Except FileError Unit :=
  if path.toList.contains '\x00' then .error .invalidPath
  else if path = "" then .error .notFound
  else if pathLimit < path.utf8ByteSize then .error .nameTooLong
  else .ok ()

def read
    (tree : FileTree)
    (path : String) : Except FileError (List UInt8) := do
  checkPath path
  let path := SplitPath.of path
  let directory ← tree.walk path
  if path.endsInPlace then .error .isDirectory
  else
    match ← tree.look directory path.target with
    | .directory => .error .isDirectory
    | .file contents => if path.endsInSlash then .error .notDirectory else .ok contents
    | .nothing => .error .notFound

def write
    (tree : FileTree)
    (path : String)
    (contents : List UInt8) : Except FileError FileTree := do
  checkPath path
  let path := SplitPath.of path
  let directory ← tree.walk path
  if path.endsInPlace || path.endsInSlash then .error .isDirectory
  else
    let names := directory ++ [path.target]
    match ← tree.look directory path.target with
    | .directory => .error .isDirectory
    | _ =>
        if names = sink then .ok tree
        else .ok ⟨(names, contents) :: tree.files.filter fun file => file.1 != names⟩

end FileTree

end TierHeap.Cli
