import NameLint.Fault
import NameLint.Text.Path

/-!
# Files of a log

The directories and files that log records are kept in, seen from a starting
directory. Paths are resolved. A file is opened for adding to it: what stands on the
way to it has to be a directory that exists.
-/

namespace NameLint.Log

structure Storage where
  /-- The directories that were made. -/
  directories : List String := []
  /-- The files with their lines. -/
  files : List (String × List String) := []
  deriving Repr

namespace Storage

/-- Whether a directory is there. The starting directory is, and those above it. -/
def isDirectory (s : Storage) (path : String) : Bool :=
  (Text.pathParts path).all (· == "..") || s.directories.contains path

def isFile (s : Storage) (path : String) : Bool :=
  (s.files.lookup path).isSome

def isOverlong (path : String) : Bool :=
  ((Text.pathParts path).getLast?).any fun name => Text.longestPart < name.utf8ByteSize

/-- What keeps a path from being entered as a directory. -/
def obstacle? (s : Storage) (path : String) : Option Fault :=
  if isOverlong path then some .pathRefused
  else if s.isDirectory path then none
  else if s.isFile path then some .notADirectory
  else some .notFound

/-- A file is opened; a new one begins without lines. -/
def openFile (s : Storage) (path : String) : Except Fault Storage :=
  if path.toList.contains (Char.ofNat 0) then throw .badValue
  else if Text.pathLimit ≤ path.utf8ByteSize then throw .pathRefused
  else
    match (Text.pathChain path).dropLast.findSome? s.obstacle? with
    | some fault => throw fault
    | none =>
      if isOverlong path then throw .pathRefused
      else if s.isDirectory path then throw .isDirectory
      else if s.isFile path then return s
      else return { s with files := s.files ++ [(path, [])] }

/-- A directory and those above it are made where they do not exist. -/
def makeDirectory (s : Storage) (path : String) : Except Fault Storage :=
  let chain := Text.pathChain path
  match chain.find? s.isFile with
  | some file => throw (if file == path then .alreadyExists else .notADirectory)
  | none =>
    return { s with directories := s.directories ++ chain.filter fun d => !s.isDirectory d }

def addLines (path : String) (lines : List String) :
    List (String × List String) → List (String × List String)
  | [] => []
  | (p, old) :: rest =>
    if p == path then (p, old ++ lines) :: rest else (p, old) :: addLines path lines rest

/-- Lines are added to a file that was opened. -/
def append (s : Storage) (path : String) (lines : List String) : Storage :=
  { s with files := addLines path lines s.files }

def sortedFiles (s : Storage) : List (String × List String) :=
  (s.files.filter fun f => (Text.pathParts f.1).head? != some "..").mergeSort fun a b =>
    compare a.1 b.1 != .gt

end Storage

end NameLint.Log
