import NameLint.Config.Settings
import NameLint.Log.Record
import NameLint.Text.Path

/-!
# Configuration files

A configuration file is a document whose value is a mapping; an empty document
counts as an empty mapping. How documents are read is up to the reader that is
given. Loading a file leaves a trace of records.
-/

namespace NameLint

inductive DocumentFault where
  /-- The text is no document. -/
  | malformed
  | other (fault : Fault)

/-- A reader gives the value of the document in a file. -/
abbrev DocumentReader := ByteArray → Except DocumentFault Value

/-- What stands at the path of a configuration file. -/
inductive ConfigFile where
  | missing
  | directory
  | bytes (content : ByteArray)
  /-- The path cannot be looked at. -/
  | refused

namespace ConfigFile

/-- A directory on the way of a path: the one that the way began in, the entry of that directory, or
one above. -/
inductive Stop where
  | start
  | entry
  | above

/-- What a way through directories ends at. The only entry of the starting directory has the given
name; there is nothing in it. -/
def follow (name : String) (present : ConfigFile) : Stop → List String → ConfigFile
  | _, [] => .directory
  | stop, part :: rest =>
    if Text.longestPart < part.utf8ByteSize then .refused
    else if part == ".." then
      match stop with
      | .entry => follow name present .start rest
      | _ => follow name present .above rest
    else
      match stop, part == name, present with
      | .start, true, .directory => follow name present .entry rest
      | .start, true, found => if rest.isEmpty then found else .missing
      | _, _, _ => .missing

/-- What stands at a path, in a directory with one entry of the given name. -/
def atPath (path name : String) (present : ConfigFile) : ConfigFile :=
  if path.toList.contains (Char.ofNat 0) then .missing
  else if Text.pathLimit ≤ path.utf8ByteSize then .refused
  else
    follow name present (if Text.pathRoot path == "" then .start else .above) (Text.pathParts path)

end ConfigFile

namespace LintConfig

def documentFault (path : String) : DocumentFault → Fault
  | .malformed => .config (.malformedFile path)
  | .other fault => fault

def readFile (read : DocumentReader) (path : String) (content : ByteArray) :
    Except Fault Entries := do
  let v ← (read content).mapError (documentFault path)
  if v.truthy then
    match v with
    | .map entries => return entries
    | _ => throw (.config (.fileNotAMapping path))
  else return []

def userEntries (read : DocumentReader) (path : Option String) (file : ConfigFile) :
    Except Fault (Option Entries) :=
  match path, file with
  | none, _ => return none
  | some _, .missing => return none
  | some _, .directory => throw .isDirectory
  | some _, .refused => throw .pathRefused
  | some p, .bytes content => return some (← readFile read p content)

def record (message : String) : Log.Record :=
  ⟨.debug, "config", message⟩

/-- What is said about the user's entries. -/
def mergeNote : Option Entries → String
  | some user => "Merged " ++ toString user.length ++ " user config keys"
  | none => "No config file found, using defaults only"

/-- The configuration at a path, if one is given, and the records of loading it. -/
def load [Stack] (read : DocumentReader) (path : Option String) (file : ConfigFile) :
    List Log.Record × Except Fault LintConfig :=
  let normal := path.map Text.normalPath
  let start := record ("Loading config from: " ++ normal.getD "None")
  match userEntries read normal file with
  | .error fault => ([start], throw fault)
  | .ok user =>
    let merged := record (mergeNote user)
    match ofEntries (user.getD []) with
    | .error fault => ([start, merged], throw fault)
    | .ok config =>
      let built := record
        ("Config built: " ++ toString config.enabledCount ++ " rules enabled")
      ([start, merged, built], return config)

end LintConfig

end NameLint
