import NameLint.Log.Record
import NameLint.Log.Storage

/-!
# Logging sessions

Loggers are registered by name, and each writes to a file of its own. The files
without a name of their own carry the time at which the session began. A logger
made when the session is verbose also writes to the console, from the level of
information on. Records are passed on to the loggers whose names are cut off at a
dot. Ending a session closes the handlers of the registered loggers; a logger that
was made without being registered keeps its own.
-/

namespace NameLint.Log

/-- Where records go; the path of a file is resolved. -/
inductive Handler where
  | file (path : String)
  | console
  deriving DecidableEq, Repr

def Handler.level : Handler → Level
  | .file _ => .debug
  | .console => .info

/-- A logger as its users see it; the file is the one that it was made with, as it was given. -/
structure Logger where
  name : String
  file : Option String
  deriving DecidableEq, Repr

structure Session where
  /-- The registered loggers. -/
  registered : List Logger := []
  /-- The handlers of loggers by name, whether registered or not. -/
  handlers : List (String × List Handler) := []
  /-- The time in the names of files, once it is fixed. -/
  stamp : Option String := none
  verbose : Bool := false
  /-- The directory for files without a name of their own. -/
  logsDir : String
  /-- The directories and files. -/
  storage : Storage := {}
  /-- The lines on the console. -/
  console : List String := []

namespace Session

/-- The directory of log files that a setting asks for; without one it is below the home
directory. -/
def logsDirFor (setting : Option String) : String :=
  match setting with
  | none => "~/.camellint/logs"
  | some "" => "~/.camellint/logs"
  | some path => Text.normalPath path

def find? (s : Session) (name : String) : Option Logger :=
  s.registered.find? fun l => l.name == name

def handlersOf (s : Session) (name : String) : List Handler :=
  (s.handlers.lookup name).getD []

/-- The logger has exactly these handlers. -/
def setHandlers (s : Session) (name : String) (hs : List Handler) : Session :=
  let others := s.handlers.filter fun e => e.1 != name
  { s with handlers := if hs.isEmpty then others else (name, hs) :: others }

/-- The file for a logger without one of its own, with the session's time in its name. The time is
fixed now if it has not been before, once the directory is there. -/
def defaultFile (s : Session) (name now : String) : Except Fault (Session × String) := do
  let stamp := s.stamp.getD now
  let storage ← s.storage.makeDirectory s.logsDir
  return ({ s with storage := storage, stamp := some stamp },
    Text.joinPath s.logsDir (name ++ "_" ++ stamp ++ ".log"))

/-- A logger of a name is made at the time `now`. If there are handlers for the name it shares them
and has no file; otherwise it gets a file and, in a verbose session, the console. The session is
returned even where the file cannot be opened. -/
def make (s : Session) (name : String) (file : Option String) (now : String) :
    Session × Except Fault Logger :=
  if (s.handlersOf name).isEmpty then
    let prepared :=
      match file with
      | some path => return (s, path)
      | none => s.defaultFile name now
    match prepared with
    | .error fault => (s, throw fault)
    | .ok (prepared, path) =>
      let target := Text.resolvedPath path
      match prepared.storage.openFile target with
      | .error fault => (prepared, throw fault)
      | .ok opened =>
        let hs := if s.verbose then [Handler.file target, .console] else [.file target]
        ({ prepared with storage := opened }.setHandlers name hs, return ⟨name, some path⟩)
  else (s, return ⟨name, none⟩)

/-- The registered logger of a name. It is made and registered if there is none; a file given for
one that is there is not looked at. -/
def obtain (s : Session) (name : String) (file : Option String) (now : String) :
    Session × Except Fault Logger :=
  match s.find? name with
  | some l => (s, return l)
  | none =>
    match s.make name file now with
    | (after, .ok l) => ({ after with registered := after.registered ++ [l] }, return l)
    | (after, .error fault) => (after, throw fault)

/-- The session ends: the registered loggers lose their handlers and are forgotten. -/
def reset (s : Session) : Session :=
  let closed := s.registered.foldl (fun t l => t.setHandlers l.name []) s
  { closed with registered := [], stamp := none }

/-- The name cut off at each of its dots, the longest first. -/
def outerNames (name : String) : List String :=
  let parts := name.splitOn "."
  (List.range (parts.length - 1)).reverse.map fun n => ".".intercalate (parts.take (n + 1))

/-- Every line ended by a line feed: carriage returns end one too, alone or before a line feed. -/
def lineFeeds : List Char → List Char
  | '\r' :: '\n' :: rest => '\n' :: lineFeeds rest
  | '\r' :: rest => '\n' :: lineFeeds rest
  | c :: rest => c :: lineFeeds rest
  | [] => []

/-- A record as lines of a file, where the line number of the call is not known. -/
def fileLines (r : Record) : List String :=
  let text := "[" ++ r.level.word ++ "] [" ++ fullName r.logger ++ ":" ++ r.level.verb ++ ":N] " ++
    r.message ++ "\n"
  ((String.ofList (lineFeeds text.toList)).splitOn "\n").dropLast

def consoleLines (r : Record) : List String :=
  ("[" ++ r.level.word ++ "] [" ++ fullName r.logger ++ "] " ++ r.message).splitOn "\n"

def deliver (r : Record) (s : Session) (h : Handler) : Session :=
  if r.level.rank < h.level.rank then s
  else
    match h with
    | .file path => { s with storage := s.storage.append path (fileLines r) }
    | .console => { s with console := s.console ++ consoleLines r }

/-- A record goes to the handlers of its logger and then to those of the outer names. -/
def emit (s : Session) (r : Record) : Session :=
  ((r.logger :: outerNames r.logger).flatMap s.handlersOf).foldl (deliver r) s

end Session

end NameLint.Log
