import NameLint.Fault
import NameLint.Pattern.Compile
import NameLint.Pattern.Search
import NameLint.Tree.Node

/-!
# Names to ignore

An entry between slashes is a regular expression that is searched for in a name;
any other entry is a name to be ignored as it is.
-/

namespace NameLint

inductive IgnorePattern where
  | literal (name : String)
  | regex (body : String) (compiled : Pattern.Compiled)

namespace IgnorePattern

/-- The text between the slashes of an entry, if it has them; it holds no line feed. -/
def regexBody? (entry : String) : Option String :=
  match entry.toList with
  | '/' :: rest =>
    match rest.reverse with
    | '/' :: body => if body.contains '\n' then none else some (String.ofList body.reverse)
    | _ => none
  | _ => none

/-- The fault of an entry whose text between slashes is no pattern or cannot be searched for. -/
def patternFault (entry : String) : Pattern.Fault → Fault
  | .rejected complaint position => .config (.badPattern entry complaint position)
  | .countTooLarge => .tooLarge
  | .countTooLong => .badValue
  | .clashingModes => .badValue
  | .tooWide => .patternTooWide
  | .crossedGroup => .crossedGroup
  | .stackExhausted => .stackExhausted

def ofEntry [Stack] (entry : String) : Except Fault IgnorePattern :=
  match regexBody? entry with
  | none => return .literal entry
  | some body => return .regex body (← (Pattern.compile body).mapError (patternFault entry))

/-- The patterns of all entries; the first that is none counts. -/
def ofEntries [Stack] : List String → Except Fault (List IgnorePattern)
  | [] => return []
  | entry :: rest => do
    let first ← ofEntry entry
    return first :: (← ofEntries rest)

/-- Whether a name has the pattern. Only a text can be searched. -/
def holds (p : IgnorePattern) (name : Item) : Except Fault Bool :=
  match p, name.text? with
  | .literal s, some t => return s == t
  | .literal _, none => return false
  | .regex body compiled, some t => (compiled.search t).mapError (patternFault ("/" ++ body ++ "/"))
  | .regex _ _, none => throw .wrongKind

def anyHolds (name : Item) : List IgnorePattern → Except Fault Bool
  | [] => return false
  | p :: rest => do
    if ← p.holds name then return true else anyHolds name rest

end IgnorePattern

end NameLint
