import NameLint.Fault
import NameLint.Text.Word

/-!
# Source locations and comments

A location says where a node or a comment begins and ends. Lines and columns are
kept as they were given, whatever their kind: nothing is checked here but what
reading itself needs.
-/

namespace NameLint

structure Location where
  startLine : Value
  startColumn : Value
  endLine : Value
  endColumn : Value

structure Comment where
  type : Value
  value : Value
  loc : Option Location

namespace Location

/-- The entries of a position that has a line. A position without a line is none; a sequence or a
text that happens to hold the word has no entries, and a number holds nothing. -/
def position? : Value → Except Fault (Option Entries)
  | .map entries =>
    if (Entries.get? entries "line").isSome then return some entries else return none
  | .list items => if items.any (·.same (.text "line")) then throw .wrongKind else return none
  | .tuple items => if items.any (·.same (.text "line")) then throw .wrongKind else return none
  | .set items => if items.any (·.same (.text "line")) then throw .wrongKind else return none
  | .text s => if Text.hasPart "line".toList s.toList then throw .wrongKind else return none
  | _ => throw .wrongKind

/-- The first value, or the second where there is none that counts as true. -/
def orElse (v : Option Value) (other : Value) : Value :=
  match v with
  | some v => if v.truthy then v else other
  | none => other

/-- The location that a value describes. What is no mapping, and what has no line to begin with,
describes none. A missing end is the start, a missing column is zero. -/
def read : Value → Except Fault (Option Location)
  | .map data => do
    let start := orElse (Entries.get? data "start") (.map [])
    let stop := orElse (Entries.get? data "end") start
    match ← position? start with
    | none => return none
    | some first =>
      match stop with
      | .map last =>
        let line := (Entries.get? first "line").getD .null
        return some
          { startLine := line
            startColumn := (Entries.get? first "column").getD (.int 0)
            endLine := (Entries.get? last "line").getD line
            endColumn := (Entries.get? last "column").getD (.int 0) }
      | _ => throw .noMember
  | _ => return none

/-- The text of a location inside another text. -/
def written (l : Location) : String :=
  "SourceLocation(start=Position(line=" ++ l.startLine.written ++ ", column=" ++
    l.startColumn.written ++ "), end=Position(line=" ++ l.endLine.written ++ ", column=" ++
    l.endColumn.written ++ "))"

def writtenOption : Option Location → String
  | none => "None"
  | some l => l.written

/-- The first obstacle to the text of a location inside another text. A location takes three calls,
and so does each position in it. -/
def obstacle? (room : Nat) (l : Location) : Option Value.Obstacle :=
  Value.obstacleIn? (room - 6) [l.startLine, l.startColumn, l.endLine, l.endColumn]

def obstacleOption? (room : Nat) : Option Location → Option Value.Obstacle
  | none => Value.obstacle? room .null
  | some l => l.obstacle? room

end Location

namespace Comment

def read (data : Entries) : Except Fault Comment := do
  let loc ← Location.read ((Entries.get? data "loc").getD .null)
  return { type := (Entries.get? data "type").getD (.text "")
           value := (Entries.get? data "value").getD (.text "")
           loc := loc }

/-- The comments of a sequence; what is no mapping in it is passed over. -/
def readItems : List Value → Except Fault (List Comment)
  | [] => return []
  | .map data :: rest => do
    let first ← read data
    return first :: (← readItems rest)
  | _ :: rest => readItems rest

/-- The comments in front of a node. A value that counts as false has none, and so do texts and
mappings, which hold no mappings; what has no items at all is at fault. -/
def readAll (v : Value) : Except Fault (List Comment) :=
  if !v.truthy then return []
  else
    match v with
    | .list items => readItems items
    | .tuple items => readItems items
    | .map _ => return []
    | .text _ => return []
    | .bytes _ => return []
    | .set _ => return []
    | _ => throw .wrongKind

def written (c : Comment) : String :=
  "Comment(type=" ++ c.type.written ++ ", value=" ++ c.value.written ++ ", loc=" ++
    Location.writtenOption c.loc ++ ")"

def obstacle? (room : Nat) (c : Comment) : Option Value.Obstacle :=
  (Value.obstacleIn? (room - 3) [c.type, c.value]).or (Location.obstacleOption? (room - 3) c.loc)

end Comment

end NameLint
