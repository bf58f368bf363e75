import NameLint.Report.Digest
import NameLint.Report.Severity
import NameLint.Tree.Node

/-!
# Violations

A violation says where which rule is broken, and how. Its identifier is a digest
of file, rule, sub type and place; it is computed when first asked for and kept
from then on, whatever is changed later. The parts of a violation are values of
any kind, since anything may be written over them.
-/

namespace NameLint

/-- What stands in the place of a severity: one of the severities, or anything else. -/
inductive SeverityMark where
  | known (s : Severity)
  | other (v : Value)

structure Violation where
  filePath : Value
  line : Value
  column : Value
  severity : SeverityMark
  message : Value
  ruleId : Value
  source : Value := .text "camellint"
  subType : Value := .null
  nodeType : Value := .null
  data : Item := .plain (.map [])
  /-- The identifier once it is known; null before. -/
  identifier : Value := .null

namespace Violation

/-- The sub type as the identifier sees it. -/
def effectiveSubType (v : Violation) : Value :=
  if v.subType.truthy then v.subType else .text "default"

/-- The text that the identifier is a digest of. -/
def digestInput (v : Violation) : String :=
  v.filePath.shown ++ ":" ++ v.ruleId.shown ++ ":" ++ v.effectiveSubType.shown ++ ":" ++
    v.line.shown ++ ":" ++ v.column.shown

/-- The first sixteen digits of the digest. -/
def computedId (v : Violation) : String :=
  String.ofList ((Digest.hex v.digestInput).toList.take 16)

def identified (v : Violation) : Violation :=
  match v.identifier with
  | .null => { v with identifier := .text v.computedId }
  | _ => v

def digestObstacle? [Stack] (v : Violation) : Option Value.Obstacle :=
  [v.filePath, v.ruleId, v.effectiveSubType, v.line, v.column].findSome?
    (Value.shownObstacle? (Stack.room .identifier))

def hasDigest [Stack] (v : Violation) : Bool :=
  v.digestObstacle?.isNone

/-- The identifier, and the violation afterwards, which keeps it. Where it is not known yet and a
part has no text, there is none. -/
def readId [Stack] (v : Violation) : Violation × Except Fault Value :=
  match v.identifier with
  | .null =>
    match v.digestObstacle? with
    | none => (v.identified, return .text v.computedId)
    | some obstacle => (v, throw (.ofObstacle obstacle))
  | known => (v, return known)

/-- Key and value of an entry of a mapping that is given as a sequence: a sequence of two, a text of
two characters or a mapping of two keys. -/
def pairOf : Value → Except Fault (Value × Value)
  | .list [k, v] => return (k, v)
  | .tuple [k, v] => return (k, v)
  | .list _ => throw .badValue
  | .tuple _ => throw .badValue
  | .text s =>
    match s.toList with
    | [k, v] => return (.text k.toString, .text v.toString)
    | _ => throw .badValue
  | .map [(k, _), (l, _)] => return (k, l)
  | .map _ => throw .badValue
  | _ => throw .wrongKind

/-- The mapping that a sequence of pairs makes after the entries so far. -/
def mapOfPairs (done : Entries) : List Value → Except Fault Entries
  | [] => return done
  | item :: rest => do
    let (k, v) ← pairOf item
    if k.canBeKey then mapOfPairs (Entries.put done k v) rest else throw .wrongKind

def copyData : Item → Except Fault Item
  | .record entries => return .record entries
  | .plain (.map entries) => return .plain (.map entries)
  | .plain (.list items) => return .plain (.map (← mapOfPairs [] items))
  | .plain (.tuple items) => return .plain (.map (← mapOfPairs [] items))
  | .plain (.text s) => if s.isEmpty then return .plain (.map []) else throw .badValue
  | _ => throw .wrongKind

def requiredEntries (v : Violation) (s : Severity) : List (String × Item) :=
  [("file_path", .plain v.filePath), ("line", .plain v.line), ("column", .plain v.column),
    ("severity", .plain (.text s.word)), ("message", .plain v.message),
    ("rule_id", .plain v.ruleId), ("source", .plain v.source),
    ("violation_id", .plain v.identifier)]

/-- The entries that stand only where they count as true. -/
def optionalEntries (v : Violation) : List (String × Item) :=
  [("sub_type", v.subType), ("node_type", v.nodeType)].filterMap fun (key, value) =>
    if value.truthy then some (key, .plain value) else none

/-- The violation as entries in their order, once the identifier is known. -/
def allEntries (v : Violation) (s : Severity) : Except Fault (List (String × Item)) :=
  let entries := v.requiredEntries s ++ v.optionalEntries
  if v.data.truthy then do
    let data ← copyData v.data
    return entries ++ [("data", data)]
  else return entries

/-- The violation as entries in their order, and the violation afterwards. Without a severity there
are no entries, and the identifier stays unknown; data that is no mapping is found out only after
the identifier is known. -/
def toEntries [Stack] (v : Violation) : Violation × Except Fault (List (String × Item)) :=
  match v.severity with
  | .other _ => (v, throw .noMember)
  | .known s =>
    let (after, id) := v.readId
    (after, id >>= fun _ => after.allEntries s)

inductive Field where
  | filePath
  | line
  | column
  | severity
  | message
  | ruleId
  | source
  | subType
  | nodeType
  | data
  | identifier
  deriving DecidableEq, Repr

def put (v : Violation) (field : Field) (value : Value) : Violation :=
  match field with
  | .filePath => { v with filePath := value }
  | .line => { v with line := value }
  | .column => { v with column := value }
  | .severity => { v with severity := .other value }
  | .message => { v with message := value }
  | .ruleId => { v with ruleId := value }
  | .source => { v with source := value }
  | .subType => { v with subType := value }
  | .nodeType => { v with nodeType := value }
  | .data => { v with data := .plain value }
  | .identifier => { v with identifier := value }

/-- A violation from the values of its parts. The severity is looked at first: it has to be there
and to be known. Then all parts that have no value of their own have to be there. -/
def ofFields (fields : List (Field × Value)) : Except Fault Violation := do
  let word ← (fields.lookup .severity).elim (throw .missingKey) pure
  let severity ← (Severity.ofValue? word).elim (throw .badValue) pure
  let required (f : Field) : Except Fault Value :=
    (fields.lookup f).elim (throw .wrongKind) pure
  let bare : Violation :=
    { filePath := ← required .filePath
      line := ← required .line
      column := ← required .column
      severity := .known severity
      message := ← required .message
      ruleId := ← required .ruleId }
  let rest := fields.filter fun e => e.1 != .severity
  return rest.foldl (fun v e => v.put e.1 e.2) bare

end Violation

end NameLint
