import NameLint.Report.Template
import NameLint.Report.Violation

/-!
# Reporting

A report context belongs to one rule and one tree and collects the violations
found. The same sub type is recorded once for a node. A report that cannot be
completed still counts as made, so that a second attempt is passed over.
-/

namespace NameLint

/-- A kind of violation that a rule tells apart, with the template of its message. -/
structure SubType where
  id : String
  message : String
  deriving DecidableEq, Repr

structure Context where
  filePath : String
  ruleId : String
  severity : Severity
  /-- The node and sub type of each report made. -/
  reported : List (Nat × String) := []
  /-- The violations recorded, in the order of their reports. -/
  violations : List Violation := []

namespace Context

variable [Stack]

/-- Line and column of a node as shown to readers, who count columns from one. A node without a
location is at zero. -/
def placeOf (n : Node) : Except Fault (Value × Value) :=
  match n.loc with
  | none => return (.int 0, .int 0)
  | some loc =>
    match loc.startColumn.number? with
    | none => throw .wrongKind
    | some column =>
      match column.add? (.whole 1) with
      | none => throw .tooLarge
      | some next => return (loc.startLine, .ofNumber next)

def violation (c : Context) (n : Node) (t : SubType) (data : Item) : Except Fault Violation := do
  let (line, column) ← placeOf n
  let message ← Template.format t.message data
  let copied ← if data.truthy then Violation.copyData data else pure (.plain (.map []))
  return { filePath := .text c.filePath
           line := line
           column := column
           severity := .known c.severity
           message := .text message
           ruleId := .text c.ruleId
           subType := .text t.id
           nodeType := .text n.type
           data := copied }

def hasReported (c : Context) (n : Node) (t : SubType) : Bool :=
  c.reported.contains (n.id, t.id)

def mark (c : Context) (n : Node) (t : SubType) : Context :=
  { c with reported := (n.id, t.id) :: c.reported }

/-- A report: the context afterwards, and the violation recorded, of which there is none if the
report was made before. -/
def report (c : Context) (n : Node) (t : SubType) (data : Item) :
    Context × Except Fault (Option Violation) :=
  if c.hasReported n t then (c, return none)
  else
    let marked := c.mark n t
    match c.violation n t data with
    | .ok v => ({ marked with violations := marked.violations ++ [v] }, return some v)
    | .error fault => (marked, throw fault)

end Context

end NameLint
