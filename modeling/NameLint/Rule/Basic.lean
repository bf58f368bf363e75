import NameLint.Config.Settings
import NameLint.Report.Context
import NameLint.Tree.Walk

/-!
# Rules

A rule looks at nodes of some types and reports violations. What it does at a node
is an `Outcome`: the reports in their order, and the fault with which it gave up
after them, if it did. A report that cannot be completed ends the visit with its
own fault.
-/

namespace NameLint

structure Report where
  node : Node
  subType : SubType
  data : Item

/-- What a rule does at a node. -/
structure Outcome where
  reports : List Report := []
  fault : Option Fault := none

structure Rule where
  /-- The name of the rule's kind. -/
  label : String
  identifier : String
  severity : Severity
  settings : RuleSettings
  /-- What the rule does at nodes of a type, with the ancestors from the parent on. -/
  visitors : List (String × (Node → List Node → Outcome))

namespace Rule

/-- What stands as the severity in a rule's settings. -/
def severityWord (settings : RuleSettings) (standard : String) : Value :=
  if settings.severity.truthy then settings.severity else .text standard

/-- The severity that a rule's settings ask for; a word that is none is a warning. -/
def severityOf (settings : RuleSettings) (standard : String) : Severity :=
  (Severity.ofValue? (severityWord settings standard)).getD .warning

/-- A word that is no severity is quoted before it is passed over, and has to fit on the stack. -/
def checkSeverity [Stack] (settings : RuleSettings) (standard : String) : Except Fault Unit :=
  let word := severityWord settings standard
  if (Severity.ofValue? word).isNone &&
      word.obstacle? (Stack.room .unknownSeverity) == some .depth then
    throw .stackExhausted
  else return ()

theorem checkSeverity_of_known [Stack] {settings : RuleSettings} {standard : String}
    (known : (Severity.ofValue? (severityWord settings standard)).isSome = true) :
    checkSeverity settings standard = .ok () := by
  have quoted : (Severity.ofValue? (severityWord settings standard)).isNone = false := by
    rw [← Option.not_isSome, known]
    rfl
  rw [checkSeverity, quoted, Bool.false_and]
  rfl

def isEnabled (r : Rule) : Bool :=
  r.settings.enabled.truthy

def description [Stack] (r : Rule) : Except Fault String := do
  let enabled ← r.settings.enabled.textFor .description
  return "<" ++ r.label ++ " identifier=" ++ r.identifier ++ " enabled=" ++ enabled ++ ">"

def outcome (r : Rule) (v : Visit) : Outcome :=
  match r.visitors.lookup v.node.type with
  | some visitor => visitor v.node v.ancestors
  | none => {}

def context (r : Rule) (filePath : String) : Context :=
  { filePath := filePath, ruleId := r.identifier, severity := r.severity }

end Rule

/-- Reports are made in order, up to the first that cannot be completed. -/
def Context.reportAll [Stack] (c : Context) : List Report → Context × Option Fault
  | [] => (c, none)
  | r :: rest =>
    match c.report r.node r.subType r.data with
    | (next, .ok _) => next.reportAll rest
    | (next, .error fault) => (next, some fault)

/-- The outcome of a visit taken into the context, and the fault of the visit, if it had one. -/
def Context.take [Stack] (c : Context) (o : Outcome) : Context × Option Fault :=
  match c.reportAll o.reports with
  | (next, none) => (next, o.fault)
  | (next, some fault) => (next, some fault)

end NameLint
