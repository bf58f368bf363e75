import NameLint.Name
import NameLint.Rule.Basic
import NameLint.Rule.Ignore
import NameLint.Rule.KeyName
import NameLint.Rule.PrivateTag

/-!
# The naming rule

Identifiers and the keys of object literals are to be in camel case or constants.
An identifier is not checked where its spelling is decided elsewhere: as the member
that is accessed, unless it is assigned to, and as an argument or key. Keys are
exempt if they are private and marked so, if they are to be ignored, and, if the
options say so, if they are quoted.
-/

namespace NameLint

structure CamelcaseOptions where
  ignore : List IgnorePattern := []
  exemptQuoted : Bool := true

namespace CamelcaseOptions

variable [Stack]

/-- The texts of a list that holds nothing else. -/
def texts? : List Value → Option (List String)
  | [] => some []
  | .text s :: rest => (texts? rest).map (s :: ·)
  | _ => none

def ignoreEntries (params : Entries) : Except Fault (List String) :=
  let refuse (given : Value) : Except Fault (List String) :=
    throw (.refusal (.ignoreNotTexts given))
  match (Entries.get? params "ignore").getD .null with
  | .null => return []
  | .list items => (texts? items).elim (refuse (.list items)) pure
  | .tuple items => (texts? items).elim (refuse (.tuple items)) pure
  | other => refuse other

def quoteOption (params : Entries) : Except Fault Bool :=
  match (Entries.get? params "quote").getD (.bool true) with
  | .bool b => return b
  | other => throw (.refusal (.quoteNotBool other))

def ofEntries (params : Entries) : Except Fault CamelcaseOptions := do
  let entries ← ignoreEntries params
  let exemptQuoted ← quoteOption params
  let ignore ← IgnorePattern.ofEntries entries
  return ⟨ignore, exemptQuoted⟩

/-- The options that parameters give; null counts as an empty mapping. -/
def ofParams : Value → Except Fault CamelcaseOptions
  | .null => ofEntries []
  | .map params => ofEntries params
  | other => throw (.refusal (.optionsNotAMapping other))

end CamelcaseOptions

namespace Camelcase

def identifierType : SubType :=
  ⟨"baidu025", "Identifier '\x7b\x7bname\x7d\x7d' is not in camel case."⟩

def propertyType : SubType :=
  ⟨"baidu030", "Property '\x7b\x7bname\x7d\x7d' is not in camel case."⟩

/-- A name in the wrong spelling at a node. -/
structure Finding where
  node : Node
  subType : SubType
  name : Item

def isMember (n : Node) : Bool :=
  n.isType "MemberExpression"

def isNamed (n : Node) (name : String) : Bool :=
  n.name.text? == some name

/-- Whether an assignment gives a value to the name: it is the member on the left, or nothing on
the right accesses a member. -/
def isAssigned (assignment : Node) (name : String) : Bool :=
  match assignment.child? "right" with
  | none => true
  | some right =>
    if isMember right then
      match assignment.child? "left" with
      | none => false
      | some left => isMember left && (left.child? "property").any (isNamed · name)
    else true

/-- Whether a name below an access to a member is checked there: as the object of the access, or as
what is assigned to. -/
def isCheckedInMember (member : Node) (above : Option Node) (name : String) : Bool :=
  (member.child? "object").any (fun object => object.isType "Identifier" && isNamed object name) ||
    above.any (fun a => a.isType "AssignmentExpression" && isAssigned a name)

/-- Whether a name is checked below these ancestors, the parent first. -/
def isChecked (name : String) : List Node → Bool
  | [] => false
  | parent :: above =>
    if isMember parent then isCheckedInMember parent above.head? name
    else !(parent.isType "CallExpression" || parent.isType "Property")

/-- What is wrong with an identifier below its ancestors. Underscores at the edges do not count, and
the name is reported as it is. -/
def checkIdentifier (n : Node) (ancestors : List Node) : Option Finding :=
  match n.name.text? with
  | none => none
  | some name =>
    if Name.isUnderscored (Name.stripUnderscores name) && isChecked name ancestors then
      some ⟨n, identifierType, n.name⟩
    else none

/-- Whether a key's name begins with an underscore. Sequences do not; other things have no
beginning. -/
def isPrivateName (name : Item) : Except Fault Bool :=
  match name with
  | .plain (.text s) => return Name.isPrivate s
  | .tuple _ => return false
  | .plain (.list _) => return false
  | .plain (.tuple _) => return false
  | _ => throw .wrongKind

/-- Whether a key's name is in the wrong spelling. A sequence is if it holds a dash; there is no
other spelling for it to have. -/
def isMisspelled (name : Item) : Except Fault Bool :=
  match name with
  | .plain (.text s) => return Name.isDashed s || !Name.isCamelOrConst s
  | .tuple items =>
    if items.any (fun i => i.text? == some "-") then return true else throw .wrongKind
  | _ => throw .wrongKind

/-- What is wrong with a property. -/
def checkProperty [Stack] (n : Node) (options : CamelcaseOptions) :
    Except Fault (Option Finding) := do
  match n.child? "key" with
  | none => return none
  | some key =>
    match ← key.keyName? with
    | none => return none
    | some name =>
      let isPrivate ← isPrivateName name
      if options.exemptQuoted && key.isType "Literal" && !isPrivate then return none
      if isPrivate then
        if ← n.hasPrivateTag then return none
      if ← IgnorePattern.anyHolds name options.ignore then return none
      if ← isMisspelled name then return some ⟨n, propertyType, name⟩
      return none

def Finding.report (f : Finding) : Report :=
  ⟨f.node, f.subType, .record [("name", f.name)]⟩

def atIdentifier (n : Node) (ancestors : List Node) : Outcome :=
  { reports := (checkIdentifier n ancestors).toList.map Finding.report }

def atProperty [Stack] (options : CamelcaseOptions) (n : Node) (_ : List Node) : Outcome :=
  match checkProperty n options with
  | .ok finding => { reports := finding.toList.map Finding.report }
  | .error fault => { fault := some fault }

def identifier : String := "camelcase"

def title : String := "Camelcase Check"

def about : String := "检查标识符和对象属性名是否符合驼峰或常量命名规范"

def displayName : String := "驼峰命名"

def standardSeverity : String := "warning"

def ruleWith [Stack] (settings : RuleSettings) (options : CamelcaseOptions) : Rule :=
  { label := "CamelcaseRule"
    identifier := identifier
    severity := Rule.severityOf settings standardSeverity
    settings := settings
    visitors := [("Identifier", atIdentifier), ("Property", atProperty options)] }

def rule [Stack] (settings : RuleSettings) : Except Fault Rule := do
  Rule.checkSeverity settings standardSeverity
  return ruleWith settings (← CamelcaseOptions.ofParams settings.params)

end Camelcase

end NameLint
