import NameLint.Fault

/-!
# Settings

The settings of a rule say whether it is enabled, how severe its violations are
and what parameters it has. A configuration gives settings to rules by their
identifiers. What the user says is merged over the defaults, mapping by mapping,
and then checked and taken apart.
-/

namespace NameLint

/-- The settings of one rule. No severity means that the rule decides. -/
structure RuleSettings where
  enabled : Value := .bool true
  severity : Value := .null
  params : Value := .map []

/-- The settings of rules by identifier, in order. -/
abbrev LintConfig := List (Value × RuleSettings)

namespace LintConfig

def find? (config : LintConfig) (rule : String) : Option RuleSettings :=
  (List.find? (fun e => e.1.same (.text rule)) config).map Prod.snd

/-- The settings that hold where the user says nothing. -/
def defaults : Entries :=
  [(.text "rules", .map [
    (.text "camelcase", .map [
      (.text "enabled", .bool true),
      (.text "severity", .text "warning"),
      (.text "params", .map [
        (.text "ignore", .list []),
        (.text "quote", .bool true)])])])]

mutual

/-- The entries with others written over them: a mapping over a mapping is merged into it, and
anything else takes its place. -/
def merge : List (Value × Value) → List (Value × Value) → List (Value × Value)
  | base, [] => base
  | base, (k, v) :: rest => merge (Entries.put base k (mergeValue (Entries.find? base k) v)) rest

def mergeValue : Option Value → Value → Value
  | some (.map base), .map top => .map (merge base top)
  | _, top => top

end

/-- The settings that the entry of a rule describes: a truth value only enables or disables. -/
def ruleSettings [Stack] (rule entry : Value) : Except Fault RuleSettings :=
  match entry with
  | .bool enabled => return { enabled := .bool enabled }
  | .map entries =>
    let settings (params : Value) : RuleSettings :=
      { enabled := (Entries.get? entries "enabled").getD (.bool true)
        severity := (Entries.get? entries "severity").getD .null
        params := params }
    match (Entries.get? entries "params").getD .null with
    | .null => return settings (.map [])
    | .map params => return settings (.map params)
    | other => throw (.refusal (.paramsNotAMapping rule other))
  | other => throw (.refusal (.badRule rule other))

def allSettings [Stack] : List (Value × Value) → Except Fault LintConfig
  | [] => return []
  | (rule, entry) :: rest => do
    let settings ← ruleSettings rule entry
    return (rule, settings) :: (← allSettings rest)

def build [Stack] (entries : Entries) : Except Fault LintConfig :=
  match (Entries.get? entries "rules").getD .null with
  | .map rules => allSettings rules
  | other => throw (.refusal (.rulesNotAMapping other))

def ofEntries [Stack] (user : Entries) : Except Fault LintConfig :=
  build (merge defaults user)

def ofValue [Stack] : Value → Except Fault LintConfig
  | .map user => ofEntries user
  | other => throw (.config (.notAMapping other.kindName))

def enabledCount (config : LintConfig) : Nat :=
  config.countP fun e => e.2.enabled.truthy

end LintConfig

end NameLint
