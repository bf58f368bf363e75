import NameLint.Pattern.Fault
import NameLint.Stack
import NameLint.Value.Written

/-!
# Refused configurations

Every way in which a configuration can be refused, with its wording. Values are
quoted in the wording as they were given.
-/

namespace NameLint

open Value (Obstacle)

inductive ConfigFault where
  /-- The configuration is no mapping but a value of another kind. -/
  | notAMapping (kind : String)
  /-- The file is not well formed. -/
  | malformedFile (path : String)
  /-- The file holds something else than a mapping. -/
  | fileNotAMapping (path : String)
  /-- The rules are no mapping. -/
  | rulesNotAMapping (given : Value)
  /-- The parameters of a rule are no mapping. -/
  | paramsNotAMapping (rule given : Value)
  /-- The entry of a rule is neither a truth value nor a mapping. -/
  | badRule (rule given : Value)
  /-- The parameters given to the naming rule are no mapping. -/
  | optionsNotAMapping (given : Value)
  /-- The names to ignore are no list of texts. -/
  | ignoreNotTexts (given : Value)
  /-- The quoting option is no truth value. -/
  | quoteNotBool (given : Value)
  /-- An entry of the names to ignore is no pattern. -/
  | badPattern (entry : String) (complaint : Pattern.Complaint) (position : Option Nat)

def ConfigFault.message : ConfigFault → String
  | .notAMapping kind => "Config must be a mapping, got " ++ kind
  | .malformedFile path => "Failed to parse " ++ path
  | .fileNotAMapping path => "Config file " ++ path ++ " must contain a mapping"
  | .rulesNotAMapping given => "'rules' must be a mapping, got " ++ given.written
  | .paramsNotAMapping rule given =>
    "Params of rule '" ++ rule.shown ++ "' must be a mapping, got " ++ given.written
  | .badRule rule given => "Invalid config for rule '" ++ rule.shown ++ "': " ++ given.written
  | .optionsNotAMapping given => "camelcase params must be a mapping, got " ++ given.written
  | .ignoreNotTexts given =>
    "camelcase 'ignore' must be a list of strings, got " ++ given.written
  | .quoteNotBool given => "camelcase 'quote' must be a boolean, got " ++ given.written
  | .badPattern entry complaint position =>
    "Invalid ignore pattern " ++ Text.quoted entry ++ ": " ++
      Pattern.rejection complaint position

def ConfigFault.obstacle? [Stack] : ConfigFault → Option Obstacle
  | .rulesNotAMapping given => given.obstacle? (Stack.room .configuration)
  | .paramsNotAMapping rule given => inEntry? rule given
  | .badRule rule given => inEntry? rule given
  | .optionsNotAMapping given => given.obstacle? (Stack.room .options)
  | .ignoreNotTexts given => given.obstacle? (Stack.room .options)
  | .quoteNotBool given => given.obstacle? (Stack.room .options)
  | _ => none
where
  inEntry? (rule given : Value) : Option Obstacle :=
    (rule.shownObstacle? (Stack.room .configuration)).or
      (given.obstacle? (Stack.room .configuration))

end NameLint
