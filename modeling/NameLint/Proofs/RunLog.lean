import NameLint.Proofs.RuleIsolation

/-!
# The log of a run

A run over several trees is logged from its first to its last record. Each tree has a
block of records: its start, a warning for every call in which a rule gave up, and its
end with what was counted. A tree whose violations cannot be sorted ends its block with
an error, and no tree after it is looked at. The blocks and the result of a run are those
of its trees alone.
-/

namespace NameLint

namespace Runner

end Runner

namespace Rule

end Rule

/-- The visits of a tree; a tree that cannot be turned into nodes has none. -/
def TreeInput.visits [Stack] (tree : TreeInput) : List Visit :=
  match tree.root with
  | .ok root => root.walk
  | .error _ => []

/-- The wording of a fault; one that has none is worded from outside. -/
def Fault.wording (unworded : Fault → String) (fault : Fault) : String :=
  fault.message?.getD (unworded fault)

namespace Engine

def activeRules (e : Engine) : List Rule :=
  e.rules.filter Rule.isEnabled

def found [Stack] (e : Engine) (tree : TreeInput) (file : String) : List Violation :=
  e.activeRules.flatMap fun r => r.found file tree.visits

section Log

variable (elapsed : String) (unworded : Fault → String)

end Log

end Engine

end NameLint
