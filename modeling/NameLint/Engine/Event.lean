import NameLint.Fault
import NameLint.Log.Timing

/-!
# What happens in a run

The events of loading rules and checking trees, in the order in which they happen,
and how each is put into the log. Durations, and the texts of faults that have no
wording, come from outside.
-/

namespace NameLint

inductive Event where
  | loading
  | loaded (rule severity : String)
  | skipped (rule : String)
  | loadedAll (count : Nat)
  | added (rule : String)
  | started (file : String)
  | ruleFailed (rule file nodeType : String) (fault : Fault)
  | completed (file : String) (nodes violations : Nat)
  | failed (file : String) (fault : Fault)
  | checking (trees rules : Nat)
  | total (violations : Nat)

namespace Event

def level : Event → Log.Level
  | .loadedAll _ => .info
  | .checking _ _ => .info
  | .total _ => .info
  | .ruleFailed _ _ _ _ => .warning
  | .failed _ _ => .error
  | _ => .debug

def block (file : String) : String :=
  "check_tree:" ++ file

def message (elapsed : String) (unworded : Fault → String) : Event → String
  | .loading => "Loading builtin rules..."
  | .loaded rule severity => "Loaded rule: " ++ rule ++ " (severity=" ++ severity ++ ")"
  | .skipped rule => "Skipped disabled rule: " ++ rule
  | .loadedAll count => "Loaded " ++ toString count ++ " builtin rules"
  | .added rule => "Added rule: " ++ rule
  | .started file => Log.Timing.started (block file)
  | .ruleFailed rule file nodeType fault =>
    "Rule " ++ rule ++ " failed on " ++ file ++ " (" ++ nodeType ++ "): " ++
      fault.message?.getD (unworded fault)
  | .completed file nodes violations =>
    Log.Timing.completed (block file) elapsed
      [(.text "nodes", .int nodes), (.text "violations", .int violations)]
  | .failed file fault =>
    Log.Timing.failed (block file) elapsed (fault.message?.getD (unworded fault))
  | .checking trees rules =>
    "Checking " ++ toString trees ++ " trees with " ++ toString rules ++ " rules"
  | .total violations => "Total violations found: " ++ toString violations

def record (elapsed : String) (unworded : Fault → String) (e : Event) : Log.Record :=
  ⟨e.level, "camellint", e.message elapsed unworded⟩

end Event

end NameLint
