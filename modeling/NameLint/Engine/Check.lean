import NameLint.Engine.Event
import NameLint.Rule.Camelcase
import NameLint.RunSort
import NameLint.Tree.Assembly

/-!
# Checking trees

An engine holds rules. It walks a tree once and lets every enabled rule look at
every node; each rule has a report context of its own, so no rule touches what
another has found. The violations of all rules are put in the order of their
places, those at one place in the order of the rules and of their reports.
-/

namespace NameLint

structure Runner where
  rule : Rule
  context : Context

namespace Runner

/-- The runner after a visit, and the event that the visit gave rise to, if the rule failed. -/
def visit [Stack] (file : String) (v : Visit) (r : Runner) : Runner × Option Event :=
  match r.context.take (r.rule.outcome v) with
  | (after, none) => (⟨r.rule, after⟩, none)
  | (after, some fault) =>
    (⟨r.rule, after⟩, some (.ruleFailed r.rule.identifier file v.node.type fault))

def visitAll [Stack] (file : String) (v : Visit) (runners : List Runner) :
    List Runner × List Event :=
  let results := runners.map (visit file v)
  (results.map Prod.fst, results.filterMap Prod.snd)

def run [Stack] (file : String) (runners : List Runner) : List Visit → List Runner × List Event
  | [] => (runners, [])
  | v :: rest =>
    let (next, events) := visitAll file v runners
    let (final, later) := run file next rest
    (final, events ++ later)

end Runner

namespace Violation

/-- Whether the place of the first violation is before that of the second. Places of kinds that
cannot be compared are of the wrong kind. -/
def placeBefore (a b : Violation) : Except Fault Bool :=
  (Value.lessItems? [a.line, a.column] [b.line, b.column]).elim (throw .wrongKind) pure

/-- The violations by their places; those at one place stay in their order. -/
def sortByPlace (vs : List Violation) : Except Fault (List Violation) :=
  RunSort.sort placeBefore vs

end Violation

/-- A tree to be checked: a node, or a tree that is still to be turned into one. -/
inductive TreeInput where
  | node (root : Node)
  | source (tree : Source)

def TreeInput.root [Stack] : TreeInput → Except Fault Node
  | .node root => return root
  | .source tree => do
    let (root, _) ← Node.ofSource tree 0
    return root

structure Engine where
  rules : List Rule := []

def Engine.unnamedFile : String := "<input>"

namespace Engine

def runners (e : Engine) (file : String) : List Runner :=
  (e.rules.filter Rule.isEnabled).map fun r => ⟨r, r.context file⟩

/-- The violations of a tree in order, and the events of checking it. -/
def checkNode [Stack] (e : Engine) (root : Node) (file : String) :
    List Event × Except Fault (List Violation) :=
  let visits := root.walk
  let (final, failures) := Runner.run file (e.runners file) visits
  let found := final.flatMap fun r => r.context.violations
  match Violation.sortByPlace found with
  | .ok sorted =>
    (.started file :: failures ++ [.completed file visits.length sorted.length], return sorted)
  | .error fault => (.started file :: failures ++ [.failed file fault], throw fault)

/-- The violations of a tree that may have to be turned into nodes first. -/
def checkTree [Stack] (e : Engine) (tree : TreeInput) (file : String) :
    List Event × Except Fault (List Violation) :=
  match tree.root with
  | .ok root => e.checkNode root file
  | .error fault => ([], throw fault)

/-- The violations of several trees, one after the other, up to the first that cannot be checked. -/
def checkEach [Stack] (e : Engine) : List (String × TreeInput) →
    List Event × Except Fault (List Violation)
  | [] => ([], return [])
  | (file, tree) :: rest =>
    match e.checkTree tree file with
    | (events, .error fault) => (events, throw fault)
    | (events, .ok first) =>
      match e.checkEach rest with
      | (later, .error fault) => (events ++ later, throw fault)
      | (later, .ok others) => (events ++ later, return first ++ others)

/-- The violations of several trees, with their number in the events. -/
def checkTrees [Stack] (e : Engine) (trees : List (String × TreeInput)) :
    List Event × Except Fault (List Violation) :=
  let start := Event.checking trees.length e.rules.length
  match e.checkEach trees with
  | (events, .ok all) => (start :: events ++ [.total all.length], return all)
  | (events, .error fault) => (start :: events, throw fault)

def add (e : Engine) (r : Rule) : Engine × List Event :=
  (⟨e.rules ++ [r]⟩, [.added r.identifier])

/-- The engine with the naming rule under its settings, unless they disable it. The severity is
logged once the rule is there, so a severity without a text leaves the rule behind. Where nothing
stands in place of settings there is nothing to ask. -/
def loadRules [Stack] (e : Engine) : Option RuleSettings → List Event × Engine × Except Fault Unit
  | none => ([.loading], e, throw .noMember)
  | some settings =>
    if settings.enabled.truthy then
      match Camelcase.rule settings with
      | .error fault => ([.loading], e, throw fault)
      | .ok r =>
        let loaded : Engine := ⟨e.rules ++ [r]⟩
        match settings.severity.textFor .loadedSeverity with
        | .error fault => ([.loading], loaded, throw fault)
        | .ok severity =>
          ([.loading, .loaded Camelcase.identifier severity, .loadedAll 1], loaded, return ())
    else ([.loading, .skipped Camelcase.identifier, .loadedAll 0], e, return ())

end Engine

/-- The violations of a tree under the settings of the naming rule, and the events of the run. -/
def lint [Stack] (tree : TreeInput) (settings : Option RuleSettings) (file : String) :
    List Event × Except Fault (List Violation) :=
  match ({} : Engine).loadRules settings with
  | (events, _, .error fault) => (events, throw fault)
  | (events, engine, .ok ()) =>
    let (later, result) := engine.checkTree tree file
    (events ++ later, result)

def lintWith [Stack] (tree : TreeInput) (config : LintConfig) (file : String) :
    List Event × Except Fault (List Violation) :=
  lint tree (some ((config.find? Camelcase.identifier).getD {})) file

end NameLint
