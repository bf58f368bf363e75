import Mathlib.Data.List.Basic
import NameLint.Proofs.Findings
import NameLint.Proofs.Preorder
import NameLint.Proofs.Templates

/-!
# The result of a run

The findings that a run keeps become violations at the places of their nodes. They
are put in the order of these places, those at one place in the order of the visits
that gave them.
-/

namespace NameLint

namespace Camelcase

def Finding.wording (f : Finding) : String :=
  String.ofList
    ((if f.subType = identifierType then "Identifier '" else "Property '").toList ++
      (f.name.shown.toList ++ "' is not in camel case.".toList))

/-- The violation that a finding at a node with a place becomes. -/
def Finding.violation (file : String) (severity : Severity) (f : Finding) : Violation :=
  { filePath := .text file
    line := .int f.node.place.1
    column := .int f.node.place.2
    severity := .known severity
    message := .text f.wording
    ruleId := .text identifier
    subType := .text f.subType.id
    nodeType := .text f.node.type
    data := .record [("name", f.name)] }

/-- Whether the message about a finding can be made: its name has a text. -/
def Finding.isTold [Stack] (f : Finding) : Bool :=
  (f.name.shownObstacle? (Stack.room .message)).isNone

theorem Finding.isTold_of_text [Stack] {f : Finding} {name : String}
    (text : f.name = .plain (.text name)) : f.isTold = true := by
  rw [isTold, text]
  rfl

theorem Finding.format_message [Stack] {f : Finding}
    (known : f.subType = identifierType ∨ f.subType = propertyType) :
    (Template.format f.subType.message (.record [("name", f.name)])).toOption =
      if f.isTold then some f.wording else none := by
  have back : '\x7b' ∉ "' is not in camel case.".toList := by decide +kernel
  unfold Finding.wording Finding.isTold
  rcases known with h | h
  · have front : '\x7b' ∉ "Identifier '".toList := by decide +kernel
    have spelled : identifierType.message = String.ofList ("Identifier '".toList ++
        (Template.namePlaceholder ++ "' is not in camel case.".toList)) := by decide +kernel
    rw [h, if_pos rfl, spelled, Template.format_name _ _ f.name front back, Item.textFor]
    cases f.name.shownObstacle? (Stack.room .message) <;> rfl
  · have front : '\x7b' ∉ "Property '".toList := by decide +kernel
    have other : ¬ propertyType = identifierType := by decide
    have spelled : propertyType.message = String.ofList ("Property '".toList ++
        (Template.namePlaceholder ++ "' is not in camel case.".toList)) := by decide +kernel
    rw [h, if_neg other, spelled, Template.format_name _ _ f.name front back, Item.textFor]
    cases f.name.shownObstacle? (Stack.room .message) <;> rfl

/-- A finding at a node with a place becomes a violation there, if its message can be made. -/
theorem Finding.violation?_of_hasPlace [Stack] {f : Finding} (file : String) (severity : Severity)
    (placed : f.node.HasPlace) (known : f.subType = identifierType ∨ f.subType = propertyType) :
    f.violation? file severity = if f.isTold then some (f.violation file severity) else none := by
  have message := f.format_message known
  unfold Finding.violation? Context.violation
  rw [placeOf_of_hasPlace placed]
  show Except.toOption (do
    let message ← Template.format f.subType.message (.record [("name", f.name)])
    _) = _
  cases formatted : Template.format f.subType.message (.record [("name", f.name)]) with
  | error fault =>
    rw [formatted] at message
    split at message
    · cases message
    · rename_i untold
      rw [if_neg untold]
      rfl
  | ok wording =>
    rw [formatted] at message
    split at message
    · rename_i told
      cases message
      rw [if_pos told]
      rfl
    · cases message

/-- The order in which findings stand in the result. -/
def Finding.inOrder (file : String) (severity : Severity) (f g : Finding) : Bool :=
  (f.violation file severity).inOrder (g.violation file severity)

theorem Finding.inOrder_trans (file : String) (severity : Severity) (f g h : Finding)
    (hfg : f.inOrder file severity g) (hgh : g.inOrder file severity h) :
    f.inOrder file severity h :=
  Violation.inOrder_trans _ _ _ hfg hgh

theorem Finding.inOrder_total (file : String) (severity : Severity) (f g : Finding) :
    f.inOrder file severity g || g.inOrder file severity f :=
  Violation.inOrder_total _ _

def sortedFindings [Stack] (file : String) (severity : Severity) (options : CamelcaseOptions)
    (root : Node) : List Finding :=
  (firstFindings options root.preorder).mergeSort (Finding.inOrder file severity)

end Camelcase

open Camelcase in
/-- Under settings that enable the naming rule, and unless the severity keeps it from being loaded,
a run gives the violations of the findings that it keeps and whose messages can be made. -/
theorem lint_of_placed [Stack] {tree : TreeInput} {root : Node} {options : CamelcaseOptions}
    (settings : RuleSettings) (file : String) (converted : tree.root = .ok root)
    (enabled : settings.enabled.truthy = true)
    (accepted : CamelcaseOptions.ofParams settings.params = .ok options)
    (placed : ∀ v ∈ root.preorder, ∀ f, findingOn options v = some f → f.node.HasPlace) :
    let severity := Rule.severityOf settings standardSeverity
    (lint tree (some settings) file).2 = (severityFault? settings).elim
      (.ok (((sortedFindings file severity options root).filter Finding.isTold).map
        (Finding.violation file severity))) .error := by
  intro severity
  have kept := firstFindings_keepsFirst options root.preorder
  have on : (ruleWith settings options).isEnabled = true := enabled
  have reports : (ruleWith settings options).ReportsPlaced root.walk := by
    intro v hv p hp
    rw [reports_ruleWith] at hp
    obtain ⟨f, hf, rfl⟩ := List.mem_map.mp hp
    rw [Node.walk_eq_preorder] at hv
    exact placed v hv f (Option.mem_toList.mp hf)
  have violations : (ruleWith settings options).found file root.walk =
      ((firstFindings options root.preorder).filter Finding.isTold).map
        (Finding.violation file severity) := by
    rw [found_ruleWith, Node.walk_eq_preorder, ← List.filterMap_eq_map, List.filterMap_filter]
    refine List.filterMap_congr fun f hf => ?_
    obtain ⟨v, at?, gave⟩ := kept.first f hf
    exact f.violation?_of_hasPlace file _ (placed v (List.mem_of_getElem? at?) f gave)
      (findingOn_subType gave)
  have sorted : (((firstFindings options root.preorder).filter Finding.isTold).map
        (Finding.violation file severity)).mergeSort Violation.inOrder =
      ((sortedFindings file severity options root).filter Finding.isTold).map
        (Finding.violation file severity) := by
    rw [sortedFindings, StableSort.filter_mergeSort (Finding.inOrder_trans file severity)
      (Finding.inOrder_total file severity)]
    have mapped := List.map_mergeSort (s := Violation.inOrder)
      (f := Finding.violation file severity)
      (r := Finding.inOrder file severity)
      (l := (firstFindings options root.preorder).filter Finding.isTold) fun _ _ _ _ => rfl
    exact mapped.symm
  rw [lint_of_enabled tree file enabled accepted, Engine.checkTree_of_root converted,
    Engine.checkNode_single fun _ => reports, if_pos on, violations, sorted]

def underscoredName : Node :=
  ⟨1, "Identifier", [("name", .plain (.text "foo_bar"))],
    some ⟨.int 1, .int 4, .int 1, .int 11⟩, []⟩

/-- The least number that has too many digits to be written. -/
def overlong : Int :=
  Int.ofNat (Binary64.tenTo Text.digitLimit)

theorem overlong_long : Binary64.tenTo Text.digitLimit ≤ overlong.natAbs := by
  rw [overlong, Int.ofNat_eq_natCast]
  exact Nat.le_of_eq (Int.natAbs_natCast _).symm

end NameLint
