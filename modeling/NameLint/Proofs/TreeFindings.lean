import NameLint.Proofs.LintResult
import NameLint.Proofs.SharedNodes

/-!
# The findings of a tree

Nodes are told apart by their numbers, so in a tree the nodes with one number are
one node. A tree that has been converted is of this kind by itself: a number
belongs to one closing, and a closing makes one node. What is found about a node
and a sub type is then the same on every visit that finds something, and the
result of a run is the findings that it keeps, by place.
-/

namespace NameLint

/-- Whether the nodes that are visited under one number are one node. -/
def Node.NumbersTell (root : Node) : Prop :=
  ∀ v ∈ root.preorder, ∀ w ∈ root.preorder, v.node.id = w.node.id → v.node = w.node

/-- Whether the numbers of nodes, or the labels of lists and objects, say which of them are the
same. -/
def TreeInput.NumbersTell : TreeInput → Prop
  | .node root => root.NumbersTell
  | .source s => s.Coherent

/-- A tree that is given to a run, in which one can tell which nodes are the same. -/
structure NumberedInput where
  tree : TreeInput
  numbers : tree.NumbersTell

/-- A closing makes one item. -/
theorem Assembly.Makes.unique {a : Assembly} {order : List Source} {i j : Item}
    (first : a.Makes i order) (second : a.Makes j order) : i = j := by
  cases order with
  | nil => cases first
  | cons s later =>
    obtain ⟨b, closed, assembled⟩ := first
    obtain ⟨b', closed', assembled'⟩ := second
    obtain rfl : b = b' := Except.ok.inj (closed.symm.trans closed')
    exact Except.ok.inj (assembled.symm.trans assembled')

/-- A node stands for the closing that made it. -/
theorem makes_of_at {nextId : Nat} {root n : Node} {p : List Nat}
    (s : LabelledSource) (container : s.tree.isScalar = false)
    (makes : Assembly.Makes ⟨∅, nextId⟩ (.ofNode root) s.tree.entered) (h : root.at? p = some n) :
    ∃ c after, Source.Retained s.tree.entered (c :: after) ∧
      Assembly.Makes ⟨∅, nextId⟩ (.ofNode n) (c :: after) := by
  obtain ⟨i, hi, node⟩ := Option.bind_eq_some_iff.mp h
  rcases makes_part s container Source.Retained.root makes p with
    ⟨_, none⟩ | ⟨c, i', _, hi', ⟨v, rfl, rfl⟩ | ⟨after, retained, made⟩⟩
  · rw [hi] at none
    cases none
  · obtain rfl := Option.some.inj (hi.symm.trans hi')
    cases node
  · obtain rfl := Option.some.inj (hi.symm.trans hi')
    rw [Item.ofNode_of_node? node] at made
    exact ⟨c, after, retained, made⟩

theorem isNode_of_root [Stack] {s : Source} {root : Node}
    (converted : (TreeInput.source s).root = .ok root) : s.isNode = true := by
  cases typed : s.isNode with
  | true => rfl
  | false =>
    obtain ⟨_, made, _⟩ := Fault.bind_eq_ok.mp converted
    rw [Node.ofSource_of_isNode_eq_false typed] at made
    cases made

/-- The root of a converted tree is made by the last closing. -/
theorem makes_of_root [Stack] {s : Source} {root : Node}
    (converted : (TreeInput.source s).root = .ok root) :
    Assembly.Makes ⟨∅, 0⟩ (.ofNode root) s.entered := by
  have typed := isNode_of_root converted
  obtain ⟨⟨own, next⟩, made, same⟩ := Fault.bind_eq_ok.mp converted
  obtain rfl : own = root := Except.ok.inj same
  exact makes_root typed made

/-- In a tree that is ready for checking, numbers tell nodes apart. -/
theorem NumberedInput.root_numbersTell [Stack] (input : NumberedInput) {root : Node}
    (converted : input.tree.root = .ok root) : root.NumbersTell := by
  obtain ⟨tree, numbers⟩ := input
  cases tree with
  | node own =>
    cases converted
    exact numbers
  | source s =>
    have container := Source.isScalar_of_isNode (isNode_of_root converted)
    have makes := makes_of_root converted
    intro v hv w hw same
    obtain ⟨p, hp⟩ := Node.exists_at_of_mem_preorder hv
    obtain ⟨q, hq⟩ := Node.exists_at_of_mem_preorder hw
    obtain ⟨c, after, retained, made⟩ := makes_of_at ⟨s, numbers⟩ container makes hp
    obtain ⟨d, after', retained', made'⟩ := makes_of_at ⟨s, numbers⟩ container makes hq
    have first := (makes_id container retained made).2 v.node rfl
    have second := (makes_id container retained' made').2 w.node rfl
    rw [eq_of_same_length retained retained' (by omega)] at made
    exact Option.some.inj (congrArg Item.node? (made.unique made'))

namespace Camelcase

theorem hasPlace_of_findingOn [Stack] {options : CamelcaseOptions} {v : Visit} {f : Finding}
    (hf : findingOn options v = some f) (placed : v.node.HasPlace) : f.node.HasPlace := by
  rw [(findingOn_tells hf).1]
  exact placed

/-- What is found about a node and a sub type does not depend on the visit. -/
theorem finding_eq_of_key [Stack] {options : CamelcaseOptions} {root : Node}
    (numbers : root.NumbersTell) {v w : Visit} (hv : v ∈ root.preorder) (hw : w ∈ root.preorder)
    {f g : Finding}
    (hf : findingOn options v = some f) (hg : findingOn options w = some g)
    (same : f.key = g.key) : f = g := by
  have distinct : ¬ "Identifier" = "Property" := by decide
  obtain ⟨node, tells⟩ := findingOn_tells hf
  obtain ⟨node', tells'⟩ := findingOn_tells hg
  have one : v.node = w.node := by
    apply numbers v hv w hw
    rw [← node, ← node']
    exact congrArg Prod.fst same
  rw [← one] at node' tells'
  obtain ⟨n, t, name⟩ := f
  obtain ⟨n', t', name'⟩ := g
  obtain rfl : n = v.node := node
  obtain rfl : n' = v.node := node'
  rcases tells with ⟨type, rfl, rfl⟩ | ⟨type, rfl, named⟩
  · rcases tells' with ⟨_, rfl, rfl⟩ | ⟨type', _, _⟩
    · rfl
    · exact absurd (type.symm.trans type') distinct
  · rcases tells' with ⟨type', _, _⟩ | ⟨_, rfl, named'⟩
    · exact absurd (type'.symm.trans type) distinct
    · obtain ⟨key, hkey, named⟩ := named
      obtain ⟨key', hkey', named'⟩ := named'
      obtain rfl := Option.some.inj (hkey.symm.trans hkey')
      obtain rfl := Option.some.inj (Except.ok.inj (named.symm.trans named'))
      rfl

end Camelcase

/-- Under settings that disable the naming rule, a run finds nothing. -/
theorem lint_of_disabled [Stack] {tree : TreeInput} {root : Node} {settings : RuleSettings}
    (file : String)
    (converted : tree.root = .ok root) (disabled : settings.enabled.truthy = false) :
    (lint tree (some settings) file).2 = .ok [] := by
  rw [lint, Engine.loadRules, if_neg (by rw [disabled]; decide)]
  show (Engine.checkTree {} tree file).2 = .ok []
  have none : (Engine.mk []).ReportsPlaced root := by
    intro r hr
    cases hr
  rw [Engine.checkTree_of_root converted, Engine.checkNode_of_placed none,
    Engine.collected_eq_numbered]
  exact congrArg Except.ok List.mergeSort_nil

end NameLint
