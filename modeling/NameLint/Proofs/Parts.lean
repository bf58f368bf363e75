import NameLint.Proofs.Preorder
import NameLint.Tree.Source

/-!
# Parts of trees

A position in a tree is a path of numbers: at each step, which of the things that
stand directly in a sequence, a record or a node is meant. The same path leads
through a tree as it arrives and through what it becomes. Every node that a walk
visits stands at some path from the root.
-/

namespace NameLint

namespace Item

/-- What stands directly in an item. -/
def content : Item → List Item
  | .plain _ => []
  | .tuple items => items
  | .record entries => entries.map Prod.snd
  | .node _ _ fields _ _ => fields.map Prod.snd

/-- The part of an item at a path. -/
def part? (i : Item) : List Nat → Option Item
  | [] => some i
  | k :: path => i.content[k]?.bind fun c => c.part? path

theorem part?_append (i : Item) (p q : List Nat) :
    i.part? (p ++ q) = (i.part? p).bind fun c => c.part? q := by
  induction p generalizing i with
  | nil => rfl
  | cons k p ih =>
    rw [List.cons_append, part?, part?, Option.bind_assoc]
    congr 1
    funext c
    exact ih c

end Item

namespace Source

def part? (s : Source) : List Nat → Option Source
  | [] => some s
  | k :: path => s.content[k]?.bind fun c => c.part? path

theorem part?_append (s : Source) (p q : List Nat) :
    s.part? (p ++ q) = (s.part? p).bind fun c => c.part? q := by
  induction p generalizing s with
  | nil => rfl
  | cons k p ih =>
    rw [List.cons_append, part?, part?, Option.bind_assoc]
    congr 1
    funext c
    exact ih c

def labelAt? (s : Source) (path : List Nat) : Option Nat :=
  (s.part? path).bind label?

end Source

/-- A child stands in a field, or in a sequence there. -/
theorem Node.exists_part_of_mem_children {n c : Node} (h : c ∈ n.children) :
    ∃ p, (Item.ofNode n).part? p = some (.ofNode c) := by
  obtain ⟨field, hfield, hc⟩ := List.mem_flatMap.mp h
  obtain ⟨k, bound, hk⟩ := List.getElem_of_mem (List.mem_map_of_mem (f := Prod.snd) hfield)
  have step : (Item.ofNode n).content[k]? = some field.2 :=
    List.getElem?_eq_some_iff.mpr ⟨bound, hk⟩
  cases item : field.2 with
  | plain v => rw [item] at hc; cases hc
  | record entries => rw [item] at hc; cases hc
  | node id type fields loc comments =>
    rw [item] at hc step
    obtain rfl := List.mem_singleton.mp hc
    refine ⟨[k], ?_⟩
    rw [Item.part?, step]
    rfl
  | tuple items =>
    rw [item] at hc step
    obtain ⟨i, hi, child⟩ := List.mem_filterMap.mp hc
    obtain ⟨j, bound, hj⟩ := List.getElem_of_mem hi
    have step' : (Item.tuple items).content[j]? = some i :=
      List.getElem?_eq_some_iff.mpr ⟨bound, hj⟩
    refine ⟨[k, j], ?_⟩
    rw [Item.part?, step, Option.bind_some, Item.part?, step', Option.bind_some,
      Item.ofNode_of_node? child]
    rfl

theorem Visit.exists_part_of_mem_preorder {v w : Visit} (h : w ∈ v.preorder) :
    ∃ p, (Item.ofNode v.node).part? p = some (.ofNode w.node) := by
  induction v using Visit.preorder.induct with
  | case1 v ih =>
    rw [preorder_eq] at h
    rcases List.mem_cons.mp h with rfl | below
    · exact ⟨[], rfl⟩
    · obtain ⟨c, hc, hw⟩ := List.mem_flatMap.mp below
      obtain ⟨n, hn, rfl⟩ := List.mem_map.mp hc
      obtain ⟨p, hp⟩ := Node.exists_part_of_mem_children hn
      obtain ⟨q, hq⟩ := ih ⟨⟨n, v.node :: v.ancestors⟩, hc⟩ hw
      refine ⟨p ++ q, ?_⟩
      rw [Item.part?_append, hp]
      exact hq

def Node.at? (root : Node) (path : List Nat) : Option Node :=
  ((Item.ofNode root).part? path).bind Item.node?

/-- Every node that is visited stands somewhere in the tree. -/
theorem Node.exists_at_of_mem_preorder {root : Node} {v : Visit} (h : v ∈ root.preorder) :
    ∃ p, root.at? p = some v.node := by
  obtain ⟨p, hp⟩ := Visit.exists_part_of_mem_preorder h
  refine ⟨p, ?_⟩
  rw [Node.at?, show (Item.ofNode root).part? p = _ from hp]
  rfl

end NameLint
