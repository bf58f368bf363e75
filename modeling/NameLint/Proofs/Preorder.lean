import NameLint.Tree.Walk

/-!
# Pre-order

The recursion over a tree that a walk follows: a node comes before its children,
and each child, with everything below it, before the next one. The stack of a walk
holds the subtrees that this recursion still has to go through. The ancestors of a
visit are the path of children that has led to it.
-/

namespace NameLint

namespace Visit

theorem size_le_weight {c : Visit} {stack : List Visit} (h : c ∈ stack) :
    c.node.size ≤ weight stack := by
  induction stack with
  | nil => cases h
  | cons v rest ih =>
    rw [weight]
    rcases List.mem_cons.mp h with rfl | later
    · omega
    · have bound := ih later
      omega

/-- The visits to a node and then to what is below it, child after child. -/
def preorder (v : Visit) : List Visit :=
  v :: v.children.attach.flatMap fun c => preorder c.1
termination_by v.node.size
decreasing_by
  have fewer := weight_children_lt v
  have part := size_le_weight c.2
  omega

theorem preorder_eq (v : Visit) : v.preorder = v :: v.children.flatMap preorder := by
  rw [preorder, List.flatMap_subtype (g := preorder) fun _ _ => rfl, List.unattach_attach]

/-- A walk goes through the subtrees on its stack one after the other. -/
theorem walk_eq_flatMap (stack : List Visit) : walk stack = stack.flatMap preorder := by
  induction stack using walk.induct with
  | case1 => simp [walk]
  | case2 v stack ih =>
    rw [walk, ih, List.flatMap_append, List.flatMap_cons, preorder_eq, List.cons_append]

end Visit

def Node.preorder (root : Node) : List Visit :=
  Visit.preorder ⟨root, []⟩

theorem Node.walk_eq_preorder (root : Node) : root.walk = root.preorder := by
  rw [Node.walk, Visit.walk_eq_flatMap, List.flatMap_cons, List.flatMap_nil, List.append_nil,
    Node.preorder]

/-- The nodes above a node on a path of children from the root, the nearest first. -/
inductive Node.LeadsTo (root : Node) : Node → List Node → Prop
  | start : root.LeadsTo root []
  | child {n c : Node} {above : List Node} : root.LeadsTo n above → c ∈ n.children →
      root.LeadsTo c (n :: above)

/-- What is visited below a visit is reached by going on along its path. -/
theorem Visit.leadsTo_of_mem_preorder {root : Node} {v w : Visit}
    (path : root.LeadsTo v.node v.ancestors) (h : w ∈ v.preorder) :
    root.LeadsTo w.node w.ancestors := by
  induction v using Visit.preorder.induct with
  | case1 v ih =>
    rw [preorder_eq] at h
    rcases List.mem_cons.mp h with rfl | below
    · exact path
    · obtain ⟨c, hc, hw⟩ := List.mem_flatMap.mp below
      obtain ⟨n, hn, rfl⟩ := List.mem_map.mp hc
      exact ih ⟨⟨n, v.node :: v.ancestors⟩, hc⟩ (.child path hn) hw

/-- The ancestors of a visit spell a path of children from the root. -/
theorem Node.leadsTo_of_mem_walk {root : Node} {v : Visit} (h : v ∈ root.walk) :
    root.LeadsTo v.node v.ancestors := by
  rw [Node.walk_eq_preorder] at h
  exact Visit.leadsTo_of_mem_preorder .start h

end NameLint
