import NameLint.Tree.Node

/-!
# Walking a tree

The nodes of a tree in depth first order, each before its children, with its
ancestors from the parent up to the root. The walk keeps the visits to come on a
stack; a node is visited once for each path that leads to it.
-/

namespace NameLint

/-- A node on a path, with the nodes above it, the nearest first. -/
structure Visit where
  node : Node
  ancestors : List Node

namespace Visit

/-- The number of visits that a stack leads to. -/
def weight : List Visit → Nat
  | [] => 0
  | v :: stack => v.node.size + weight stack

theorem weight_append (front back : List Visit) :
    weight (front ++ back) = weight front + weight back := by
  induction front with
  | nil => simp [weight]
  | cons v rest ih => simp only [List.cons_append, weight, ih]; omega

/-- The visits to some nodes below the same ancestors. -/
def visitsTo (ancestors nodes : List Node) : List Visit :=
  nodes.map fun n => ⟨n, ancestors⟩

theorem visitsTo_append (ancestors front back : List Node) :
    visitsTo ancestors (front ++ back) = visitsTo ancestors front ++ visitsTo ancestors back := by
  simp [visitsTo]

theorem weight_visitsTo_cons (ancestors : List Node) (n : Node) (rest : List Node) :
    weight (visitsTo ancestors (n :: rest)) = n.size + weight (visitsTo ancestors rest) := rfl

theorem weight_visitsTo_filterMap_le (ancestors : List Node) (items : List Item) :
    weight (visitsTo ancestors (items.filterMap Item.node?)) ≤ Item.sizeOfAll items := by
  induction items with
  | nil => simp [visitsTo, weight]
  | cons i rest ih =>
    cases i with
    | node id type fields loc comments =>
      simp only [List.filterMap_cons, Item.node?, weight_visitsTo_cons, Item.sizeOfAll, Item.size,
        Node.size]
      omega
    | plain v => simp only [List.filterMap_cons, Item.node?, Item.sizeOfAll]; omega
    | tuple inner => simp only [List.filterMap_cons, Item.node?, Item.sizeOfAll]; omega
    | record entries => simp only [List.filterMap_cons, Item.node?, Item.sizeOfAll]; omega

theorem weight_visitsTo_childrenIn_le (ancestors : List Node) (i : Item) :
    weight (visitsTo ancestors (Node.childrenIn i)) ≤ i.size := by
  cases i with
  | plain v => simp [Node.childrenIn, visitsTo, weight]
  | tuple items =>
    simpa [Node.childrenIn, Item.size] using weight_visitsTo_filterMap_le ancestors items
  | record entries => simp [Node.childrenIn, visitsTo, weight]
  | node id type fields loc comments =>
    simp [Node.childrenIn, visitsTo, weight, Item.size, Node.size]

theorem weight_visitsTo_fields_le (ancestors : List Node) (fields : List (String × Item)) :
    weight (visitsTo ancestors (fields.flatMap fun field => Node.childrenIn field.2))
      ≤ Item.sizeOfFields fields := by
  induction fields with
  | nil => simp [visitsTo, weight]
  | cons field rest ih =>
    obtain ⟨key, item⟩ := field
    have head := weight_visitsTo_childrenIn_le ancestors item
    simp only [List.flatMap_cons, visitsTo_append, weight_append, Item.sizeOfFields]
    omega

def children (v : Visit) : List Visit :=
  visitsTo (v.node :: v.ancestors) v.node.children

/-- The children lead to fewer visits than the node itself. -/
theorem weight_children_lt (v : Visit) : weight v.children < v.node.size := by
  have bound := weight_visitsTo_fields_le (v.node :: v.ancestors) v.node.fields
  simp only [children, Node.children, Node.size]
  omega

/-- The visits that a stack leads to, the top of the stack first. -/
def walk : List Visit → List Visit
  | [] => []
  | v :: stack => v :: walk (v.children ++ stack)
termination_by stack => weight stack
decreasing_by
  have fewer := weight_children_lt v
  rw [weight_append]
  simp only [weight]
  omega

end Visit

def Node.walk (root : Node) : List Visit :=
  Visit.walk [⟨root, []⟩]

end NameLint
