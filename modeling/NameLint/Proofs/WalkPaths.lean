import Mathlib.Data.List.Infix
import Mathlib.Logic.Relation
import NameLint.Proofs.Preorder

/-!
# The paths of a walk

A path from a node says, step by step, which of the children is meant. The visits of
a walk stand for the paths from the root, one for each, in lexicographic order: a
path comes before those that go on from it, and an earlier child before a later one.
The ancestors of a visit are the nodes that its path leads through. What is visited is
what can be reached by going from a node to one that a field of it holds, directly or
in a sequence; a sequence in a sequence and a record are not entered.
-/

namespace NameLint

namespace Node

theorem size_lt_of_mem_children {n c : Node} (h : c ∈ n.children) : c.size < n.size := by
  have fewer := Visit.weight_children_lt ⟨n, []⟩
  have part := Visit.size_le_weight (List.mem_map_of_mem (f := fun c => Visit.mk c [n]) h)
  exact Nat.lt_of_le_of_lt part fewer

/-- The node at the end of a path: each step says which of the children is meant. -/
def descend? (n : Node) : List Nat → Option Node
  | [] => some n
  | k :: path => n.children[k]?.bind fun c => c.descend? path

def paths (n : Node) : List (List Nat) :=
  [] :: n.children.zipIdx.attach.flatMap fun c => (paths c.1.1).map (c.1.2 :: ·)
termination_by n.size
decreasing_by exact size_lt_of_mem_children (List.fst_mem_of_mem_zipIdx c.2)

theorem paths_eq (n : Node) :
    n.paths = [] :: n.children.zipIdx.flatMap fun c => c.1.paths.map (c.2 :: ·) := by
  rw [paths, List.flatMap_subtype (g := fun c : Node × Nat => c.1.paths.map (c.2 :: ·))
    fun _ _ => rfl, List.unattach_attach]

theorem mem_paths_iff {n : Node} {p : List Nat} : p ∈ n.paths ↔ (n.descend? p).isSome = true := by
  induction p generalizing n with
  | nil =>
    rw [paths_eq]
    exact iff_of_true List.mem_cons_self rfl
  | cons k p ih =>
    rw [paths_eq, descend?, List.mem_cons, List.mem_flatMap]
    constructor
    · rintro (none | ⟨⟨c, j⟩, hc, hp⟩)
      · cases none
      · obtain ⟨q, hq, same⟩ := List.mem_map.mp hp
        obtain ⟨rfl, rfl⟩ := List.cons.inj same
        rw [List.mem_zipIdx_iff_getElem?.mp hc]
        exact ih.mp hq
    · intro arrives
      right
      cases hc : n.children[k]? with
      | none =>
        rw [hc] at arrives
        cases arrives
      | some c =>
        rw [hc] at arrives
        refine ⟨(c, k), List.mem_zipIdx_iff_getElem?.mpr hc, ?_⟩
        exact List.mem_map_of_mem (ih.mpr arrives)

/-- Paths stand in lexicographic order, so none of them stands twice. -/
theorem paths_pairwise_lt (n : Node) : n.paths.Pairwise (· < ·) := by
  induction n using paths.induct with
  | case1 n ih =>
    rw [paths_eq, List.pairwise_cons, List.pairwise_flatMap]
    refine ⟨?_, ?_, ?_⟩
    · intro p hp
      obtain ⟨c, _, hp⟩ := List.mem_flatMap.mp hp
      obtain ⟨q, _, rfl⟩ := List.mem_map.mp hp
      exact List.nil_lt_cons _ _
    · intro c hc
      rw [List.pairwise_map]
      refine (ih ⟨c, hc⟩).imp ?_
      intro p q before
      exact List.cons_lt_cons_iff.mpr (Or.inr ⟨rfl, before⟩)
    · -- The steps to the children are numbered upwards.
      have upwards : n.children.zipIdx.Pairwise fun c d => c.2 < d.2 := by
        rw [← List.pairwise_map (f := Prod.snd) (R := (· < ·)), List.zipIdx_map_snd]
        exact List.pairwise_lt_range'
      refine upwards.imp ?_
      intro c d before p hp q hq
      obtain ⟨p', _, rfl⟩ := List.mem_map.mp hp
      obtain ⟨q', _, rfl⟩ := List.mem_map.mp hq
      exact List.cons_lt_cons_iff.mpr (Or.inl before)

end Node

namespace Visit

/-- The visit at the end of a path. -/
def follow (v : Visit) : List Nat → Option Visit
  | [] => some v
  | k :: path => v.children[k]?.bind fun c => c.follow path

theorem follow_cons (v : Visit) (k : Nat) (p : List Nat) :
    v.follow (k :: p) =
      v.node.children[k]?.bind fun c => follow ⟨c, v.node :: v.ancestors⟩ p := by
  rw [follow, children, visitsTo, List.getElem?_map, Option.bind_map]
  rfl

/-- The visits in pre-order are those at the ends of the paths. -/
theorem map_preorder (v : Visit) : v.preorder.map some = v.node.paths.map v.follow := by
  induction v using preorder.induct with
  | case1 v ih =>
    rw [preorder_eq, Node.paths_eq, List.map_cons, List.map_cons, List.map_flatMap,
      List.map_flatMap, follow]
    congr 1
    have below : ∀ c ∈ v.node.children.zipIdx,
        ((c.1.paths.map (c.2 :: ·)).map v.follow) =
          (preorder ⟨c.1, v.node :: v.ancestors⟩).map some := by
      intro c hc
      have child : (⟨c.1, v.node :: v.ancestors⟩ : Visit) ∈ v.children :=
        List.mem_map_of_mem (List.fst_mem_of_mem_zipIdx hc)
      rw [List.map_map, ih ⟨_, child⟩]
      refine List.map_congr_left ?_
      intro p _
      rw [Function.comp_apply, follow_cons, List.mem_zipIdx_iff_getElem?.mp hc]
      rfl
    rw [List.flatMap_congr below, children, visitsTo, List.flatMap_map]
    conv_lhs => rw [← List.zipIdx_map_fst 0 v.node.children, List.flatMap_map]

/-- A path leads to the node of its visit, and the ancestors of the visit are the nodes at the ends
of the shorter paths that it begins with. -/
theorem follow_spells {v w : Visit} {p : List Nat} (h : v.follow p = some w) :
    v.node.descend? p = some w.node ∧
      w.ancestors.reverse.map some =
        v.ancestors.reverse.map some ++ p.inits.dropLast.map v.node.descend? := by
  induction p generalizing v with
  | nil =>
    cases h
    exact ⟨rfl, by simp⟩
  | cons k p ih =>
    rw [follow_cons] at h
    obtain ⟨c, hc, h⟩ := Option.bind_eq_some_iff.mp h
    obtain ⟨node, ancestors⟩ := ih h
    refine ⟨?_, ?_⟩
    · rw [Node.descend?, hc]
      exact node
    · have further : ∀ q, v.node.descend? (k :: q) = c.descend? q := by
        intro q
        rw [Node.descend?, hc]
        rfl
      have proper : ((k :: p).inits.dropLast).map v.node.descend? =
          some v.node :: p.inits.dropLast.map c.descend? := by
        have more : p.inits.map (k :: ·) ≠ [] := by
          cases p <;> simp
        rw [List.inits_cons, List.dropLast_cons_of_ne_nil more, List.map_cons, ← List.map_dropLast,
          List.map_map]
        congr 1
        exact List.map_congr_left fun q _ => further q
      rw [ancestors, proper]
      simp

/-- What is below something visited is visited. -/
theorem children_subset_preorder {v w : Visit} (h : w ∈ v.preorder) : w.children ⊆ v.preorder := by
  induction v using preorder.induct with
  | case1 v ih =>
    rw [preorder_eq] at h ⊢
    intro c hc
    refine List.mem_cons_of_mem v (List.mem_flatMap.mpr ?_)
    rcases List.mem_cons.mp h with rfl | below
    · refine ⟨c, hc, ?_⟩
      rw [preorder_eq]
      exact List.mem_cons_self
    · obtain ⟨d, hd, hw⟩ := List.mem_flatMap.mp below
      exact ⟨d, hd, ih ⟨d, hd⟩ hw hc⟩

end Visit

namespace Node

/-- A path of children leads to a visit. -/
theorem mem_walk_of_leadsTo {root n : Node} {above : List Node} (leads : root.LeadsTo n above) :
    ⟨n, above⟩ ∈ root.walk := by
  rw [walk_eq_preorder]
  induction leads with
  | start =>
    rw [preorder, Visit.preorder_eq]
    exact List.mem_cons_self
  | child _ member ih => exact Visit.children_subset_preorder ih (List.mem_map_of_mem member)

/-- Whether a field of the first node holds the second one, directly or in a sequence. -/
inductive Holds (n c : Node) : Prop
  | directly {key : String} : (key, Item.ofNode c) ∈ n.fields → n.Holds c
  | listed {key : String} {items : List Item} :
    (key, Item.tuple items) ∈ n.fields → Item.ofNode c ∈ items → n.Holds c

theorem mem_children_iff {n c : Node} : c ∈ n.children ↔ n.Holds c := by
  constructor
  · intro member
    obtain ⟨⟨key, item⟩, hfield, hc⟩ := List.mem_flatMap.mp member
    cases item with
    | plain v => cases hc
    | record entries => cases hc
    | node id type fields loc comments =>
      obtain rfl := List.mem_singleton.mp hc
      exact .directly hfield
    | tuple items =>
      obtain ⟨i, hi, node⟩ := List.mem_filterMap.mp hc
      rw [Item.ofNode_of_node? node] at hi
      exact .listed hfield hi
  · rintro (hfield | ⟨hfield, hc⟩)
    · exact List.mem_flatMap.mpr ⟨_, hfield, List.mem_singleton.mpr rfl⟩
    · exact List.mem_flatMap.mpr ⟨_, hfield, List.mem_filterMap.mpr ⟨_, hc, rfl⟩⟩

/-- Steps to what fields hold lead to a node if and only if a path of children does. -/
theorem reaches_iff_leadsTo {root n : Node} :
    Relation.ReflTransGen Holds root n ↔ ∃ above, root.LeadsTo n above := by
  constructor
  · intro steps
    induction steps with
    | refl => exact ⟨[], .start⟩
    | tail _ step ih =>
      obtain ⟨above, leads⟩ := ih
      exact ⟨_, .child leads (mem_children_iff.mpr step)⟩
  · rintro ⟨above, leads⟩
    induction leads with
    | start => exact .refl
    | child _ member ih => exact ih.tail (mem_children_iff.mp member)

theorem exists_visit_iff {root n : Node} :
    (∃ v ∈ root.walk, v.node = n) ↔ Relation.ReflTransGen Holds root n := by
  rw [reaches_iff_leadsTo]
  constructor
  · rintro ⟨v, visited, rfl⟩
    exact ⟨v.ancestors, leadsTo_of_mem_walk visited⟩
  · rintro ⟨above, leads⟩
    exact ⟨⟨n, above⟩, mem_walk_of_leadsTo leads, rfl⟩

end Node

/-- A walk is the recursion that visits a node and then its children one after the other. Its visits
are those at the ends of the paths from the root, each path once and in lexicographic order; the
ancestors of a visit, from the root on, are the nodes that its path leads through. A node is visited
if and only if it can be reached through fields that hold nodes directly or in a sequence. -/
theorem walk_visits_paths (root : Node) :
    root.walk = Visit.preorder ⟨root, []⟩ ∧
    (∀ (n : Node) (above : List Node), Visit.preorder ⟨n, above⟩ =
      ⟨n, above⟩ :: n.children.flatMap fun c => Visit.preorder ⟨c, n :: above⟩) ∧
    root.walk.map some = root.paths.map (Visit.follow ⟨root, []⟩) ∧
    root.paths.Pairwise (· < ·) ∧
    (∀ p, p ∈ root.paths ↔ (root.descend? p).isSome = true) ∧
    (∀ p v, Visit.follow ⟨root, []⟩ p = some v → root.descend? p = some v.node ∧
      v.ancestors.reverse.map some = p.inits.dropLast.map root.descend?) ∧
    ∀ n, (∃ v ∈ root.walk, v.node = n) ↔ Relation.ReflTransGen Node.Holds root n := by
  refine ⟨root.walk_eq_preorder, ?_, ?_, root.paths_pairwise_lt, fun _ => Node.mem_paths_iff, ?_,
    fun _ => Node.exists_visit_iff⟩
  · intro n above
    rw [Visit.preorder_eq, Visit.children, Visit.visitsTo, List.flatMap_map]
  · rw [root.walk_eq_preorder]
    exact Visit.map_preorder ⟨root, []⟩
  · intro p v arrives
    exact Visit.follow_spells arrives

end NameLint
