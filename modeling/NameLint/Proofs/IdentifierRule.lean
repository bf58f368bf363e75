import NameLint.Proofs.Preorder
import NameLint.Rule.Camelcase

/-!
# Identifiers below their ancestors

What the check of an identifier asks of the nodes above it, as a condition on the
path that leads to the identifier. The parent decides alone unless it accesses a
member; then its object counts, and the node above it if that is an assignment. The
ancestors on a visit are the nodes of the path, so parent and grandparent are the
nodes one and two steps of children above.
-/

namespace NameLint

namespace Camelcase

def IsNamedBy (n : Node) (name : String) : Prop :=
  n.name = .plain (.text name)

/-- Whether the object of an access to a member is an identifier of that name. -/
def AccessesObject (member : Node) (name : String) : Prop :=
  ∃ object, member.child? "object" = some object ∧ object.type = "Identifier" ∧
    IsNamedBy object name

/-- Whether an access to a member stands on the right of an assignment. -/
def ReadsMember (assignment : Node) : Prop :=
  ∃ right, assignment.child? "right" = some right ∧ right.type = "MemberExpression"

/-- Whether an assignment is to a member of that name. -/
def AssignsMember (assignment : Node) (name : String) : Prop :=
  ∃ left property, assignment.child? "left" = some left ∧ left.type = "MemberExpression" ∧
    left.child? "property" = some property ∧ IsNamedBy property name

/-- What the nodes above an identifier have to be for its name to count. -/
structure Counts (name : String) (parent : Node) (grandparent : Option Node) : Prop where
  inMember : parent.type = "MemberExpression" →
    AccessesObject parent name ∨ ∃ g, grandparent = some g ∧ g.type = "AssignmentExpression" ∧
      (¬ ReadsMember g ∨ AssignsMember g name)
  elsewhere : parent.type ≠ "MemberExpression" →
    parent.type ≠ "CallExpression" ∧ parent.type ≠ "Property"

theorem isNamed_iff (n : Node) (name : String) : isNamed n name = true ↔ IsNamedBy n name := by
  rw [isNamed, beq_iff_eq, IsNamedBy]
  constructor
  · intro h
    unfold Item.text? at h
    split at h
    · rename_i s hs
      rw [hs, Option.some.inj h]
    · cases h
  · intro h
    rw [h]
    rfl

theorem isMember_iff (n : Node) : isMember n = true ↔ n.type = "MemberExpression" :=
  beq_iff_eq

theorem isAssigned_iff (assignment : Node) (name : String) :
    isAssigned assignment name = true ↔
      ¬ ReadsMember assignment ∨ AssignsMember assignment name := by
  unfold isAssigned
  split
  · rename_i hright
    constructor
    · intro _
      left
      rintro ⟨right, found, _⟩
      rw [hright] at found
      cases found
    · intro _
      rfl
  · rename_i right hright
    by_cases member : isMember right = true
    · have reads : ReadsMember assignment := ⟨right, hright, (isMember_iff right).mp member⟩
      rw [if_pos member, or_iff_right (not_not_intro reads)]
      constructor
      · intro h
        split at h
        · cases h
        · rename_i left hleft
          rw [Bool.and_eq_true, Option.any_eq_true] at h
          obtain ⟨accessed, property, hproperty, named⟩ := h
          exact ⟨left, property, hleft, (isMember_iff left).mp accessed, hproperty,
            (isNamed_iff property name).mp named⟩
      · rintro ⟨left, property, hleft, accessed, hproperty, named⟩
        rw [hleft]
        dsimp only
        rw [Bool.and_eq_true, Option.any_eq_true]
        exact ⟨(isMember_iff left).mpr accessed, property, hproperty,
          (isNamed_iff property name).mpr named⟩
    · rw [if_neg member]
      constructor
      · intro _
        left
        rintro ⟨other, found, accessed⟩
        obtain rfl := Option.some.inj (hright.symm.trans found)
        exact member ((isMember_iff right).mpr accessed)
      · intro _
        rfl

theorem isCheckedInMember_iff (member : Node) (above : Option Node) (name : String) :
    isCheckedInMember member above name = true ↔
      AccessesObject member name ∨ ∃ g, above = some g ∧ g.type = "AssignmentExpression" ∧
        (¬ ReadsMember g ∨ AssignsMember g name) := by
  rw [isCheckedInMember, Bool.or_eq_true, Option.any_eq_true, Option.any_eq_true]
  apply or_congr
  · constructor
    · rintro ⟨object, hobject, h⟩
      rw [Bool.and_eq_true] at h
      exact ⟨object, hobject, beq_iff_eq.mp h.1, (isNamed_iff object name).mp h.2⟩
    · rintro ⟨object, hobject, type, named⟩
      refine ⟨object, hobject, ?_⟩
      rw [Bool.and_eq_true]
      exact ⟨beq_iff_eq.mpr type, (isNamed_iff object name).mpr named⟩
  · constructor
    · rintro ⟨g, hg, h⟩
      rw [Bool.and_eq_true] at h
      exact ⟨g, hg, beq_iff_eq.mp h.1, (isAssigned_iff g name).mp h.2⟩
    · rintro ⟨g, hg, type, assigned⟩
      refine ⟨g, hg, ?_⟩
      rw [Bool.and_eq_true]
      exact ⟨beq_iff_eq.mpr type, (isAssigned_iff g name).mpr assigned⟩

/-- A name is checked if there is a parent and the nodes above make it count. -/
theorem isChecked_iff (name : String) (ancestors : List Node) :
    isChecked name ancestors = true ↔
      ∃ parent above, ancestors = parent :: above ∧ Counts name parent above.head? := by
  cases ancestors with
  | nil =>
    constructor
    · intro h
      cases h
    · rintro ⟨parent, above, h, _⟩
      cases h
  | cons parent above =>
    have own : (∃ parent' above', parent :: above = parent' :: above' ∧
        Counts name parent' above'.head?) ↔ Counts name parent above.head? := by
      constructor
      · rintro ⟨parent', above', same, counts⟩
        cases same
        exact counts
      · intro counts
        exact ⟨parent, above, rfl, counts⟩
    rw [own, isChecked]
    by_cases member : isMember parent = true
    · have type := (isMember_iff parent).mp member
      rw [if_pos member, isCheckedInMember_iff]
      constructor
      · intro h
        exact ⟨fun _ => h, fun other => absurd type other⟩
      · intro counts
        exact counts.inMember type
    · have type : parent.type ≠ "MemberExpression" := fun h => member ((isMember_iff parent).mpr h)
      rw [if_neg member, Bool.not_eq_true', Bool.or_eq_false_iff]
      constructor
      · rintro ⟨call, property⟩
        exact ⟨fun h => absurd h type, fun _ =>
          ⟨beq_eq_false_iff_ne.mp call, beq_eq_false_iff_ne.mp property⟩⟩
      · intro counts
        obtain ⟨call, property⟩ := counts.elsewhere type
        exact ⟨beq_eq_false_iff_ne.mpr call, beq_eq_false_iff_ne.mpr property⟩

/-- In an access to a member on the right of an assignment, a name counts if it is that of the
object accessed or of the member assigned to. -/
theorem counts_of_right_iff {parent assignment : Node} (name : String)
    (member : parent.type = "MemberExpression") (assigns : assignment.type = "AssignmentExpression")
    (right : assignment.child? "right" = some parent) :
    Counts name parent (some assignment) ↔
      AccessesObject parent name ∨ AssignsMember assignment name := by
  have reads : ReadsMember assignment := ⟨parent, right, member⟩
  constructor
  · intro counts
    rcases counts.inMember member with object | ⟨g, hg, _, unread | assigned⟩
    · exact Or.inl object
    · cases hg
      exact absurd reads unread
    · cases hg
      exact Or.inr assigned
  · intro counts
    refine ⟨fun _ => ?_, fun other => absurd member other⟩
    rcases counts with object | assigned
    · exact Or.inl object
    · exact Or.inr ⟨assignment, rfl, assigns, Or.inr assigned⟩

/-- An identifier is reported if and only if its name is a text that is underscored between its
edges, and there are a parent and perhaps a grandparent that make it count. -/
theorem checkIdentifier_eq_some_iff {n : Node} {ancestors : List Node} {f : Finding} :
    checkIdentifier n ancestors = some f ↔
      ∃ name parent above, IsNamedBy n name ∧ ancestors = parent :: above ∧
        Name.isUnderscored (Name.stripUnderscores name) = true ∧ Counts name parent above.head? ∧
        f = ⟨n, identifierType, .plain (.text name)⟩ := by
  unfold checkIdentifier
  split
  · rename_i none
    constructor
    · intro h
      cases h
    · rintro ⟨name, parent, above, named, _⟩
      rw [named] at none
      cases none
  · rename_i name text
    have named : IsNamedBy n name := (isNamed_iff n name).mp (beq_iff_eq.mpr text)
    constructor
    · intro h
      split at h
      · rename_i both
        rw [Bool.and_eq_true, isChecked_iff] at both
        obtain ⟨underscored, parent, above, path, counts⟩ := both
        refine ⟨name, parent, above, named, path, underscored, counts, ?_⟩
        rw [← Option.some.inj h, named]
      · cases h
    · rintro ⟨name', parent, above, named', path, underscored, counts, rfl⟩
      have same : name' = name := by
        rw [named'] at text
        exact Option.some.inj text
      subst same
      have checked := (isChecked_iff name' ancestors).mpr ⟨parent, above, path, counts⟩
      rw [if_pos (by rw [underscored, checked]; rfl), named]

/-- On every visit of a walk the ancestors are the path of children from the root, and an identifier
is reported, under its name as it is, if and only if it is named by a text that is underscored
between its edges and the nodes one and two steps above it make the name count. Where the parent is
the access to a member on the right of the assignment above it, this leaves two cases: the name is
also that of the object accessed, or that of the member assigned to. -/
theorem checkIdentifier_on_path (root : Node) (v : Visit) (visited : v ∈ root.walk) :
    root.LeadsTo v.node v.ancestors ∧
    (∀ f, checkIdentifier v.node v.ancestors = some f ↔
      ∃ name parent above, IsNamedBy v.node name ∧ v.ancestors = parent :: above ∧
        Name.isUnderscored (Name.stripUnderscores name) = true ∧ Counts name parent above.head? ∧
        f = ⟨v.node, identifierType, .plain (.text name)⟩) ∧
    (∀ name parent assignment above, IsNamedBy v.node name →
      v.ancestors = parent :: assignment :: above → parent.type = "MemberExpression" →
      assignment.type = "AssignmentExpression" → assignment.child? "right" = some parent →
      (checkIdentifier v.node v.ancestors = some ⟨v.node, identifierType, .plain (.text name)⟩ ↔
        Name.isUnderscored (Name.stripUnderscores name) = true ∧
          (AccessesObject parent name ∨ AssignsMember assignment name))) := by
  refine ⟨Node.leadsTo_of_mem_walk visited, fun f => checkIdentifier_eq_some_iff, ?_⟩
  intro name parent assignment above named path member assigns right
  rw [checkIdentifier_eq_some_iff, ← counts_of_right_iff name member assigns right]
  constructor
  · rintro ⟨name', parent', above', _, path', underscored, counts, same⟩
    obtain ⟨rfl, rfl⟩ := List.cons.inj (path.symm.trans path')
    cases same
    exact ⟨underscored, counts⟩
  · rintro ⟨underscored, counts⟩
    exact ⟨name, parent, assignment :: above, named, path, underscored, counts, rfl⟩

/-- An access to the member `a_b` of an object. -/
def accessOf (id : Nat) (object : String) : Node :=
  ⟨id, "MemberExpression",
    [("object", .node (id + 1) "Identifier" [("name", .plain (.text object))] none []),
      ("property", .node (id + 2) "Identifier" [("name", .plain (.text "a_b"))] none [])], none, []⟩

/-- The assignment `to.a_b = from.a_b`. -/
def copiedMember : Node :=
  ⟨0, "AssignmentExpression",
    [("left", .ofNode (accessOf 1 "to")), ("right", .ofNode (accessOf 4 "from"))], none, []⟩

def readMember : Node :=
  ⟨6, "Identifier", [("name", .plain (.text "a_b"))], none, []⟩

/-- The member on the right is reported for the sake of the one on the left. -/
theorem checkIdentifier_on_path_of_readMember :
    (⟨readMember, [accessOf 4 "from", copiedMember]⟩ : Visit) ∈ copiedMember.walk ∧
    copiedMember.LeadsTo readMember [accessOf 4 "from", copiedMember] ∧
    checkIdentifier readMember [accessOf 4 "from", copiedMember] =
      some ⟨readMember, identifierType, .plain (.text "a_b")⟩ := by
  have visited : (⟨readMember, [accessOf 4 "from", copiedMember]⟩ : Visit) ∈ copiedMember.walk := by
    simp [copiedMember, readMember, accessOf, Node.walk, Visit.walk, Visit.children,
      Visit.visitsTo, Node.children, Node.childrenIn, Item.ofNode]
  have assigned : AssignsMember copiedMember "a_b" :=
    ⟨accessOf 1 "to", ⟨3, "Identifier", [("name", .plain (.text "a_b"))], none, []⟩, rfl, rfl, rfl,
      rfl⟩
  obtain ⟨path, _, onTheRight⟩ := checkIdentifier_on_path copiedMember _ visited
  refine ⟨visited, path, ?_⟩
  rw [onTheRight "a_b" (accessOf 4 "from") copiedMember [] rfl rfl rfl rfl rfl]
  exact ⟨by decide, Or.inr assigned⟩

end Camelcase

end NameLint
