import NameLint.Proofs.Findings
import NameLint.Proofs.Retained

/-!
# Shared nodes

A list or object that stands at several places may be opened at several of them,
and each closing makes a node of its own. One object becomes one node if and only
if no node is closed again after something that remains in the tree has taken its
item. Where that is so, nothing is reported twice for one object.
-/

namespace NameLint

/-- Whether no node is closed again once something that remains has taken its item. What stands
earlier in the order is closed later. -/
def Source.Settled (s : Source) : Prop :=
  ∀ earlier holder later, s.entered = earlier ++ holder :: later →
    Retained s.entered (holder :: later) →
      ∀ c ∈ holder.content, c.isNode = true → ∀ d ∈ earlier, d.label? ≠ c.label?

section Identity

variable {s : Source} {nextId : Nat}

/-- Whether nodes are the same where objects were the same, and only there. -/
def Node.KeepsIdentity (root : Node) (s : Source) : Prop :=
  ∀ p q m n, root.at? p = some m → root.at? q = some n →
    (m.id = n.id ↔ s.labelAt? p = s.labelAt? q)

/-- Nodes with one number come from one closing. -/
theorem eq_of_same_length {c d : Source} {after after' : List Source}
    (first : Source.Retained s.entered (c :: after))
    (second : Source.Retained s.entered (d :: after')) (same : after.length = after'.length) :
    c :: after = d :: after' := by
  have length : (c :: after).length = (d :: after').length := by simp [same]
  have inner := List.suffix_of_suffix_length_le first.suffix second.suffix (Nat.le_of_eq length)
  exact inner.eq_of_length length

/-- Where no node is closed again, a retained node comes from the last closing of its object. -/
theorem first_of_settled (s : LabelledSource) (container : s.tree.isScalar = false)
    (settled : s.tree.Settled) {c : Source} {after : List Source} (isNode : c.isNode = true)
    (retained : Source.Retained s.tree.entered (c :: after)) :
    ∃ front, s.tree.entered = front ++ c :: after ∧ ∀ d ∈ front, d.label? ≠ c.label? := by
  generalize rest : c :: after = order at retained
  cases retained with
  | root => exact ⟨[], rfl, by simp⟩
  | part above inside newest =>
    rename_i holder c' between after'
    obtain ⟨rfl, rfl⟩ := List.cons.inj rest
    obtain ⟨earlier, split⟩ := above.suffix
    refine ⟨earlier ++ holder :: between, ?_, ?_⟩
    · rw [← split, List.append_assoc]
      rfl
    · intro d hd
      rcases List.mem_append.mp hd with before | hd
      · exact settled earlier holder _ split.symm above c inside isNode d before
      · rcases List.mem_cons.mp hd with rfl | hd
        · intro same
          have outer := Source.mem_reached_of_mem_entered container
            (above.suffix.mem List.mem_cons_self)
          have inner := Source.mem_reached_of_mem_content outer inside
            (Source.isScalar_of_isNode isNode)
          obtain rfl := s.coherent d outer c inner same
          exact Source.not_mem_content (Source.isScalar_of_isNode isNode) inside
        · exact newest d hd

/-- What stands in something retained is retained as it was when it was taken. -/
theorem exists_taken (s : LabelledSource) (container : s.tree.isScalar = false) {root : Item}
    (makes : Assembly.Makes ⟨∅, nextId⟩ root s.tree.entered) {holder c : Source}
    {later : List Source}
    (retained : Source.Retained s.tree.entered (holder :: later)) (inside : c ∈ holder.content)
    (isNode : c.isNode = true) :
    ∃ after, after.length < later.length ∧ Source.Retained s.tree.entered (c :: after) := by
  obtain ⟨_, item, _, _, made⟩ :=
    exists_part_of_retained s container makes retained holder later rfl
  obtain ⟨k, hk⟩ := List.getElem?_of_mem inside
  rcases makes_child s container retained made k with
    ⟨none, _⟩ | ⟨d, i, hd, _, ⟨v, rfl, rfl⟩ | ⟨between, after, rfl, newest, _⟩⟩
  · rw [hk] at none
    cases none
  · obtain rfl := Option.some.inj (hk.symm.trans hd)
    cases isNode
  · obtain rfl := Option.some.inj (hk.symm.trans hd)
    refine ⟨after, ?_, Source.Retained.part retained inside newest⟩
    rw [List.length_append, List.length_cons]
    omega

theorem settled_of_keepsIdentity {root : Node} (s : LabelledSource)
    (container : s.tree.isScalar = false)
    (makes : Assembly.Makes ⟨∅, nextId⟩ (.ofNode root) s.tree.entered)
    (keeps : root.KeepsIdentity s.tree) :
    s.tree.Settled := by
  intro earlier holder later split retained c inside isNode d hd same
  have reached : ∀ e ∈ s.tree.entered, e ∈ s.tree.reached := fun e he =>
    Source.mem_reached_of_mem_entered container he
  have outer : holder ∈ s.tree.reached := reached holder (retained.suffix.mem List.mem_cons_self)
  have inner := Source.mem_reached_of_mem_content outer inside (Source.isScalar_of_isNode isNode)
  have before : ∀ e ∈ earlier, e ∈ s.tree.reached := by
    intro e he
    apply reached
    rw [split]
    exact List.mem_append_left _ he
  obtain rfl := s.coherent d (before d hd) c inner same
  -- The object is closed for a last time later, and that closing is retained as well.
  obtain ⟨front, between, again, first⟩ := Source.exists_first s before hd
  have split' : s.tree.entered = front ++ d :: (between ++ holder :: later) := by
    rw [split, again, List.append_assoc]
    rfl
  have last := Source.retained_of_first s container split' first
  obtain ⟨after, shorter, taken⟩ := exists_taken s container makes retained inside isNode
  obtain ⟨p, m, hp, hm, number⟩ := at_of_retained s container makes isNode last
  obtain ⟨q, n, hq, hn, number'⟩ := at_of_retained s container makes isNode taken
  have one := (keeps p q m n hm hn).mpr (by rw [Source.labelAt?, Source.labelAt?, hp, hq])
  rw [number, number', List.length_append, List.length_cons] at one
  omega

theorem keepsIdentity_of_settled {root : Node} (s : LabelledSource)
    (container : s.tree.isScalar = false)
    (makes : Assembly.Makes ⟨∅, nextId⟩ (.ofNode root) s.tree.entered) (settled : s.tree.Settled) :
    root.KeepsIdentity s.tree := by
  intro p q m n hm hn
  obtain ⟨c, after, hc, isNode, retained, number⟩ := retained_of_at s container makes hm
  obtain ⟨d, after', hd, isNode', retained', number'⟩ :=
    retained_of_at s container makes hn
  rw [Source.labelAt?, Source.labelAt?, hc, hd, Option.bind_some, Option.bind_some, number, number']
  constructor
  · intro same
    obtain ⟨rfl, _⟩ := List.cons.inj (eq_of_same_length retained retained' (by omega))
    rfl
  · intro same
    obtain ⟨front, split, first⟩ := first_of_settled s container settled isNode retained
    obtain ⟨front', split', first'⟩ :=
      first_of_settled s container settled isNode' retained'
    obtain ⟨_, rfl⟩ := List.cons.inj
      (Source.eq_of_first_split same (split.symm.trans split') first first')
    rfl

theorem at_isSome {root : Node} (s : LabelledSource) (container : s.tree.isScalar = false)
    (makes : Assembly.Makes ⟨∅, nextId⟩ (.ofNode root) s.tree.entered) (p : List Nat) :
    (root.at? p).isSome = (s.tree.part? p).any Source.isNode := by
  rw [Node.at?]
  rcases makes_part s container Source.Retained.root makes p with
    ⟨hc, hi⟩ | ⟨c, i, hc, hi, ⟨v, rfl, rfl⟩ | ⟨after, retained, made⟩⟩
  · rw [hc, hi]
    rfl
  · rw [hc, hi]
    rfl
  · rw [hc, hi]
    exact (makes_id container retained made).1

end Identity

open Camelcase in
/-- Whether the violations come from findings at nodes of the tree, of which no two are about one
object and one sub type. -/
def ReportsOnce [Stack] (s : Source) (root : Node) (file : String) (vs : List Violation) : Prop :=
  ∃ (severity : Severity) (found : List Finding),
    vs.Perm (found.filterMap (Finding.violation? file severity)) ∧
    (∀ f ∈ found, ∃ p, root.at? p = some f.node) ∧
    found.Pairwise fun f g => ∀ p q, root.at? p = some f.node → root.at? q = some g.node →
      s.labelAt? p = s.labelAt? q → f.subType.id ≠ g.subType.id

open Camelcase in
/-- The violations of a run are those of the findings that it keeps, whatever their places. -/
theorem exists_findings_of_lint [Stack] {tree : TreeInput} {root : Node} {settings : RuleSettings}
    {file : String} {vs : List Violation} (converted : tree.root = .ok root)
    (result : (lint tree (some settings) file).2 = .ok vs) :
    ∃ options visits, visits ⊆ root.preorder ∧
      vs.Perm ((firstFindings options visits).filterMap
        (Finding.violation? file (Rule.severityOf settings standardSeverity))) := by
  by_cases enabled : settings.enabled.truthy = true
  · cases accepted : CamelcaseOptions.ofParams settings.params with
    | error fault =>
      obtain ⟨_, failed⟩ := lint_of_refused enabled accepted
      rw [failed] at result
      cases result
    | ok options =>
      have on : (ruleWith settings options).isEnabled = true := enabled
      rw [lint_of_enabled tree file enabled accepted] at result
      cases keeps : severityFault? settings with
      | some fault =>
        rw [keeps] at result
        cases result
      | none =>
        rw [keeps, Option.elim_none, Engine.checkTree_of_root converted, Engine.checkNode_snd,
          Engine.collected_single, if_pos on, found_ruleWith] at result
        refine ⟨options, root.walk, ?_, Violation.sortByPlace_perm result⟩
        rw [Node.walk_eq_preorder]
        exact List.Subset.refl _
  · rw [lint, Engine.loadRules, if_neg enabled] at result
    change (Engine.checkTree {} tree file).2 = .ok vs at result
    rw [Engine.checkTree_of_root converted, Engine.checkNode_snd] at result
    exact ⟨{}, [], List.nil_subset _, Violation.sortByPlace_perm result⟩

/-- Where nodes are the same as objects were, no object is reported twice for one sub type. -/
theorem reportsOnce_of_keepsIdentity [Stack] {s : Source} {root : Node}
    (keeps : root.KeepsIdentity s)
    {settings : RuleSettings} {tree : TreeInput} {file : String} {vs : List Violation}
    (converted : tree.root = .ok root) (result : (lint tree (some settings) file).2 = .ok vs) :
    ReportsOnce s root file vs := by
  obtain ⟨options, visits, inside, perm⟩ := exists_findings_of_lint converted result
  have kept := Camelcase.firstFindings_keepsFirst options visits
  refine ⟨_, _, perm, ?_, ?_⟩
  · intro f hf
    obtain ⟨v, visited, gave⟩ := kept.first f hf
    rw [(Camelcase.findingOn_tells gave).1]
    exact Node.exists_at_of_mem_preorder (inside (List.mem_of_getElem? visited))
  · have distinct := kept.keys_nodup
    rw [List.Nodup, List.pairwise_map] at distinct
    refine distinct.imp ?_
    intro f g other p q hf hg same sameType
    have id := (keeps p q f.node g.node hf hg).mpr same
    exact other (Prod.ext id sameType)

/-- One object becomes one node if and only if no node is closed again once something that remains
has taken its item. Then no object is reported twice for one sub type. -/
theorem conversion_keeps_identity_iff [Stack] (s : LabelledSource)
    (typed : s.tree.isNode = true)
    (readable : s.tree.reached.findSome? Source.readingFault? = none) :
    ∃ root, (TreeInput.source s.tree).root = .ok root ∧
      (∀ p, (root.at? p).isSome = (s.tree.part? p).any Source.isNode) ∧
      (root.KeepsIdentity s.tree ↔ s.tree.Settled) ∧
      (s.tree.Settled → ∀ config file vs, (lintWith (.source s.tree) config file).2 = .ok vs →
        ReportsOnce s.tree root file vs) := by
  have faultless := Node.of?_ofSource s typed 0
  rw [readable] at faultless
  cases converted : Node.ofSource s.tree 0 with
  | error fault =>
    rw [converted] at faultless
    cases faultless
  | ok result =>
    obtain ⟨root, next⟩ := result
    have container := Source.isScalar_of_isNode typed
    have makes := makes_root typed converted
    have first : (TreeInput.source s.tree).root = .ok root := by
      rw [TreeInput.root, converted]
      rfl
    refine ⟨root, first, at_isSome s container makes,
      ⟨settled_of_keepsIdentity s container makes,
        keepsIdentity_of_settled s container makes⟩, ?_⟩
    intro settled config file vs result
    exact reportsOnce_of_keepsIdentity (keepsIdentity_of_settled s container makes settled)
      first result

theorem isNew_sharedName (known : List Nat) : sharedName.isNew known = true ↔ 1 ∉ known := by
  rw [Source.isNew_iff]
  constructor
  · rintro ⟨label, named, new⟩
    cases named
    exact new
  · intro new
    exact ⟨1, rfl, new⟩

theorem enteredAll_content_sharedName (known : List Nat) :
    Source.enteredAll known sharedName.content = [] := by
  have leaf : (Source.scalar (.text "foo_bar")).isNew known = false := rfl
  simp [content_sharedName, Source.enteredAll, leaf]

theorem entered_sharedTwice :
    sharedTwice.entered = [sharedTwice, sharedName, .list 2 [sharedName], sharedName] := by
  have list : (Source.list 2 [sharedName]).isNew [] = true := rfl
  have items : (Source.list 2 [sharedName]).content = [sharedName] := rfl
  simp [Source.entered, Source.enteredAll, content_sharedTwice, isNew_sharedName,
    enteredAll_content_sharedName, Source.labels, list, items]

/-- The identifier is closed again after the list has taken it. -/
theorem sharedTwice_not_settled : ¬ sharedTwice.Settled := by
  intro settled
  have order := entered_sharedTwice
  have list : Source.Retained sharedTwice.entered [.list 2 [sharedName], sharedName] := by
    have top : Source.Retained sharedTwice.entered
        (sharedTwice :: ([sharedName] ++ .list 2 [sharedName] :: [sharedName])) := by
      rw [order]
      exact Source.Retained.root
    refine Source.Retained.part top ?_ ?_
    · rw [content_sharedTwice]
      simp
    · intro d hd
      obtain rfl := List.mem_singleton.mp hd
      decide
  exact settled [sharedTwice, sharedName] _ _ order list sharedName List.mem_cons_self rfl
    sharedName (by simp) rfl

/-- A tree that holds the identifier twice, the first time in a list. -/
def sharedBehind : Source :=
  .object 0 [("type", .scalar (.text "Program")), ("first", .list 2 [sharedName]),
    ("second", sharedName)]

theorem content_sharedBehind : sharedBehind.content = [.list 2 [sharedName], sharedName] := by
  rfl

theorem entered_sharedBehind :
    sharedBehind.entered = [sharedBehind, .list 2 [sharedName], sharedName] := by
  have list : (Source.list 2 [sharedName]).isNew [] = true := rfl
  have items : (Source.list 2 [sharedName]).content = [sharedName] := rfl
  have label : sharedName.label? = some 1 := rfl
  simp [Source.entered, Source.enteredAll, content_sharedBehind, isNew_sharedName,
    enteredAll_content_sharedName, Source.labels, list, items, label]

theorem reached_sharedBehind :
    sharedBehind.reached = [sharedName, sharedName, .list 2 [sharedName], sharedBehind] := by
  have root : sharedBehind.isScalar = false := rfl
  have name : sharedName.isScalar = false := rfl
  have list : (Source.list 2 [sharedName]).isScalar = false := rfl
  have items : (Source.list 2 [sharedName]).content = [sharedName] := rfl
  have leaf : (Source.scalar (.text "foo_bar")).isScalar = true := rfl
  simp [Source.reached, Source.reachedAll, content_sharedBehind, content_sharedName, root, name,
    list, items, leaf]

theorem sharedBehind_coherent : sharedBehind.Coherent := by
  intro c hc d hd same
  rw [reached_sharedBehind] at hc hd
  simp only [List.mem_cons, List.not_mem_nil, or_false] at hc hd
  rcases hc with rfl | rfl | rfl | rfl <;> rcases hd with rfl | rfl | rfl | rfl <;>
    first | rfl | cases same

theorem sharedBehind_settled : sharedBehind.Settled := by
  intro earlier holder later split _ c inside isNode d hd same
  rw [entered_sharedBehind] at split
  -- The identifier is closed first, so only the root and the list are closed after it.
  cases earlier with
  | nil => cases hd
  | cons root earlier =>
    obtain ⟨rfl, rest⟩ := List.cons.inj split
    cases earlier with
    | nil =>
      obtain ⟨rfl, _⟩ := List.cons.inj rest
      obtain rfl := List.mem_singleton.mp inside
      obtain rfl := List.mem_singleton.mp hd
      cases same
    | cons list earlier =>
      obtain ⟨rfl, last⟩ := List.cons.inj rest
      cases earlier with
      | nil =>
        obtain ⟨rfl, _⟩ := List.cons.inj last
        rw [content_sharedName] at inside
        obtain rfl := List.mem_singleton.mp inside
        cases isNode
      | cons name earlier =>
        have tail := (List.cons.inj last).2
        cases earlier <;> cases tail

open scoped Stack in
/-- Whether the identifier becomes one node or two depends on where the list stands. -/
theorem conversion_keeps_identity_behind :
    (∃ root, (TreeInput.source sharedTwice).root = .ok root ∧ ¬ root.KeepsIdentity sharedTwice) ∧
    ∃ root, (TreeInput.source sharedBehind).root = .ok root ∧ root.KeepsIdentity sharedBehind := by
  constructor
  · have readable : sharedTwice.reached.findSome? Source.readingFault? = none := by
      rw [reached_sharedTwice]
      rfl
    obtain ⟨root, converted, _, same, _⟩ :=
      conversion_keeps_identity_iff ⟨sharedTwice, sharedTwice_coherent⟩ rfl readable
    exact ⟨root, converted, fun keeps => sharedTwice_not_settled (same.mp keeps)⟩
  · have readable : sharedBehind.reached.findSome? Source.readingFault? = none := by
      rw [reached_sharedBehind]
      rfl
    obtain ⟨root, converted, _, same, _⟩ :=
      conversion_keeps_identity_iff ⟨sharedBehind, sharedBehind_coherent⟩ rfl readable
    exact ⟨root, converted, same.mpr sharedBehind_settled⟩

end NameLint
