import NameLint.Proofs.MovedTrees
import NameLint.Proofs.QuietRuns

/-!
# What is found further down

No rule asks for a line by itself. Whether a comment stands right in front of a node is a
matter of the distance of two lines, and so is which of two findings comes first. A run on
code that has been moved therefore gives the violations that it gave before, in the same
order, each as many lines further down.
-/

namespace NameLint

namespace Item

variable (c : Int)

theorem text?_moved (i : Item) : (i.moved c).text? = i.text? := by
  cases i with
  | plain v => rfl
  | tuple items => rfl
  | record entries => rfl
  | node id type fields loc comments => rfl

/-- Texts have no place. -/
theorem moved_of_text? {i : Item} {s : String} (h : i.text? = some s) : i.moved c = i := by
  cases i with
  | plain v => rfl
  | tuple items => cases h
  | record entries => cases h
  | node id type fields loc comments => cases h

end Item

namespace Node

variable (c : Int)

theorem get?_moved (n : Node) (key : String) :
    (n.moved c).get? key = (n.get? key).map (Item.moved c) := by
  rw [get?, Node.moved, Item.movedEntries_eq_map]
  exact Rule.lookup_map_snd (Item.moved c) n.fields key

theorem child?_moved (n : Node) (key : String) :
    (n.moved c).child? key = (n.child? key).map (Node.moved c) := by
  rw [child?, child?, get?_moved]
  cases n.get? key with
  | none => rfl
  | some i => exact Item.node?_moved c i

theorem name_moved (n : Node) : (n.moved c).name = n.name.moved c := by
  rw [name, name, get?_moved]
  cases n.get? "name" with
  | none => rfl
  | some i => rfl

theorem childrenIn_moved (i : Item) :
    childrenIn (i.moved c) = (childrenIn i).map (Node.moved c) := by
  cases i with
  | plain v => rfl
  | record entries => rfl
  | node id type fields loc comments => rfl
  | tuple items =>
    rw [Item.moved, Item.movedAll_eq_map, childrenIn, childrenIn, List.filterMap_map,
      List.map_filterMap]
    congr 1
    funext i
    exact Item.node?_moved c i

theorem children_moved (n : Node) : (n.moved c).children = n.children.map (Node.moved c) := by
  simp only [children, Node.moved, Item.movedEntries_eq_map, List.flatMap_map, List.map_flatMap,
    childrenIn_moved]

end Node

namespace Visit

def moved (c : Int) (v : Visit) : Visit :=
  ⟨v.node.moved c, v.ancestors.map (Node.moved c)⟩

theorem children_moved (c : Int) (v : Visit) :
    (v.moved c).children = v.children.map (Visit.moved c) := by
  simp only [children, visitsTo, moved, Node.children_moved, List.map_map]
  rfl

theorem preorder_moved (c : Int) (v : Visit) :
    (v.moved c).preorder = v.preorder.map (Visit.moved c) := by
  induction v using Visit.preorder.induct with
  | case1 v ih =>
    rw [preorder_eq, preorder_eq, children_moved, List.map_cons, List.flatMap_map, List.map_flatMap]
    congr 1
    refine List.flatMap_congr ?_
    intro w hw
    exact ih ⟨w, hw⟩

end Visit

theorem Node.preorder_moved (c : Int) (root : Node) :
    (root.moved c).preorder = root.preorder.map (Visit.moved c) :=
  Visit.preorder_moved c ⟨root, []⟩

namespace Comment

variable {c : Int}

/-- How near two lines are is a matter of their distance. -/
theorem isNear_moved {start stop : Value} (hstart : start.isInt = true)
    (hstop : stop.isInt = true) : isNear (start.moved c) (stop.moved c) = isNear start stop := by
  obtain ⟨m, rfl⟩ := Value.isInt_iff.mp hstart
  obtain ⟨n, rfl⟩ := Value.isInt_iff.mp hstop
  have distance : m + c + -(n + c) = m + -n := by omega
  show Except.ok (Number.atMost (.whole (m + c + -(n + c))) (.whole 1)) = _
  rw [distance]
  rfl

theorem marksPrivate_moved {comment : Comment} (whole : comment.IsWhole) {start : Value}
    (hstart : start.isInt = true) :
    (comment.moved c).marksPrivate (start.moved c) = comment.marksPrivate start := by
  obtain ⟨type, value, loc⟩ := comment
  unfold marksPrivate
  dsimp only [Comment.moved]
  cases value with
  | text s =>
    cases loc with
    | none => rfl
    | some l =>
      have near : isNear (start.moved c) (l.moved c).endLine = isNear start l.endLine :=
        isNear_moved hstart (whole l rfl).endLine
      dsimp only [Option.map_some]
      rw [near]
      rfl
  | _ => rfl

theorem anyMarksPrivate_moved {comments : List Comment} (whole : ∀ k ∈ comments, k.IsWhole)
    {start : Value} (hstart : start.isInt = true) :
    anyMarksPrivate (start.moved c) (comments.map (Comment.moved c)) =
      anyMarksPrivate start comments := by
  induction comments with
  | nil => rfl
  | cons k rest ih =>
    rw [List.map_cons, anyMarksPrivate, anyMarksPrivate,
      marksPrivate_moved (whole k List.mem_cons_self) hstart,
      ih fun d hd => whole d (List.mem_cons_of_mem k hd)]

end Comment

namespace Node

variable {c : Int} {n : Node}

theorem hasPrivateTag_moved (movable : n.IsMovable) :
    (n.moved c).hasPrivateTag = n.hasPrivateTag := by
  obtain ⟨l, located, whole⟩ := movable.loc
  simp only [hasPrivateTag, Node.moved, located, Option.map_some]
  exact Comment.anyMarksPrivate_moved movable.comments whole.startLine

theorem keyName?_moved [Stack] (named : n.IsNamedByText)
    (plain : ∀ i, n.get? "value" = some i → ∃ v, i = .plain v) :
    (n.moved c).keyName? = n.keyName? := by
  have name : (n.moved c).name = n.name := by
    rw [name_moved]
    rcases named with null | ⟨s, text⟩
    · rw [null]
      rfl
    · rw [text]
      rfl
  have value : (n.moved c).get? "value" = n.get? "value" := by
    rw [get?_moved]
    cases found : n.get? "value" with
    | none => rfl
    | some i =>
      obtain ⟨v, rfl⟩ := plain i found
      rfl
  rw [keyName?, keyName?, name, value]

theorem place_moved (movable : n.IsMovable) :
    (n.moved c).place = (n.place.1 + c, n.place.2) := by
  obtain ⟨l, located, whole⟩ := movable.loc
  obtain ⟨line, hline⟩ := Value.isInt_iff.mp whole.startLine
  simp [place, Node.moved, located, Location.moved, hline, Value.moved, Value.whole]

theorem hasPlace_moved (movable : n.IsMovable) : (n.moved c).HasPlace := by
  obtain ⟨own, located, whole⟩ := movable.loc
  obtain ⟨line, hline⟩ := Value.isInt_iff.mp whole.startLine
  obtain ⟨column, hcolumn⟩ := Value.isInt_iff.mp whole.startColumn
  intro l hl
  rw [Node.moved, located] at hl
  cases hl
  refine ⟨line + c, column, ?_, hcolumn⟩
  rw [Location.moved, hline]
  rfl

end Node

namespace Camelcase

variable {c : Int}

def Finding.moved (c : Int) (f : Finding) : Finding :=
  ⟨f.node.moved c, f.subType, f.name⟩

theorem isNamed_moved (n : Node) (name : String) : isNamed (n.moved c) name = isNamed n name := by
  rw [isNamed, isNamed, Node.name_moved, Item.text?_moved]

theorem isAssigned_moved (n : Node) (name : String) :
    isAssigned (n.moved c) name = isAssigned n name := by
  rw [isAssigned, isAssigned, Node.child?_moved, Node.child?_moved]
  cases n.child? "right" with
  | none => rfl
  | some right =>
    cases n.child? "left" with
    | none => rfl
    | some left =>
      have named : ((left.moved c).child? "property").any (isNamed · name) =
          (left.child? "property").any (isNamed · name) := by
        rw [Node.child?_moved, Option.any_map]
        congr 1
        funext n
        exact isNamed_moved n name
      simp only [Option.map_some, named]
      rfl

theorem isCheckedInMember_moved (member : Node) (above : Option Node) (name : String) :
    isCheckedInMember (member.moved c) (above.map (Node.moved c)) name =
      isCheckedInMember member above name := by
  have assigned : (above.map (Node.moved c)).any
        (fun a => a.isType "AssignmentExpression" && isAssigned a name) =
      above.any fun a => a.isType "AssignmentExpression" && isAssigned a name := by
    rw [Option.any_map]
    congr 1
    funext a
    exact congrArg (a.isType "AssignmentExpression" && ·) (isAssigned_moved a name)
  have object : ((member.moved c).child? "object").any
        (fun o => o.isType "Identifier" && isNamed o name) =
      (member.child? "object").any fun o => o.isType "Identifier" && isNamed o name := by
    rw [Node.child?_moved, Option.any_map]
    congr 1
    funext o
    exact congrArg (o.isType "Identifier" && ·) (isNamed_moved o name)
  rw [isCheckedInMember, isCheckedInMember, assigned, object]

theorem isChecked_moved (name : String) (ancestors : List Node) :
    isChecked name (ancestors.map (Node.moved c)) = isChecked name ancestors := by
  cases ancestors with
  | nil => rfl
  | cons parent above =>
    rw [List.map_cons, isChecked, isChecked, List.head?_map, isCheckedInMember_moved]
    rfl

/-- An identifier is checked without its place. -/
theorem checkIdentifier_moved (n : Node) (ancestors : List Node) :
    checkIdentifier (n.moved c) (ancestors.map (Node.moved c)) =
      (checkIdentifier n ancestors).map (Finding.moved c) := by
  rw [checkIdentifier, checkIdentifier, Node.name_moved, Item.text?_moved]
  cases spelled : n.name.text? with
  | none => rfl
  | some name =>
    dsimp only
    rw [Item.moved_of_text? c spelled, isChecked_moved]
    split
    · rfl
    · rfl

theorem judge_moved (options : CamelcaseOptions) {n : Node} (movable : n.IsMovable) (key : Node)
    (name : Item) :
    judge options (n.moved c) (key.moved c) name =
      (judge options n key name).map (Option.map (Finding.moved c)) := by
  have marked : ∀ isPrivate, isMarked (n.moved c) isPrivate = isMarked n isPrivate := by
    intro isPrivate
    rw [isMarked, isMarked, Node.hasPrivateTag_moved movable]
  simp only [judge, marked]
  cases isPrivateName name with
  | error fault => rfl
  | ok isPrivate =>
    show (if _ then _ else _) = Except.map _ (if _ then _ else _)
    split
    · rw [if_pos (by assumption)]
      rfl
    · rw [if_neg (by assumption)]
      cases isMarked n isPrivate with
      | error fault => rfl
      | ok isMarked =>
        cases isMarked with
        | true => rfl
        | false =>
          show (IgnorePattern.anyHolds name options.ignore >>= fun _ => _) =
            Except.map _ (IgnorePattern.anyHolds name options.ignore >>= fun _ => _)
          cases IgnorePattern.anyHolds name options.ignore with
          | error fault => rfl
          | ok ignored =>
            cases ignored with
            | true => rfl
            | false =>
              show (isMisspelled name >>= fun _ => _) =
                Except.map _ (isMisspelled name >>= fun _ => _)
              cases isMisspelled name with
              | error fault => rfl
              | ok misspelled => cases misspelled <;> rfl

/-- A property is checked with the distances of its comments only. -/
theorem checkProperty_moved [Stack] (options : CamelcaseOptions) {n : Node} (movable : n.IsMovable)
    (property : n.type = "Property") :
    checkProperty (n.moved c) options =
      (checkProperty n options).map (Option.map (Finding.moved c)) := by
  have child := Node.child?_moved c n "key"
  cases hkey : n.child? "key" with
  | none =>
    rw [hkey] at child
    simp only [checkProperty, hkey, child]
    rfl
  | some key =>
    rw [hkey] at child
    obtain ⟨named, plain⟩ := movable.key property key hkey
    have same := Node.keyName?_moved (c := c) named plain
    cases hname : key.keyName? with
    | error fault =>
      rw [hname] at same
      simp only [checkProperty, hkey, child, Option.map_some, hname, same]
      rfl
    | ok name =>
      rw [hname] at same
      cases name with
      | none =>
        simp only [checkProperty, hkey, child, Option.map_some, hname, same]
        rfl
      | some name =>
        rw [checkProperty_eq_judge child same, checkProperty_eq_judge hkey hname,
          judge_moved options movable]

theorem findingOn_moved [Stack] (options : CamelcaseOptions) {v : Visit}
    (movable : v.node.IsMovable) :
    findingOn options (v.moved c) = (findingOn options v).map (Finding.moved c) := by
  have type : (v.moved c).node.type = v.node.type := rfl
  rw [findingOn, findingOn, type]
  split
  · exact checkIdentifier_moved v.node v.ancestors
  · split
    · rename_i property
      have checked : checkProperty (v.moved c).node options = _ :=
        checkProperty_moved options movable property
      rw [checked]
      cases checkProperty v.node options with
      | error fault => rfl
      | ok finding => rfl
    · rfl

theorem note_moved [Stack] (options : CamelcaseOptions) (found : List Finding) {v : Visit}
    (movable : v.node.IsMovable) :
    note options (found.map (Finding.moved c)) (v.moved c) =
      (note options found v).map (Finding.moved c) := by
  rw [note, note, findingOn_moved options movable]
  cases findingOn options v with
  | none => rfl
  | some f =>
    have keys : (found.map (Finding.moved c)).map Finding.key = found.map Finding.key := by
      rw [List.map_map]
      rfl
    have key : (f.moved c).key = f.key := rfl
    simp only [Option.map_some, keys, key]
    split
    · rfl
    · rw [List.map_append, List.map_singleton]

/-- A run keeps the findings that it kept before. -/
theorem firstFindings_moved [Stack] (options : CamelcaseOptions) {visits : List Visit}
    (movable : ∀ v ∈ visits, v.node.IsMovable) :
    firstFindings options (visits.map (Visit.moved c)) =
      (firstFindings options visits).map (Finding.moved c) := by
  have run : ∀ found : List Finding,
      (visits.map (Visit.moved c)).foldl (note options) (found.map (Finding.moved c)) =
        (visits.foldl (note options) found).map (Finding.moved c) := by
    induction visits with
    | nil => intro found; rfl
    | cons v rest ih =>
      intro found
      rw [List.map_cons, List.foldl_cons, List.foldl_cons,
        note_moved options found (movable v List.mem_cons_self)]
      exact ih (fun w hw => movable w (List.mem_cons_of_mem v hw)) _
  exact run []

end Camelcase

def Violation.moved (c : Int) (v : Violation) : Violation :=
  { v with line := v.line.moved c }

namespace Camelcase

variable {c : Int}

theorem Finding.violation_moved {f : Finding} (movable : f.node.IsMovable) (file : String)
    (severity : Severity) :
    (f.moved c).violation file severity = (f.violation file severity).moved c := by
  have place : (f.moved c).node.place = (f.node.place.1 + c, f.node.place.2) :=
    Node.place_moved movable
  rw [Finding.violation, place]
  rfl

/-- Which of two findings comes first is a matter of the distance of their lines. -/
theorem Finding.inOrder_moved {f g : Finding} (hf : f.node.IsMovable) (hg : g.node.IsMovable)
    (file : String) (severity : Severity) :
    (f.moved c).inOrder file severity (g.moved c) = f.inOrder file severity g := by
  rw [Finding.inOrder, Finding.inOrder, violation_moved hf, violation_moved hg, Bool.eq_iff_iff,
    Violation.inOrder_iff, Violation.inOrder_iff]
  show ¬ Before (g.node.place.1 + c, g.node.place.2) (f.node.place.1 + c, f.node.place.2) ↔
    ¬ Before g.node.place f.node.place
  unfold Before
  dsimp only
  omega

theorem isMovable_of_mem_firstFindings [Stack] {options : CamelcaseOptions} {visits : List Visit}
    (movable : ∀ v ∈ visits, v.node.IsMovable) {f : Finding}
    (hf : f ∈ firstFindings options visits) : f.node.IsMovable := by
  obtain ⟨v, at?, gave⟩ := (firstFindings_keepsFirst options visits).first f hf
  rw [(findingOn_tells gave).1]
  exact movable v (List.mem_of_getElem? at?)

/-- The findings that a run keeps stand in the order that they had before. -/
theorem sortedFindings_moved [Stack] {root : Node} (movable : ∀ v ∈ root.preorder, v.node.IsMovable)
    (file : String) (severity : Severity) (options : CamelcaseOptions) :
    sortedFindings file severity options (root.moved c) =
      (sortedFindings file severity options root).map (Finding.moved c) := by
  rw [sortedFindings, sortedFindings, Node.preorder_moved, firstFindings_moved options movable]
  refine (List.map_mergeSort ?_).symm
  intro f hf g hg
  exact (Finding.inOrder_moved (isMovable_of_mem_firstFindings movable hf)
    (isMovable_of_mem_firstFindings movable hg) file severity).symm

theorem violations_moved [Stack] {root : Node} (movable : ∀ v ∈ root.preorder, v.node.IsMovable)
    (file : String) (severity : Severity) (options : CamelcaseOptions) :
    ((sortedFindings file severity options (root.moved c)).filter Finding.isTold).map
        (Finding.violation file severity) =
      (((sortedFindings file severity options root).filter Finding.isTold).map
        (Finding.violation file severity)).map (Violation.moved c) := by
  have told : Finding.isTold ∘ Finding.moved c = Finding.isTold := rfl
  rw [sortedFindings_moved movable, List.filter_map, told, List.map_map, List.map_map]
  refine List.map_congr_left ?_
  intro f hf
  have hf := (List.mem_filter.mp hf).1
  rw [sortedFindings, List.mem_mergeSort] at hf
  exact f.violation_moved (isMovable_of_mem_firstFindings movable hf) file severity

end Camelcase

/-- Under settings that are not refused, a tree that cannot be converted comes to that fault. -/
theorem lint_of_root_error [Stack] {tree : TreeInput} {fault : Fault}
    (unconverted : tree.root = .error fault) {settings : RuleSettings} {options : CamelcaseOptions}
    (file : String) (free : Camelcase.severityFault? settings = none)
    (accepted : settings.enabled.truthy = true →
      CamelcaseOptions.ofParams settings.params = .ok options) :
    (lint tree (some settings) file).2 = .error fault := by
  have checked : ∀ engine : Engine, (engine.checkTree tree file).2 = .error fault := by
    intro engine
    rw [Engine.checkTree, unconverted]
    rfl
  cases enabled : settings.enabled.truthy with
  | true =>
    rw [lint_of_enabled tree file enabled (accepted enabled), free]
    exact checked _
  | false =>
    rw [lint, Engine.loadRules, if_neg (by rw [enabled]; decide)]
    exact checked {}

open Camelcase in
/-- What a run comes to: a fault before it looks at the tree, the fault of the conversion, or the
violations of some findings in the tree, by place. -/
theorem lint_cases [Stack] (settings : Option RuleSettings) (file : String) :
    (∃ fault, ∀ tree, (lint tree settings file).2 = .error fault) ∨
    (∀ tree fault, tree.root = .error fault → (lint tree settings file).2 = .error fault) ∧
      ∃ severity found, (found = (fun _ => []) ∨
          ∃ options, found = fun root =>
            (sortedFindings file severity options root).filter Finding.isTold) ∧
        ∀ tree root, tree.root = .ok root → (∀ v ∈ root.preorder, v.node.HasPlace) →
          (lint tree settings file).2 =
            .ok ((found root).map (Finding.violation file severity)) := by
  cases settings with
  | none => exact Or.inl ⟨.noMember, fun tree => rfl⟩
  | some settings =>
    cases enabled : settings.enabled.truthy with
    | false =>
      have accepted : settings.enabled.truthy = true →
          CamelcaseOptions.ofParams settings.params = .ok {} := by
        intro on
        rw [enabled] at on
        cases on
      have free := severityFault?_of_disabled enabled
      refine Or.inr ⟨fun tree fault h => lint_of_root_error h file free accepted, .warning,
        fun _ => [], Or.inl rfl, ?_⟩
      intro tree root converted _
      exact lint_of_disabled file converted enabled
    | true =>
      cases accepted : CamelcaseOptions.ofParams settings.params with
      | error fault =>
        obtain ⟨fault, refused⟩ := lint_of_refused enabled accepted
        exact Or.inl ⟨fault, fun tree => refused tree file⟩
      | ok options =>
        cases severity : severityFault? settings with
        | some fault =>
          refine Or.inl ⟨fault, fun tree => ?_⟩
          rw [lint_of_enabled tree file enabled accepted, severity]
          rfl
        | none =>
          refine Or.inr ⟨fun tree fault h => lint_of_root_error h file severity fun _ => accepted,
            Rule.severityOf settings standardSeverity, _, Or.inr ⟨options, rfl⟩, ?_⟩
          intro tree root converted placed
          rw [lint_of_placed settings file converted enabled accepted
            fun v hv f hf => hasPlace_of_findingOn hf (placed v hv), severity]
          rfl

section Moving

variable (s : LabelledSource) (movable : ∀ d ∈ s.tree.reached, d.isMovable = true)

include movable in
/-- A run on a tree further down comes to what it came to before, moved. -/
theorem lint_moved_snd [Stack] (node : s.tree.isNode = true) (c : Int)
    (settings : Option RuleSettings)
    (file : String) :
    (lint (.source (s.tree.moved c)) settings file).2 =
      (lint (.source s.tree) settings file).2.map (List.map (Violation.moved c)) := by
  have converts := root_of_moved c node movable
  rcases lint_cases settings file with ⟨fault, refused⟩ | ⟨failed, severity, found, kept, result⟩
  · rw [refused, refused]
    rfl
  · cases converted : (TreeInput.source s.tree).root with
    | error fault =>
      rw [converted] at converts
      rw [failed _ fault converted, failed _ fault converts]
      rfl
    | ok root =>
      have nodes : ∀ v ∈ root.preorder, v.node.IsMovable := fun v hv =>
        isMovable_of_visited s movable converted hv
      have placed : ∀ v ∈ (root.moved c).preorder, v.node.HasPlace := by
        intro v hv
        rw [Node.preorder_moved] at hv
        obtain ⟨w, hw, rfl⟩ := List.mem_map.mp hv
        exact Node.hasPlace_moved (nodes w hw)
      rw [converted] at converts
      rw [result _ root converted fun v hv => (nodes v hv).hasPlace, result _ _ converts placed]
      rcases kept with rfl | ⟨options, rfl⟩
      · rfl
      · exact congrArg Except.ok (Camelcase.violations_moved nodes file severity options)

include movable in
/-- What a run reports in a movable tree are findings. -/
theorem exists_finding_of_lint [Stack] {settings : Option RuleSettings} {file : String}
    {vs : List Violation} (result : (lint (.source s.tree) settings file).2 = .ok vs)
    {v : Violation}
    (hv : v ∈ vs) :
    ∃ (f : Camelcase.Finding) (severity : Severity), v = f.violation file severity := by
  rcases lint_cases settings file with ⟨fault, refused⟩ | ⟨failed, severity, found, _, reported⟩
  · rw [refused] at result
    cases result
  · cases converted : (TreeInput.source s.tree).root with
    | error fault =>
      rw [failed _ fault converted] at result
      cases result
    | ok root =>
      rw [reported _ root converted fun v hv =>
        (isMovable_of_visited s movable converted hv).hasPlace] at result
      cases result
      obtain ⟨f, _, rfl⟩ := List.mem_map.mp hv
      exact ⟨f, severity, rfl⟩

include movable in
/-- Where settings are accepted and comments can be read, a run gives a result, unless the severity
keeps the rule from being loaded. -/
theorem exists_result_of_movable [Stack] (node : s.tree.isNode = true)
    (readable : ∀ d ∈ s.tree.reached, d.readingFault? = none) {settings : RuleSettings}
    {options : CamelcaseOptions} (accepted : settings.enabled.truthy = true →
      CamelcaseOptions.ofParams settings.params = .ok options) (file : String) :
    ∃ vs, (lint (.source s.tree) (some settings) file).2 =
      (Camelcase.severityFault? settings).elim (.ok vs) .error := by
  obtain ⟨root, converted⟩ := exists_root_of_readable s node readable
  cases enabled : settings.enabled.truthy with
  | true =>
    exact ⟨_, lint_of_placed settings file converted enabled (accepted enabled) fun v hv f hf =>
      Camelcase.hasPlace_of_findingOn hf
        (isMovable_of_visited s movable converted hv).hasPlace⟩
  | false =>
    rw [Camelcase.severityFault?_of_disabled enabled]
    exact ⟨_, lint_of_disabled file converted enabled⟩

end Moving

/-- Moving code down a file moves what is reported and changes nothing else. If every node has a
whole location, and so has every comment that has one, and the keys of properties have texts for
their names and scalars for their values, then adding a number to every line gives the violations
that there were, in the same order, with that number added to their lines. Their identifiers are
not known yet, so they are computed anew. Where the settings are accepted and the comments can be
read, there is such a result, unless the severity keeps the rule from being loaded. -/
theorem lint_of_moved [Stack] (s : LabelledSource) (c : Int) (settings : Option RuleSettings)
    (file : String) (node : s.tree.isNode = true)
    (movable : ∀ d ∈ s.tree.reached, d.isMovable = true) :
    (lint (.source (s.tree.moved c)) settings file).2 =
        (lint (.source s.tree) settings file).2.map (List.map (Violation.moved c)) ∧
      (∀ vs, (lint (.source s.tree) settings file).2 = .ok vs → ∀ v ∈ vs,
        (∃ line, v.line = .int line ∧ (v.moved c).line = .int (line + c)) ∧
          (v.moved c).identified.identifier = .text (v.moved c).computedId) ∧
      ∀ own options, settings = some own →
        (own.enabled.truthy = true → CamelcaseOptions.ofParams own.params = .ok options) →
        (∀ d ∈ s.tree.reached, d.readingFault? = none) →
        ∃ vs, (lint (.source s.tree) settings file).2 =
          (Camelcase.severityFault? own).elim (.ok vs) .error := by
  refine ⟨lint_moved_snd s movable node c settings file, ?_, ?_⟩
  · intro vs result v hv
    obtain ⟨f, severity, rfl⟩ := exists_finding_of_lint s movable result hv
    exact ⟨⟨f.node.place.1, rfl, rfl⟩, rfl⟩
  · rintro own options rfl accepted readable
    exact exists_result_of_movable s movable node readable accepted file

def lineLoc (label : Nat) (line : Int) : Source :=
  .object label
    [("start", .object (label + 1) [("line", .scalar (.int line)), ("column", .scalar (.int 2))]),
      ("end", .object (label + 2) [("line", .scalar (.int line)), ("column", .scalar (.int 9))])]

theorem lineLoc_hasLocation (label : Nat) (line : Int) :
    (lineLoc label line).HasLocation ⟨.int line, .int 2, .int line, .int 9⟩ :=
  ⟨label, _, _, _, line, 2, line, 9, rfl, rfl, ⟨label + 1, _, rfl, rfl, rfl⟩, rfl,
    ⟨label + 2, _, rfl, rfl, rfl⟩, rfl⟩

def privateKey : Source :=
  .object 1 [("type", .scalar (.text "Identifier")), ("name", .scalar (.text "_foo_bar")),
    ("loc", lineLoc 10 3)]

def farComment : List (String × Source) :=
  [("type", .scalar (.text "Block")), ("value", .scalar (.text "* @private ")),
    ("loc", lineLoc 20 1)]

def farProperty : Source :=
  .object 0 [("type", .scalar (.text "Property")), ("key", privateKey), ("loc", lineLoc 30 3),
    ("leadingComments", .list 2 [.object 3 farComment, .scalar .null])]

theorem content_farProperty : farProperty.content = [privateKey] := by
  rfl

theorem content_privateKey : privateKey.content = [.scalar (.text "_foo_bar")] := by
  rfl

theorem reached_farProperty : farProperty.reached = [privateKey, farProperty] := by
  have root : farProperty.isScalar = false := rfl
  have key : privateKey.isScalar = false := rfl
  have leaf : (Source.scalar (.text "_foo_bar")).isScalar = true := rfl
  simp [Source.reached, Source.reachedAll, content_farProperty, content_privateKey, root, key, leaf]

theorem farProperty_movable : ∀ d ∈ farProperty.reached, d.isMovable = true := by
  rw [reached_farProperty]
  intro d hd
  simp only [List.mem_cons, List.not_mem_nil, or_false] at hd
  rcases hd with rfl | rfl <;> decide

def farTag : Comment :=
  ⟨.text "Block", .text "* @private ", some ⟨.int 1, .int 2, .int 1, .int 9⟩⟩

def privateKeyNode : Node :=
  ⟨0, "Identifier", [("name", .plain (.text "_foo_bar"))],
    some ⟨.int 3, .int 2, .int 3, .int 9⟩, []⟩

def farRoot : Node :=
  ⟨1, "Property", [("key", .ofNode privateKeyNode)], some ⟨.int 3, .int 2, .int 3, .int 9⟩,
    [farTag]⟩

theorem read_farComment : Comment.read (Source.toEntries farComment) = .ok farTag := by
  simp only [Comment.read, Source.get?_toEntries]
  show (Location.read (lineLoc 20 1).toValue >>= fun loc => _) = _
  rw [(lineLoc_hasLocation 20 1).read]
  rfl

theorem root_farProperty [Stack] : (TreeInput.source farProperty).root = .ok farRoot := by
  have new : privateKey.isNew [] = true := rfl
  have leaf : ∀ known, (Source.scalar (.text "_foo_bar")).isNew known = false := fun _ => rfl
  have order : Source.enteredAll [] farProperty.content = [privateKey] := by
    simp [Source.enteredAll, content_farProperty, content_privateKey, new, leaf]
  have first : Assembly.assemble ⟨∅, 0⟩ privateKey = .ok (.ofNode privateKeyNode) := by
    show (Location.read (lineLoc 10 3).toValue >>= fun loc => _) = _
    rw [(lineLoc_hasLocation 10 3).read]
    rfl
  have second : Assembly.assemble
      ⟨(∅ : Std.HashMap Nat Item).insert 1 (.ofNode privateKeyNode), 1⟩ farProperty =
        .ok (.ofNode farRoot) := by
    show (Assembly.resolveEntries _ [("key", privateKey)] >>= fun fields =>
      Comment.readItems [.map (Source.toEntries farComment), .null] >>= fun comments =>
      Location.read (lineLoc 30 3).toValue >>= fun loc => _) = _
    rw [Assembly.resolveEntries, Assembly.resolve_insert rfl, Comment.readItems, read_farComment,
      (lineLoc_hasLocation 30 3).read]
    rfl
  rw [TreeInput.root_of_isNode rfl, order, Assembly.closeAll]
  show (Assembly.close _ privateKey >>= fun b => _) = _
  rw [Assembly.close_of_label rfl, first]
  show (Assembly.assemble _ farProperty >>= fun item => _) = _
  rw [second]
  rfl

theorem preorder_farRoot :
    farRoot.preorder = [⟨farRoot, []⟩, ⟨privateKeyNode, [farRoot]⟩] := by
  rw [← Node.walk_eq_preorder]
  simp [farRoot, privateKeyNode, Node.walk, Visit.walk, Visit.children, Visit.visitsTo,
    Node.children, Node.childrenIn, Item.ofNode]

theorem hasPrivateTag_farRoot : farRoot.hasPrivateTag = .ok false := by
  have far : Comment.isNear (.int 3) (.int 1) = .ok false := congrArg Except.ok (by decide)
  have marks : farTag.marksPrivate (.int 3) = .ok false := by
    unfold Comment.marksPrivate farTag
    dsimp only
    rw [if_neg (by decide +kernel), if_neg (by decide +kernel), far]
    rfl
  show Comment.anyMarksPrivate (.int 3) [farTag] = _
  rw [Comment.anyMarksPrivate, marks]
  rfl

def farFinding : Camelcase.Finding :=
  ⟨farRoot, Camelcase.propertyType, .plain (.text "_foo_bar")⟩

open Camelcase in
theorem checkProperty_farRoot [Stack] : checkProperty farRoot {} = .ok (some farFinding) := by
  have hidden : isPrivateName (.plain (.text "_foo_bar")) = .ok true :=
    congrArg Except.ok (by decide +kernel)
  have misspelled : isMisspelled (.plain (.text "_foo_bar")) = .ok true :=
    congrArg Except.ok (by decide +kernel)
  exact checkProperty_eq_some_iff.mpr ⟨privateKeyNode, _, true, rfl, rfl, hidden,
    ⟨by decide, hasPrivateTag_farRoot, rfl⟩, misspelled, rfl⟩

open Camelcase in
theorem firstFindings_farRoot [Stack] : firstFindings {} farRoot.preorder = [farFinding] := by
  have root : findingOn {} ⟨farRoot, []⟩ = some farFinding :=
    (findingOn_of_property rfl).mpr checkProperty_farRoot
  have key : findingOn {} ⟨privateKeyNode, [farRoot]⟩ = none := rfl
  rw [preorder_farRoot]
  simp [firstFindings, note, root, key]

open scoped Stack in
/-- A property is reported with its line; one line further up it still is. -/
theorem lint_of_moved_farProperty :
    farProperty.Coherent ∧ farProperty.isNode = true ∧
    (∀ d ∈ farProperty.reached, d.isMovable = true) ∧
    (lint (.source farProperty) (some {}) "a.js").2.map (List.map Violation.line) =
      .ok [.int 3] ∧
    (lint (.source (farProperty.moved (-1))) (some {}) "a.js").2.map (List.map Violation.line) =
      .ok [.int 2] := by
  have coherent : farProperty.Coherent :=
    coherent_of_reached_pair reached_farProperty (by decide)
  have reported : ∃ v : Violation, v.line = .int 3 ∧
      (lint (.source farProperty) (some {}) "a.js").2 = .ok [v] := by
    refine ⟨farFinding.violation "a.js" (Rule.severityOf {} Camelcase.standardSeverity), rfl, ?_⟩
    have free : Camelcase.severityFault? {} = none :=
      Camelcase.severityFault?_of_null rfl (by decide)
    have told : farFinding.isTold = true := Camelcase.Finding.isTold_of_text rfl
    rw [lint_of_placed _ "a.js" root_farProperty rfl rfl fun v hv f hf =>
      Camelcase.hasPlace_of_findingOn hf
        (isMovable_of_visited ⟨farProperty, coherent⟩ farProperty_movable
          root_farProperty hv).hasPlace, free,
      Camelcase.sortedFindings, firstFindings_farRoot, List.mergeSort_singleton,
      List.filter_singleton, told]
    rfl
  obtain ⟨v, line, result⟩ := reported
  have moved := (lint_of_moved ⟨farProperty, coherent⟩ (-1)
    (some {}) "a.js" rfl farProperty_movable).1
  refine ⟨coherent, rfl, farProperty_movable, ?_, ?_⟩
  · rw [result]
    exact congrArg (fun l => Except.ok [l]) line
  · rw [moved, result]
    show Except.ok [v.line.moved (-1)] = _
    rw [line]
    rfl

end NameLint
