import NameLint.Proofs.TreeFindings

/-!
# Options only exempt

A property is reported if it passes every exemption, so names to ignore that are
added, in whatever order and however often, and the exemption of quoted keys can
only take findings away. They take them away by the property alone, not by the
visit, so what is left is the run with fewer exemptions less some of its
properties, in the same order. Identifiers have no exemptions.
-/

namespace NameLint

namespace IgnorePattern

/-- The patterns of entries are those of the single entries. -/
theorem mem_ofEntries [Stack] {entries : List String} {patterns : List IgnorePattern}
    (accepted : ofEntries entries = .ok patterns) {p : IgnorePattern} :
    p ∈ patterns ↔ ∃ entry ∈ entries, ofEntry entry = .ok p := by
  induction entries generalizing patterns with
  | nil =>
    cases accepted
    simp
  | cons entry rest ih =>
    obtain ⟨first, own, accepted⟩ := Fault.bind_eq_ok.mp accepted
    obtain ⟨others, later, accepted⟩ := Fault.bind_eq_ok.mp accepted
    cases accepted
    rw [List.mem_cons, ih later]
    constructor
    · rintro (rfl | ⟨entry', member, compiled⟩)
      · exact ⟨entry, List.mem_cons_self, own⟩
      · exact ⟨entry', List.mem_cons_of_mem _ member, compiled⟩
    · rintro ⟨entry', member, compiled⟩
      rcases List.mem_cons.mp member with rfl | member
      · exact Or.inl (Except.ok.inj (compiled.symm.trans own))
      · exact Or.inr ⟨entry', member, compiled⟩

/-- A name passes if no pattern holds for it and none fails. -/
theorem anyHolds_eq_false {name : Item} {patterns : List IgnorePattern} :
    anyHolds name patterns = .ok false ↔ ∀ p ∈ patterns, p.holds name = .ok false := by
  induction patterns with
  | nil =>
    constructor
    · intro _ p hp
      cases hp
    · intro _
      rfl
  | cons p rest ih =>
    rw [anyHolds, Fault.bind_eq_ok, List.forall_mem_cons, ← ih]
    constructor
    · rintro ⟨held, own, later⟩
      cases held with
      | true => cases later
      | false => exact ⟨own, later⟩
    · rintro ⟨own, later⟩
      exact ⟨false, own, later⟩

end IgnorePattern

namespace CamelcaseOptions

def entriesOf (params : Value) : Entries :=
  params.entries?.getD []

def ignoredNames [Stack] (params : Value) : List String :=
  match ignoreEntries (entriesOf params) with
  | .ok names => names
  | .error _ => []

def exemptsQuoted [Stack] (params : Value) : Bool :=
  match quoteOption (entriesOf params) with
  | .ok exempt => exempt
  | .error _ => true

/-- What the options of accepted parameters are. -/
theorem ofParams_eq_ok [Stack] {params : Value} {options : CamelcaseOptions}
    (accepted : ofParams params = .ok options) :
    IgnorePattern.ofEntries (ignoredNames params) = .ok options.ignore ∧
      options.exemptQuoted = exemptsQuoted params := by
  have read : ofEntries (entriesOf params) = .ok options := by
    cases params with
    | null => exact accepted
    | map entries => exact accepted
    | _ => cases accepted
  obtain ⟨names, named, read⟩ := Fault.bind_eq_ok.mp read
  obtain ⟨exempt, quoted, read⟩ := Fault.bind_eq_ok.mp read
  obtain ⟨patterns, compiled, read⟩ := Fault.bind_eq_ok.mp read
  cases read
  unfold ignoredNames exemptsQuoted
  rw [named, quoted]
  exact ⟨compiled, rfl⟩

/-- Whether the second options exempt whatever the first do. -/
structure Within (a b : CamelcaseOptions) : Prop where
  ignore : a.ignore ⊆ b.ignore
  quoted : a.exemptQuoted = true → b.exemptQuoted = true

theorem within_of_params [Stack] {p q : Value} {a b : CamelcaseOptions} (ha : ofParams p = .ok a)
    (hb : ofParams q = .ok b) (names : ignoredNames p ⊆ ignoredNames q)
    (quoted : exemptsQuoted p = true → exemptsQuoted q = true) : a.Within b := by
  obtain ⟨compiled, exempt⟩ := ofParams_eq_ok ha
  obtain ⟨compiled', exempt'⟩ := ofParams_eq_ok hb
  refine ⟨?_, ?_⟩
  · intro pattern member
    obtain ⟨entry, hentry, own⟩ := (IgnorePattern.mem_ofEntries compiled).mp member
    exact (IgnorePattern.mem_ofEntries compiled').mpr ⟨entry, names hentry, own⟩
  · rw [exempt, exempt']
    exact quoted

end CamelcaseOptions

namespace Camelcase

def isMarked (n : Node) (isPrivate : Bool) : Except Fault Bool :=
  if isPrivate then n.hasPrivateTag else return false

/-- What the exemptions ask of a property before its spelling counts: the key is not a quoted one,
the property is not marked as private, and the name is not to be ignored. -/
structure Passes (options : CamelcaseOptions) (n key : Node) (name : Item) (isPrivate : Bool) :
    Prop where
  unquoted : (options.exemptQuoted && key.isType "Literal" && !isPrivate) = false
  unmarked : isMarked n isPrivate = .ok false
  unignored : IgnorePattern.anyHolds name options.ignore = .ok false

theorem Passes.of_within {a b : CamelcaseOptions} (within : a.Within b) {n key : Node} {name : Item}
    {isPrivate : Bool} (passes : Passes b n key name isPrivate) :
    Passes a n key name isPrivate := by
  refine ⟨?_, passes.unmarked, ?_⟩
  · have unquoted := passes.unquoted
    have quoted := within.quoted
    cases hb : b.exemptQuoted with
    | true =>
      rw [hb, Bool.true_and] at unquoted
      rw [Bool.and_assoc, unquoted, Bool.and_false]
    | false =>
      have ha : a.exemptQuoted = false := by
        rw [hb] at quoted
        simpa using quoted
      rw [ha]
      rfl
  · rw [IgnorePattern.anyHolds_eq_false]
    intro pattern member
    exact IgnorePattern.anyHolds_eq_false.mp passes.unignored pattern (within.ignore member)

/-- The tests of a property whose key has a name, one after the other. -/
def judge (options : CamelcaseOptions) (n key : Node) (name : Item) :
    Except Fault (Option Finding) := do
  let isPrivate ← isPrivateName name
  if options.exemptQuoted && key.isType "Literal" && !isPrivate then return none
  else
    let marked ← isMarked n isPrivate
    if marked then return none
    else
      let ignored ← IgnorePattern.anyHolds name options.ignore
      if ignored then return none
      else
        let misspelled ← isMisspelled name
        return if misspelled then some ⟨n, propertyType, name⟩ else none

theorem checkProperty_eq_judge [Stack] {n key : Node} {name : Item}
    (hkey : n.child? "key" = some key) (hname : key.keyName? = .ok (some name))
    (options : CamelcaseOptions) :
    checkProperty n options = judge options n key name := by
  -- The tests of the spelling, which come last in every case.
  have spelling : (do
      if ← IgnorePattern.anyHolds name options.ignore then return none
      if ← isMisspelled name then return some ⟨n, propertyType, name⟩
      return none : Except Fault (Option Finding)) = (do
      let ignored ← IgnorePattern.anyHolds name options.ignore
      if ignored then return none
      else
        let misspelled ← isMisspelled name
        return if misspelled then some ⟨n, propertyType, name⟩ else none) := by
    cases IgnorePattern.anyHolds name options.ignore with
    | error fault => rfl
    | ok ignored =>
      cases ignored with
      | true => rfl
      | false =>
        cases isMisspelled name with
        | error fault => rfl
        | ok misspelled => cases misspelled <;> rfl
  unfold checkProperty judge
  rw [hkey]
  dsimp only
  rw [hname]
  show (isPrivateName name >>= fun _ => _) = (isPrivateName name >>= fun _ => _)
  cases isPrivateName name with
  | error fault => rfl
  | ok isPrivate =>
    show (if _ then _ else _) = (if _ then _ else _)
    split
    · rfl
    · cases isPrivate with
      | false => exact spelling
      | true =>
        show (n.hasPrivateTag >>= fun _ => _) = (n.hasPrivateTag >>= fun _ => _)
        cases n.hasPrivateTag with
        | error fault => rfl
        | ok marked =>
          cases marked with
          | true => rfl
          | false => exact spelling

/-- A property is reported if and only if its key has a name that passes all exemptions and is in
the wrong spelling. -/
theorem checkProperty_eq_some_iff [Stack] {n : Node} {options : CamelcaseOptions} {f : Finding} :
    checkProperty n options = .ok (some f) ↔
      ∃ key name isPrivate, n.child? "key" = some key ∧ key.keyName? = .ok (some name) ∧
        isPrivateName name = .ok isPrivate ∧ Passes options n key name isPrivate ∧
        isMisspelled name = .ok true ∧ f = ⟨n, propertyType, name⟩ := by
  constructor
  · intro h
    obtain ⟨_, _, key, hkey, hname⟩ := checkProperty_tells h
    generalize f.name = name at hname
    rw [checkProperty_eq_judge hkey hname] at h
    obtain ⟨isPrivate, hprivate, h⟩ := Fault.bind_eq_ok.mp h
    split at h
    · cases h
    · rename_i unquoted
      obtain ⟨marked, hmarked, h⟩ := Fault.bind_eq_ok.mp h
      split at h
      · cases h
      · rename_i unmarked
        obtain ⟨ignored, hignored, h⟩ := Fault.bind_eq_ok.mp h
        split at h
        · cases h
        · rename_i unignored
          obtain ⟨misspelled, spelled, h⟩ := Fault.bind_eq_ok.mp h
          obtain rfl := Bool.eq_false_iff.mpr unmarked
          obtain rfl := Bool.eq_false_iff.mpr unignored
          cases misspelled with
          | false => cases h
          | true =>
            cases h
            exact ⟨key, name, isPrivate, hkey, hname, hprivate,
              ⟨Bool.eq_false_iff.mpr unquoted, hmarked, hignored⟩, spelled, rfl⟩
  · rintro ⟨key, name, isPrivate, hkey, hname, hprivate, passes, spelled, rfl⟩
    rw [checkProperty_eq_judge hkey hname, judge, hprivate]
    show (if _ then _ else _) = _
    rw [if_neg (by rw [passes.unquoted]; decide), passes.unmarked]
    show (IgnorePattern.anyHolds name options.ignore >>= fun _ => _) = _
    rw [passes.unignored]
    show (isMisspelled name >>= fun _ => _) = _
    rw [spelled]
    rfl

/-- Fewer exemptions report whatever more of them report. -/
theorem checkProperty_of_within [Stack] {a b : CamelcaseOptions} (within : a.Within b) {n : Node}
    {f : Finding} (reported : checkProperty n b = .ok (some f)) :
    checkProperty n a = .ok (some f) := by
  obtain ⟨key, name, isPrivate, hkey, hname, hprivate, passes, rest⟩ :=
    checkProperty_eq_some_iff.mp reported
  exact checkProperty_eq_some_iff.mpr
    ⟨key, name, isPrivate, hkey, hname, hprivate, passes.of_within within, rest⟩

theorem findingOn_of_property [Stack] {options : CamelcaseOptions} {v : Visit} {f : Finding}
    (property : v.node.type = "Property") :
    findingOn options v = some f ↔ checkProperty v.node options = .ok (some f) := by
  have other : ¬ v.node.type = "Identifier" := by
    rw [property]
    decide
  rw [findingOn, if_neg other, if_pos property]
  cases checkProperty v.node options with
  | error fault => simp
  | ok finding => simp

/-- Whether the options leave a finding: all those about identifiers, and those about properties
that are reported under them. -/
def isLeft [Stack] (options : CamelcaseOptions) (f : Finding) : Bool :=
  f.subType.id == identifierType.id || (findingOn options ⟨f.node, []⟩).isSome

theorem isLeft_of_identifier [Stack] (options : CamelcaseOptions) {f : Finding}
    (identifier : f.subType.id = identifierType.id) : isLeft options f = true := by
  rw [isLeft, identifier, beq_self_eq_true, Bool.true_or]

/-- On every visit, more exemptions find what fewer find, or nothing. -/
theorem findingOn_of_within [Stack] {a b : CamelcaseOptions} (within : a.Within b) (v : Visit) :
    findingOn b v = (findingOn a v).filter (isLeft b) := by
  by_cases identifier : v.node.type = "Identifier"
  · rw [findingOn, findingOn, if_pos identifier, if_pos identifier]
    cases checked : checkIdentifier v.node v.ancestors with
    | none => rfl
    | some f =>
      have subType := congrArg SubType.id (checkIdentifier_tells checked).2.1
      rw [Option.filter_some, isLeft_of_identifier b subType, if_pos rfl]
  · by_cases property : v.node.type = "Property"
    · -- A property is judged by itself, whatever stands above it.
      have alone : ∀ f, findingOn b v = some f ↔ findingOn b ⟨v.node, []⟩ = some f := by
        intro f
        rw [findingOn_of_property property]
        exact (findingOn_of_property (v := ⟨v.node, []⟩) property).symm
      cases less : findingOn a v with
      | none =>
        cases more : findingOn b v with
        | none => rfl
        | some f =>
          rw [findingOn_of_property property] at more
          rw [(findingOn_of_property property).mpr (checkProperty_of_within within more)] at less
          cases less
      | some f =>
        obtain ⟨node, subType, _⟩ :=
          checkProperty_tells ((findingOn_of_property property).mp less)
        have left : isLeft b f = (findingOn b ⟨v.node, []⟩).isSome := by
          rw [isLeft, node, subType]
          rfl
        rw [Option.filter_some, left]
        cases more : findingOn b v with
        | none =>
          have none : findingOn b ⟨v.node, []⟩ = none := by
            rw [Option.eq_none_iff_forall_ne_some] at more ⊢
            intro g hg
            exact more g ((alone g).mpr hg)
          rw [none]
          rfl
        | some g =>
          rw [(alone g).mp more]
          rw [findingOn_of_property property] at more
          rw [(findingOn_of_property property).mpr (checkProperty_of_within within more)] at less
          exact less
    · rw [findingOn, findingOn, if_neg identifier, if_neg property, if_neg identifier,
        if_neg property]
      rfl

/-- One visit keeps the relation between a run with fewer exemptions and one with more. -/
theorem note_of_within [Stack] {a b : CamelcaseOptions} (within : a.Within b) {root : Node}
    (numbers : root.NumbersTell) {earlier : List Visit} (inside : earlier ⊆ root.preorder)
    {found : List Finding} (kept : KeepsFirst a earlier found) {v : Visit}
    (visited : v ∈ root.preorder) :
    note b (found.filter (isLeft b)) v = (note a found v).filter (isLeft b) := by
  unfold note
  rw [findingOn_of_within within]
  cases gave : findingOn a v with
  | none => rfl
  | some f =>
    rw [Option.filter_some]
    by_cases left : isLeft b f = true
    · -- A finding with the same key is the same finding, so it is left as well.
      have known : f.key ∈ (found.filter (isLeft b)).map Finding.key ↔
          f.key ∈ found.map Finding.key := by
        constructor
        · intro h
          obtain ⟨g, hg, same⟩ := List.mem_map.mp h
          exact List.mem_map.mpr ⟨g, (List.mem_filter.mp hg).1, same⟩
        · intro h
          obtain ⟨g, hg, same⟩ := List.mem_map.mp h
          obtain ⟨w, at?, gave'⟩ := kept.first g hg
          obtain rfl := finding_eq_of_key numbers (inside (List.mem_of_getElem? at?)) visited
            gave' gave same
          exact List.mem_map.mpr ⟨g, List.mem_filter.mpr ⟨hg, left⟩, rfl⟩
      rw [if_pos left]
      dsimp only
      by_cases old : f.key ∈ found.map Finding.key
      · rw [if_pos old, if_pos (known.mpr old)]
      · rw [if_neg old, if_neg fun h => old (known.mp h), List.filter_append,
          List.filter_cons_of_pos left, List.filter_nil]
    · rw [if_neg left]
      dsimp only
      split
      · rfl
      · rw [List.filter_append, List.filter_cons_of_neg left, List.filter_nil, List.append_nil]

theorem foldl_note_of_within [Stack] {a b : CamelcaseOptions} (within : a.Within b) {root : Node}
    (numbers : root.NumbersTell) {earlier visits : List Visit} (inside : earlier ⊆ root.preorder)
    (ahead : visits ⊆ root.preorder) {found : List Finding} (kept : KeepsFirst a earlier found) :
    visits.foldl (note b) (found.filter (isLeft b)) =
      (visits.foldl (note a) found).filter (isLeft b) := by
  induction visits generalizing earlier found with
  | nil => rfl
  | cons v rest ih =>
    obtain ⟨visited, later⟩ := List.cons_subset.mp ahead
    rw [List.foldl_cons, List.foldl_cons, note_of_within within numbers inside kept visited]
    apply ih ?_ later (kept.note v)
    rw [List.append_subset]
    exact ⟨inside, List.cons_subset.mpr ⟨visited, List.nil_subset _⟩⟩

/-- More exemptions keep the findings of fewer that they leave. -/
theorem firstFindings_of_within [Stack] {a b : CamelcaseOptions} (within : a.Within b) {root : Node}
    (numbers : root.NumbersTell) :
    firstFindings b root.preorder = (firstFindings a root.preorder).filter (isLeft b) :=
  foldl_note_of_within within numbers (List.nil_subset _) (List.Subset.refl _)
    (firstFindings_keepsFirst a [])

theorem sortedFindings_of_within [Stack] {a b : CamelcaseOptions} (within : a.Within b)
    {root : Node}
    (numbers : root.NumbersTell) (file : String) (severity : Severity) :
    sortedFindings file severity b root =
      (sortedFindings file severity a root).filter (isLeft b) := by
  unfold sortedFindings
  rw [firstFindings_of_within within numbers,
    StableSort.filter_mergeSort (Finding.inOrder_trans file severity)
      (Finding.inOrder_total file severity)]

end Camelcase

def Violation.isOf (t : SubType) (v : Violation) : Bool :=
  v.subType.text? == some t.id

open Camelcase in
/-- A run with more exemptions gives part of what a run with fewer gives, in the same order, and the
same violations at identifiers. -/
theorem sublist_of_within [Stack] {a b : CamelcaseOptions} (within : a.Within b) {root : Node}
    (numbers : root.NumbersTell) (file : String) (severity : Severity) :
    let violations (options : CamelcaseOptions) : List Violation :=
      ((sortedFindings file severity options root).filter Finding.isTold).map
        (Finding.violation file severity)
    (violations b).Sublist (violations a) ∧
      (violations b).filter (Violation.isOf identifierType) =
        (violations a).filter (Violation.isOf identifierType) := by
  intro violations
  have left : violations b =
      (((sortedFindings file severity a root).filter Finding.isTold).filter (isLeft b)).map
        (Finding.violation file severity) := by
    simp only [violations]
    rw [sortedFindings_of_within within numbers, List.filter_filter, List.filter_filter]
    simp only [Bool.and_comm]
  rw [left]
  refine ⟨List.filter_sublist.map _, ?_⟩
  rw [List.filter_map, List.filter_map, List.filter_filter]
  congr 1
  apply List.filter_congr
  intro f _
  -- What is about an identifier is left under all options.
  cases identifier : (Violation.isOf identifierType ∘ Finding.violation file severity) f with
  | false => rw [Bool.false_and]
  | true =>
    have same : f.subType.id = identifierType.id := by
      simpa [Violation.isOf, Finding.violation, Value.text?] using identifier
    rw [isLeft_of_identifier b same, Bool.and_true]

open CamelcaseOptions Camelcase in
/-- Options only exempt, and only properties: under parameters with more names to ignore, in any
order and with any repetitions, or with the exemption of quoted keys, a run gives part of what it
gives under those with fewer, in the same order, with all violations at identifiers. Parameters
with the same names and the same exemption give the same result. Where the severity keeps the rule
from being loaded, it does so under either. -/
theorem lint_under_more_exemptions [Stack] (input : NumberedInput) (root : Node) (file : String)
    (settings : RuleSettings) (p q : Value) (a b : CamelcaseOptions)
    (converted : input.tree.root = .ok root) (ha : ofParams p = .ok a) (hb : ofParams q = .ok b)
    (names : ignoredNames p ⊆ ignoredNames q)
    (quoted : exemptsQuoted p = true → exemptsQuoted q = true)
    (placed : ∀ v ∈ root.preorder, ∀ f, findingOn a v = some f → f.node.HasPlace) :
    (∀ fault, severityFault? settings = some fault →
      (lint input.tree (some { settings with params := p }) file).2 = .error fault ∧
        (lint input.tree (some { settings with params := q }) file).2 = .error fault) ∧
    (severityFault? settings = none →
      ∃ fewer more, (lint input.tree (some { settings with params := p }) file).2 = .ok more ∧
        (lint input.tree (some { settings with params := q }) file).2 = .ok fewer ∧
        fewer.Sublist more ∧
        fewer.filter (Violation.isOf identifierType) =
          more.filter (Violation.isOf identifierType) ∧
        (ignoredNames q ⊆ ignoredNames p → (exemptsQuoted q = true → exemptsQuoted p = true) →
          fewer = more)) := by
  have within := within_of_params ha hb names quoted
  have numbers := input.root_numbersTell converted
  have placed' : ∀ v ∈ root.preorder, ∀ f, findingOn b v = some f → f.node.HasPlace := by
    intro v hv f hf
    rw [findingOn_of_within within] at hf
    exact placed v hv f (Option.eq_some_of_filter_eq_some hf)
  have same (params : Value) : severityFault? { settings with params := params } =
      severityFault? settings := rfl
  cases enabled : settings.enabled.truthy with
  | false =>
    have free := severityFault?_of_disabled enabled
    rw [free]
    refine ⟨nofun, fun _ => ⟨[], [], lint_of_disabled file converted enabled,
      lint_of_disabled file converted enabled, List.Sublist.refl _, rfl, fun _ _ => rfl⟩⟩
  | true =>
    have more := lint_of_placed { settings with params := p } file converted enabled ha placed
    have fewer := lint_of_placed { settings with params := q } file converted enabled hb placed'
    dsimp only at more fewer
    rw [same] at more fewer
    constructor
    · intro fault keeps
      rw [more, fewer, keeps]
      exact ⟨rfl, rfl⟩
    · intro free
      rw [free, Option.elim_none] at more fewer
      obtain ⟨sublist, identifiers⟩ := sublist_of_within within numbers file
        (Rule.severityOf settings standardSeverity)
      refine ⟨_, _, more, fewer, sublist, identifiers, ?_⟩
      intro names' quoted'
      have within' := within_of_params hb ha names' quoted'
      exact sublist.antisymm (sublist_of_within within' numbers file _).1

def propertyAndName : Node :=
  let key : Item := .node 3 "Identifier" [("name", .plain (.text "foo_bar"))] none []
  ⟨0, "Program", [("first", .node 2 "Property" [("key", key)] none []),
    ("test", .ofNode underscoredName)], none, []⟩

theorem preorder_propertyAndName :
    ∃ property key : Node, property.id = 2 ∧ key.id = 3 ∧ property.loc = none ∧ key.loc = none ∧
      propertyAndName.preorder =
        [⟨propertyAndName, []⟩, ⟨property, [propertyAndName]⟩, ⟨key, [property, propertyAndName]⟩,
          ⟨underscoredName, [propertyAndName]⟩] := by
  refine ⟨⟨2, "Property", [("key", .node 3 "Identifier" [("name", .plain (.text "foo_bar"))] none
    [])], none, []⟩, ⟨3, "Identifier", [("name", .plain (.text "foo_bar"))], none, []⟩, rfl, rfl,
    rfl, rfl, ?_⟩
  rw [← Node.walk_eq_preorder]
  simp [propertyAndName, Node.walk, Visit.walk, Visit.children, Visit.visitsTo, Node.children,
    Node.childrenIn, underscoredName, Item.ofNode]

theorem propertyAndName_placed : ∀ v ∈ propertyAndName.preorder, v.node.HasPlace := by
  obtain ⟨property, key, _, _, nowhere, nowhere', visits⟩ := preorder_propertyAndName
  rw [visits]
  intro v hv loc hloc
  simp only [List.mem_cons, List.not_mem_nil, or_false] at hv
  rcases hv with rfl | rfl | rfl | rfl
  · cases hloc
  · rw [nowhere] at hloc
    cases hloc
  · rw [nowhere'] at hloc
    cases hloc
  · cases hloc
    exact ⟨1, 4, rfl, rfl⟩

theorem propertyAndName_numbersTell : propertyAndName.NumbersTell := by
  obtain ⟨property, key, two, three, _, _, visits⟩ := preorder_propertyAndName
  rw [Node.NumbersTell, visits]
  intro v hv w hw same
  have zero : propertyAndName.id = 0 := rfl
  have one : underscoredName.id = 1 := rfl
  simp only [List.mem_cons, List.not_mem_nil, or_false] at hv hw
  rcases hv with rfl | rfl | rfl | rfl <;> rcases hw with rfl | rfl | rfl | rfl <;>
    first | rfl | (dsimp only at same; omega)

def fewerExemptions : Value :=
  .map [(.text "ignore", .list [.text "qux_x"]), (.text "quote", .bool false)]

/-- The same name twice, after a regular expression, and quoted keys. -/
def moreExemptions : Value :=
  .map [(.text "ignore", .list [.text "/^foo/", .text "qux_x", .text "qux_x"])]

open scoped Stack in
/-- The property can be exempt, the identifier is not. -/
theorem lint_propertyAndName_under_more_exemptions :
    ∃ fewer more,
      (lint (.node propertyAndName) (some { params := fewerExemptions }) "a.js").2 = .ok more ∧
      (lint (.node propertyAndName) (some { params := moreExemptions }) "a.js").2 = .ok fewer ∧
      fewer.Sublist more ∧
      fewer.filter (Violation.isOf Camelcase.identifierType) =
        more.filter (Violation.isOf Camelcase.identifierType) := by
  have readable : ∀ p ∈ [fewerExemptions, moreExemptions],
      (CamelcaseOptions.ofParams p).toOption.isSome = true := by decide +kernel
  have accepted : ∀ p ∈ [fewerExemptions, moreExemptions],
      ∃ options, CamelcaseOptions.ofParams p = .ok options := by
    intro p hp
    have read := readable p hp
    cases h : CamelcaseOptions.ofParams p with
    | error fault => rw [h] at read; cases read
    | ok options => exact ⟨options, rfl⟩
  obtain ⟨a, ha⟩ := accepted fewerExemptions (by simp)
  obtain ⟨b, hb⟩ := accepted moreExemptions (by simp)
  have free : Camelcase.severityFault? {} = none := Camelcase.severityFault?_of_null rfl (by decide)
  obtain ⟨fewer, more, hmore, hfewer, sublist, identifiers, _⟩ :=
    (lint_under_more_exemptions ⟨.node propertyAndName, propertyAndName_numbersTell⟩
      propertyAndName "a.js" {} fewerExemptions moreExemptions a b rfl ha hb (by decide +kernel)
      (by decide +kernel) fun v hv f hf =>
        Camelcase.hasPlace_of_findingOn hf (propertyAndName_placed v hv)).2 free
  exact ⟨fewer, more, hmore, hfewer, sublist, identifiers⟩

end NameLint
