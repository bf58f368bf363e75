import NameLint.Proofs.RuleIsolation

/-!
# What a run of the naming rule finds

A visit gives at most one finding, at an identifier or at a property. The run
keeps the first finding for each node and sub type; later ones for the same pair
are passed over, even if an earlier visit to the node gave none. What the rule
records are the findings kept, in the order of the visits that gave them.
-/

namespace NameLint

namespace Camelcase

/-- What is found on a visit: at an identifier below its ancestors, or at a property whose check
does not fail. -/
def findingOn [Stack] (options : CamelcaseOptions) (v : Visit) : Option Finding :=
  if v.node.type = "Identifier" then checkIdentifier v.node v.ancestors
  else if v.node.type = "Property" then
    match checkProperty v.node options with
    | .ok finding => finding
    | .error _ => none
  else none

/-- The node and the sub type that a finding is about. -/
def Finding.key (f : Finding) : Nat × String :=
  (f.node.id, f.subType.id)

/-- Whether something about a node and a sub type is found on a visit. -/
def Finds [Stack] (options : CamelcaseOptions) (key : Nat × String) (v : Visit) : Prop :=
  ∃ f, findingOn options v = some f ∧ f.key = key

/-- The number of the first visit with a finding about a node and a sub type. -/
def firstVisit [Stack] (options : CamelcaseOptions) (visits : List Visit)
    (key : Nat × String) : Nat :=
  visits.findIdx fun v => (findingOn options v).any fun f => f.key == key

/-- What a finding says is the node's own: an identifier's name as it is spelled, or the name of a
property's key. -/
def Finding.Tells [Stack] (f : Finding) (n : Node) : Prop :=
  f.node = n ∧
    (n.type = "Identifier" ∧ f.subType = identifierType ∧ f.name = n.name ∨
      n.type = "Property" ∧ f.subType = propertyType ∧
        ∃ key, n.child? "key" = some key ∧ key.keyName? = .ok (some f.name))

theorem checkIdentifier_tells {n : Node} {ancestors : List Node} {f : Finding}
    (h : checkIdentifier n ancestors = some f) :
    f.node = n ∧ f.subType = identifierType ∧ f.name = n.name := by
  unfold checkIdentifier at h
  split at h
  · cases h
  · split at h
    · cases h
      exact ⟨rfl, rfl, rfl⟩
    · cases h

/-- The last tests of a key's name: it is not to be ignored, and it is in the wrong spelling. -/
theorem eq_of_spelling_tests {n : Node} {options : CamelcaseOptions} {name : Item} {f : Finding}
    (h : (do
        if ← IgnorePattern.anyHolds name options.ignore then return none
        if ← isMisspelled name then return some ⟨n, propertyType, name⟩
        return none : Except Fault (Option Finding)) = .ok (some f)) :
    f = ⟨n, propertyType, name⟩ := by
  obtain ⟨ignored, _, h⟩ := Fault.bind_eq_ok.mp h
  split at h
  · cases h
  · obtain ⟨misspelled, _, h⟩ := Fault.bind_eq_ok.mp h
    split at h
    · cases h
      rfl
    · cases h

theorem checkProperty_tells [Stack] {n : Node} {options : CamelcaseOptions} {f : Finding}
    (h : checkProperty n options = .ok (some f)) :
    f.node = n ∧ f.subType = propertyType ∧ ∃ key, n.child? "key" = some key ∧
      key.keyName? = .ok (some f.name) := by
  unfold checkProperty at h
  split at h
  · cases h
  · rename_i key hkey
    obtain ⟨name, hname, h⟩ := Fault.bind_eq_ok.mp h
    cases name with
    | none => cases h
    | some name =>
      have tells : f = ⟨n, propertyType, name⟩ := by
        obtain ⟨isPrivate, _, h⟩ := Fault.bind_eq_ok.mp h
        split at h
        · cases h
        · dsimp only at h
          split at h
          · obtain ⟨tagged, _, h⟩ := Fault.bind_eq_ok.mp h
            split at h
            · cases h
            · exact eq_of_spelling_tests h
          · exact eq_of_spelling_tests h
      subst tells
      exact ⟨rfl, rfl, key, hkey, hname⟩

theorem checkIdentifier_text {n : Node} {ancestors : List Node} {f : Finding}
    (h : checkIdentifier n ancestors = some f) : ∃ name, f.name = .plain (.text name) := by
  have named := (checkIdentifier_tells h).2.2
  unfold checkIdentifier at h
  split at h
  · cases h
  · rename_i name text
    refine ⟨name, named.trans ?_⟩
    unfold Item.text? at text
    split at text
    · rename_i own
      cases text
      exact own
    · cases text

/-- A finding comes from the check of an identifier or from that of a property. -/
theorem findingOn_cases [Stack] {options : CamelcaseOptions} {v : Visit} {f : Finding}
    (h : findingOn options v = some f) :
    (v.node.type = "Identifier" ∧ checkIdentifier v.node v.ancestors = some f) ∨
      (v.node.type = "Property" ∧ checkProperty v.node options = .ok (some f)) := by
  unfold findingOn at h
  split at h
  · rename_i type
    exact Or.inl ⟨type, h⟩
  · split at h
    · rename_i type
      split at h
      · rename_i finding checked
        subst h
        exact Or.inr ⟨type, checked⟩
      · cases h
    · cases h

theorem findingOn_tells [Stack] {options : CamelcaseOptions} {v : Visit} {f : Finding}
    (h : findingOn options v = some f) : f.Tells v.node := by
  rcases findingOn_cases h with ⟨type, checked⟩ | ⟨type, checked⟩
  · obtain ⟨node, subType, name⟩ := checkIdentifier_tells checked
    exact ⟨node, Or.inl ⟨type, subType, name⟩⟩
  · obtain ⟨node, subType, name⟩ := checkProperty_tells checked
    exact ⟨node, Or.inr ⟨type, subType, name⟩⟩

theorem findingOn_subType [Stack] {options : CamelcaseOptions} {v : Visit} {f : Finding}
    (h : findingOn options v = some f) :
    f.subType = identifierType ∨ f.subType = propertyType := by
  rcases (findingOn_tells h).2 with ⟨_, subType, _⟩ | ⟨_, subType, _⟩
  · exact Or.inl subType
  · exact Or.inr subType

/-- The rule reports on a visit what is found there. -/
theorem reports_ruleWith [Stack] (settings : RuleSettings) (options : CamelcaseOptions)
    (v : Visit) :
    ((ruleWith settings options).outcome v).reports =
      (findingOn options v).toList.map Finding.report := by
  unfold Rule.outcome ruleWith findingOn
  dsimp only
  rw [List.lookup_cons, List.lookup_cons, List.lookup_nil]
  by_cases identifier : v.node.type = "Identifier"
  · simp only [identifier, beq_self_eq_true, if_true]
    rfl
  · by_cases property : v.node.type = "Property"
    · have other : ("Property" == "Identifier") = false := by decide
      have distinct : ¬ "Property" = "Identifier" := by decide
      simp only [property, other, beq_self_eq_true, if_true, distinct, if_false]
      unfold atProperty
      cases checkProperty v.node options with
      | error fault => rfl
      | ok finding => rfl
    · simp only [beq_eq_false_iff_ne.mpr identifier, beq_eq_false_iff_ne.mpr property, identifier,
        property, if_false]
      rfl

def note [Stack] (options : CamelcaseOptions) (found : List Finding) (v : Visit) : List Finding :=
  match findingOn options v with
  | none => found
  | some f => if f.key ∈ found.map Finding.key then found else found ++ [f]

/-- The findings that a run keeps: the first for each node and sub type. -/
def firstFindings [Stack] (options : CamelcaseOptions) (visits : List Visit) : List Finding :=
  visits.foldl (note options) []

/-- The violation that a finding becomes, if its report can be completed. -/
def Finding.violation? [Stack] (file : String) (severity : Severity) (f : Finding) :
    Option Violation :=
  (Context.violation ⟨file, identifier, severity, [], []⟩ f.node f.subType f.report.data).toOption

/-- The report context in which some findings have been reported. -/
def contextOf [Stack] (file : String) (severity : Severity) (found : List Finding) : Context :=
  ⟨file, identifier, severity, (found.map Finding.key).reverse,
    found.filterMap (Finding.violation? file severity)⟩

/-- A finding about a new pair is recorded, another one about a known pair is not. -/
theorem report_contextOf [Stack] (file : String) (severity : Severity) (found : List Finding)
    (f : Finding) :
    ((contextOf file severity found).report f.node f.subType f.report.data).1 =
      contextOf file severity (if f.key ∈ found.map Finding.key then found else found ++ [f]) := by
  have known : (contextOf file severity found).hasReported f.node f.subType = true ↔
      f.key ∈ found.map Finding.key := by
    rw [Context.hasReported, List.contains_iff_mem]
    exact List.mem_reverse
  have extended : contextOf file severity (found ++ [f]) =
      ⟨file, identifier, severity, f.key :: (found.map Finding.key).reverse,
        found.filterMap (Finding.violation? file severity) ++
          (f.violation? file severity).toList⟩ := by
    unfold contextOf
    rw [List.map_append, List.reverse_append, List.filterMap_append, List.filterMap_cons]
    cases f.violation? file severity with
    | none => rfl
    | some v => rfl
  have recorded : (contextOf file severity found).violation f.node f.subType f.report.data =
      Context.violation ⟨file, identifier, severity, [], []⟩ f.node f.subType f.report.data := rfl
  unfold Context.report
  by_cases old : f.key ∈ found.map Finding.key
  · rw [if_pos (known.mpr old), if_pos old]
  · rw [if_neg fun h => old (known.mp h), if_neg old, extended, recorded, Finding.violation?]
    cases Context.violation ⟨file, identifier, severity, [], []⟩ f.node f.subType
        f.report.data with
    | error fault =>
      show Context.mk _ _ _ _ _ = Context.mk _ _ _ _ (_ ++ [])
      rw [List.append_nil]
      rfl
    | ok v => rfl

/-- A visit adds what `note` adds. -/
theorem reportAll_contextOf [Stack] (file : String) (severity : Severity)
    (options : CamelcaseOptions)
    (found : List Finding) (v : Visit) :
    ((contextOf file severity found).reportAll
        ((findingOn options v).toList.map Finding.report)).1 =
      contextOf file severity (note options found v) := by
  unfold note
  cases findingOn options v with
  | none => rfl
  | some f =>
    have one := report_contextOf file severity found f
    show (Context.reportAll _ [f.report]).1 = _
    rw [Context.reportAll]
    split
    · rename_i next v made
      have made' : ((contextOf file severity found).report f.node f.subType f.report.data).1 =
          next := congrArg Prod.fst made
      exact made'.symm.trans one
    · rename_i next fault made
      have made' : ((contextOf file severity found).report f.node f.subType f.report.data).1 =
          next := congrArg Prod.fst made
      exact made'.symm.trans one

/-- What the rule records on some visits are the findings that `firstFindings` keeps. -/
theorem found_ruleWith [Stack] (settings : RuleSettings) (options : CamelcaseOptions)
    (file : String)
    (visits : List Visit) :
    (ruleWith settings options).found file visits =
      (firstFindings options visits).filterMap
        (Finding.violation? file (Rule.severityOf settings standardSeverity)) := by
  have run : ∀ found : List Finding,
      (Runner.follow file visits ⟨ruleWith settings options,
        contextOf file (Rule.severityOf settings standardSeverity) found⟩).context =
      contextOf file (Rule.severityOf settings standardSeverity)
        (visits.foldl (note options) found) := by
    induction visits with
    | nil => intro found; rfl
    | cons v rest ih =>
      intro found
      rw [Runner.follow_cons]
      dsimp only
      rw [reports_ruleWith, reportAll_contextOf]
      exact ih _
  exact congrArg Context.violations (run [])

theorem any_key_iff [Stack] (options : CamelcaseOptions) (key : Nat × String) (v : Visit) :
    ((findingOn options v).any fun f => f.key == key) = true ↔ Finds options key v := by
  simp [Option.any_eq_true, Finds]

theorem firstVisit_lt_length [Stack] (options : CamelcaseOptions) (visits : List Visit)
    (key : Nat × String) :
    firstVisit options visits key < visits.length ↔ ∃ v ∈ visits, Finds options key v := by
  rw [firstVisit, List.findIdx_lt_length]
  simp only [any_key_iff]

/-- A visit more does not change where a pair was first found. -/
theorem firstVisit_concat_of_lt [Stack] {options : CamelcaseOptions} {visits : List Visit}
    {key : Nat × String} (v : Visit) (known : firstVisit options visits key < visits.length) :
    firstVisit options (visits ++ [v]) key = firstVisit options visits key := by
  unfold firstVisit at *
  rw [List.findIdx_append, if_pos known]

theorem firstVisit_concat_of_finds [Stack] {options : CamelcaseOptions} {visits : List Visit}
    {key : Nat × String} {v : Visit} (unknown : ¬ firstVisit options visits key < visits.length)
    (finds : Finds options key v) :
    firstVisit options (visits ++ [v]) key = visits.length := by
  unfold firstVisit at *
  rw [List.findIdx_append, if_neg unknown, List.findIdx_cons, (any_key_iff options key v).mpr finds]
  exact Nat.zero_add _

/-- What holds of the findings kept after some visits: they are about the pairs that some visit
finds, each is what the first visit for its pair gave, and they stand in the order of these
visits. -/
structure KeepsFirst [Stack] (options : CamelcaseOptions) (visits : List Visit)
    (found : List Finding) :
    Prop where
  complete : ∀ key, key ∈ found.map Finding.key ↔ ∃ v ∈ visits, Finds options key v
  first : ∀ f ∈ found, ∃ v, visits[firstVisit options visits f.key]? = some v ∧
    findingOn options v = some f
  ordered : found.Pairwise fun f g =>
    firstVisit options visits f.key < firstVisit options visits g.key

theorem KeepsFirst.firstVisit_lt [Stack] {options : CamelcaseOptions} {visits : List Visit}
    {found : List Finding} (h : KeepsFirst options visits found) {f : Finding} (hf : f ∈ found) :
    firstVisit options visits f.key < visits.length := by
  obtain ⟨v, at?, _⟩ := h.first f hf
  exact (List.getElem?_eq_some_iff.mp at?).1

/-- What was kept stays kept. -/
theorem KeepsFirst.concat_of_known [Stack] {options : CamelcaseOptions} {visits : List Visit}
    {found : List Finding} (h : KeepsFirst options visits found) {v : Visit}
    (known : ∀ f, findingOn options v = some f → f.key ∈ found.map Finding.key) :
    KeepsFirst options (visits ++ [v]) found where
  complete key := by
    rw [h.complete]
    constructor
    · rintro ⟨w, hw, finds⟩
      exact ⟨w, List.mem_append_left _ hw, finds⟩
    · rintro ⟨w, hw, finds⟩
      rcases List.mem_append.mp hw with old | new
      · exact ⟨w, old, finds⟩
      · obtain rfl := List.mem_singleton.mp new
        obtain ⟨f, hf, rfl⟩ := finds
        exact (h.complete f.key).mp (known f hf)
  first f hf := by
    obtain ⟨w, at?, gave⟩ := h.first f hf
    refine ⟨w, ?_, gave⟩
    rw [firstVisit_concat_of_lt v (h.firstVisit_lt hf),
      List.getElem?_append_left (h.firstVisit_lt hf)]
    exact at?
  ordered := by
    refine h.ordered.imp_of_mem ?_
    intro f g hf hg before
    rw [firstVisit_concat_of_lt v (h.firstVisit_lt hf),
      firstVisit_concat_of_lt v (h.firstVisit_lt hg)]
    exact before

/-- A finding about a new pair goes to the end. -/
theorem KeepsFirst.concat_of_new [Stack] {options : CamelcaseOptions} {visits : List Visit}
    {found : List Finding} (h : KeepsFirst options visits found) {v : Visit} {f : Finding}
    (gave : findingOn options v = some f) (new : f.key ∉ found.map Finding.key) :
    KeepsFirst options (visits ++ [v]) (found ++ [f]) := by
  have unknown : ¬ firstVisit options visits f.key < visits.length := by
    rw [firstVisit_lt_length, ← h.complete]
    exact new
  have place : firstVisit options (visits ++ [v]) f.key = visits.length :=
    firstVisit_concat_of_finds unknown ⟨f, gave, rfl⟩
  refine ⟨?_, ?_, ?_⟩
  · intro key
    rw [List.map_append, List.mem_append, h.complete]
    constructor
    · rintro (⟨w, hw, finds⟩ | own)
      · exact ⟨w, List.mem_append_left _ hw, finds⟩
      · obtain rfl := List.mem_singleton.mp own
        exact ⟨v, List.mem_append_right _ List.mem_cons_self, f, gave, rfl⟩
    · rintro ⟨w, hw, finds⟩
      rcases List.mem_append.mp hw with old | last
      · exact Or.inl ⟨w, old, finds⟩
      · obtain rfl := List.mem_singleton.mp last
        obtain ⟨g, hg, rfl⟩ := finds
        obtain rfl : f = g := Option.some.inj (gave.symm.trans hg)
        exact Or.inr List.mem_cons_self
  · intro g hg
    rcases List.mem_append.mp hg with old | last
    · obtain ⟨w, at?, gave⟩ := h.first g old
      refine ⟨w, ?_, gave⟩
      rw [firstVisit_concat_of_lt v (h.firstVisit_lt old),
        List.getElem?_append_left (h.firstVisit_lt old)]
      exact at?
    · obtain rfl := List.mem_singleton.mp last
      refine ⟨v, ?_, gave⟩
      rw [place, List.getElem?_append_right (Nat.le_refl _), Nat.sub_self]
      rfl
  · rw [List.pairwise_append]
    refine ⟨?_, List.pairwise_singleton _ _, ?_⟩
    · refine h.ordered.imp_of_mem ?_
      intro g g' hg hg' before
      rw [firstVisit_concat_of_lt v (h.firstVisit_lt hg),
        firstVisit_concat_of_lt v (h.firstVisit_lt hg')]
      exact before
    · intro g hg last hlast
      obtain rfl := List.mem_singleton.mp hlast
      rw [place, firstVisit_concat_of_lt v (h.firstVisit_lt hg)]
      exact h.firstVisit_lt hg

theorem KeepsFirst.note [Stack] {options : CamelcaseOptions} {visits : List Visit}
    {found : List Finding}
    (h : KeepsFirst options visits found) (v : Visit) :
    KeepsFirst options (visits ++ [v]) (note options found v) := by
  unfold Camelcase.note
  cases gave : findingOn options v with
  | none =>
    apply h.concat_of_known
    intro f hf
    rw [gave] at hf
    cases hf
  | some f =>
    dsimp only
    split
    · rename_i known
      apply h.concat_of_known
      intro g hg
      obtain rfl : f = g := Option.some.inj (gave.symm.trans hg)
      exact known
    · rename_i new
      exact h.concat_of_new gave new

theorem KeepsFirst.foldl_note [Stack] {options : CamelcaseOptions} {earlier : List Visit}
    {found : List Finding} (h : KeepsFirst options earlier found) (visits : List Visit) :
    KeepsFirst options (earlier ++ visits) (visits.foldl (Camelcase.note options) found) := by
  induction visits generalizing earlier found with
  | nil =>
    rw [List.append_nil]
    exact h
  | cons v rest ih =>
    rw [List.append_cons, List.foldl_cons]
    exact ih (h.note v)

/-- A run keeps the first finding for each pair. -/
theorem firstFindings_keepsFirst [Stack] (options : CamelcaseOptions) (visits : List Visit) :
    KeepsFirst options visits (firstFindings options visits) := by
  have none : KeepsFirst options [] [] := by
    refine ⟨?_, ?_, List.Pairwise.nil⟩
    · intro key
      simp
    · intro f hf
      cases hf
  exact none.foldl_note visits

theorem KeepsFirst.keys_nodup [Stack] {options : CamelcaseOptions} {visits : List Visit}
    {found : List Finding} (h : KeepsFirst options visits found) :
    (found.map Finding.key).Nodup := by
  rw [List.Nodup, List.pairwise_map]
  refine h.ordered.imp ?_
  intro f g before same
  rw [same] at before
  exact Nat.lt_irrefl _ before

/-- What keeps an enabled rule with accepted parameters from being loaded: its severity is quoted
where it is none, and logged once the rule is there, and may have no text. -/
def severityFault? [Stack] (settings : RuleSettings) : Option Fault :=
  if settings.enabled.truthy then
    (Fault.of? (Rule.checkSeverity settings standardSeverity)).or
      (Fault.of? (settings.severity.textFor .loadedSeverity))
  else none

theorem severityFault?_of_enabled [Stack] {settings : RuleSettings}
    (enabled : settings.enabled.truthy = true) :
    severityFault? settings = (Fault.of? (Rule.checkSeverity settings standardSeverity)).or
      (Fault.of? (settings.severity.textFor .loadedSeverity)) :=
  if_pos enabled

theorem severityFault?_of_disabled [Stack] {settings : RuleSettings}
    (disabled : settings.enabled.truthy = false) : severityFault? settings = none :=
  if_neg (by rw [disabled]; decide)

/-- No severity leaves the rule its own, and is logged as `None`. -/
theorem severityFault?_of_null [Stack] {settings : RuleSettings}
    (unnamed : settings.severity = .null) (room : 0 < Stack.room .loadedSeverity) :
    severityFault? settings = none := by
  have word : Rule.severityWord settings standardSeverity = .text standardSeverity := by
    rw [Rule.severityWord, unnamed]
    rfl
  have known : (Severity.ofValue? (.text standardSeverity)).isSome = true := by
    simp [Severity.ofValue?, Severity.all, Value.same, Value.sameScalar, Severity.word,
      standardSeverity]
  have shown : Value.shownObstacle? (Stack.room .loadedSeverity) .null = none := by
    obtain ⟨calls, enough⟩ := Nat.exists_eq_succ_of_ne_zero (Nat.ne_of_gt room)
    rw [enough]
    rfl
  have text : settings.severity.textFor .loadedSeverity = .ok "None" := by
    rw [unnamed, Value.textFor, shown]
    rfl
  rw [severityFault?, Rule.checkSeverity_of_known (by rw [word]; exact known), text]
  exact ite_self none

/-- A number with too many digits for a severity cannot be logged. -/
theorem severityFault?_of_long [Stack] {settings : RuleSettings} {n : Int}
    (enabled : settings.enabled.truthy = true) (given : settings.severity = .int n)
    (long : Binary64.tenTo Text.digitLimit ≤ n.natAbs)
    (room : 0 < Stack.room .loadedSeverity) (room' : 0 < Stack.room .unknownSeverity) :
    severityFault? settings = some .badValue := by
  have written : ∀ {calls : Nat}, 0 < calls → (Value.int n).obstacle? calls = some .digits := by
    intro calls some
    obtain ⟨more, rfl⟩ := Nat.exists_eq_succ_of_ne_zero (Nat.ne_of_gt some)
    exact Value.obstacle?_of_long long more
  have word : Rule.severityWord settings standardSeverity = .int n := by
    have positive (e : Int) : 0 < Binary64.tenTo e := Nat.pow_pos (by decide)
    have truthy : (Value.int n).truthy = true := by
      rw [Value.truthy, bne_iff_ne]
      rintro rfl
      exact absurd long (Nat.not_le.mpr (positive _))
    rw [Rule.severityWord, given, if_pos truthy]
  have checked : Rule.checkSeverity settings standardSeverity = .ok () := by
    unfold Rule.checkSeverity
    simp [word, written room', pure, Except.pure]
  have text : settings.severity.textFor .loadedSeverity = .error .badValue := by
    have shown : (Value.int n).shownObstacle? (Stack.room .loadedSeverity) = some .digits :=
      written room
    rw [given, Value.textFor, shown]
    rfl
  rw [severityFault?_of_enabled enabled, checked, text]
  rfl

/-- Loading the rule under settings that enable it and have accepted parameters. -/
theorem loadRules_of_enabled [Stack] {settings : RuleSettings} {options : CamelcaseOptions}
    (enabled : settings.enabled.truthy = true)
    (accepted : CamelcaseOptions.ofParams settings.params = .ok options) :
    (∃ fault engine, severityFault? settings = some fault ∧
      ({} : Engine).loadRules (some settings) = ([.loading], engine, .error fault)) ∨
    ∃ severity, severityFault? settings = none ∧ ({} : Engine).loadRules (some settings) =
      ([.loading, .loaded identifier severity, .loadedAll 1], ⟨[ruleWith settings options]⟩,
        .ok ()) := by
  rw [severityFault?_of_enabled enabled, Engine.loadRules, if_pos enabled, rule, accepted]
  cases checked : Rule.checkSeverity settings standardSeverity with
  | error fault => exact Or.inl ⟨fault, _, rfl, rfl⟩
  | ok _ =>
    cases text : settings.severity.textFor .loadedSeverity with
    | error fault => exact Or.inl ⟨fault, ⟨[ruleWith settings options]⟩, rfl, rfl⟩
    | ok severity => exact Or.inr ⟨severity, rfl, rfl⟩

end Camelcase

open Camelcase in
/-- Under settings that enable the naming rule and have refused parameters, every run fails alike.
-/
theorem lint_of_refused [Stack] {settings : RuleSettings} {fault : Fault}
    (enabled : settings.enabled.truthy = true)
    (refused : CamelcaseOptions.ofParams settings.params = .error fault) :
    ∃ fault, ∀ tree file, (lint tree (some settings) file).2 = .error fault := by
  obtain ⟨fault, unmade⟩ : ∃ fault, Camelcase.rule settings = .error fault := by
    rw [Camelcase.rule, refused]
    cases Rule.checkSeverity settings standardSeverity with
    | error fault => exact ⟨fault, rfl⟩
    | ok _ => exact ⟨fault, rfl⟩
  refine ⟨fault, fun tree file => ?_⟩
  rw [lint, Engine.loadRules, if_pos enabled, unmade]
  rfl

open Camelcase in
/-- Under settings that enable the naming rule, a run is the run of that rule alone, unless the
severity keeps the rule from being loaded. -/
theorem lint_of_enabled [Stack] {settings : RuleSettings} {options : CamelcaseOptions}
    (tree : TreeInput) (file : String) (enabled : settings.enabled.truthy = true)
    (accepted : CamelcaseOptions.ofParams settings.params = .ok options) :
    (lint tree (some settings) file).2 =
      (severityFault? settings).elim
        (Engine.checkTree ⟨[ruleWith settings options]⟩ tree file).2 .error := by
  rw [lint]
  rcases loadRules_of_enabled enabled accepted with ⟨fault, engine, keeps, loaded⟩ |
    ⟨severity, free, loaded⟩
  · rw [loaded, keeps]
    rfl
  · rw [loaded, free]
    rfl

end NameLint
