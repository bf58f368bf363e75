import NameLint.Proofs.Exemptions
import NameLint.Proofs.TypedTrees

/-!
# Runs on well-typed trees

On typed nodes every test of the naming rule gives an answer, with two exceptions:
a key without a name of its own may hold a value that has no text, and searching a
name for a regular expression breaks off where a group of the match ends before it
begins. A rule that breaks off is logged and the run goes on. All else that is logged
is routine.
-/

namespace NameLint

namespace Comment

theorem isNear_of_isInt {startLine endLine : Value} (hs : startLine.isInt = true)
    (he : endLine.isInt = true) : ∃ near, isNear startLine endLine = .ok near := by
  obtain ⟨m, rfl⟩ := Value.isInt_iff.mp hs
  obtain ⟨n, rfl⟩ := Value.isInt_iff.mp he
  exact ⟨_, rfl⟩

/-- Whether what a comment says can be read: it has a text, and a whole line on which it ends, if it
has a location. -/
structure IsLegible (c : Comment) : Prop where
  value : c.value.isText = true
  endLine : ∀ l, c.loc = some l → l.endLine.isInt = true

theorem IsTyped.isLegible {c : Comment} (typed : c.IsTyped) : c.IsLegible :=
  ⟨typed.value, fun l hl => (typed.loc l hl).endLine⟩

theorem marksPrivate_of_isLegible {c : Comment} (legible : c.IsLegible) {startLine : Value}
    (whole : startLine.isInt = true) : ∃ marks, c.marksPrivate startLine = .ok marks := by
  unfold marksPrivate
  split
  · exact ⟨false, rfl⟩
  · obtain ⟨s, hs⟩ := Value.isText_iff.mp legible.value
    rw [hs]
    dsimp only
    split
    · exact ⟨false, rfl⟩
    · cases hloc : c.loc with
      | none => exact ⟨false, rfl⟩
      | some l =>
        obtain ⟨near, hnear⟩ := isNear_of_isInt whole (legible.endLine l hloc)
        dsimp only
        rw [hnear]
        cases near with
        | true => exact ⟨_, rfl⟩
        | false => exact ⟨_, rfl⟩

theorem anyMarksPrivate_of_isLegible {comments : List Comment}
    (legible : ∀ c ∈ comments, c.IsLegible) {startLine : Value} (whole : startLine.isInt = true) :
    ∃ marks, anyMarksPrivate startLine comments = .ok marks := by
  induction comments with
  | nil => exact ⟨false, rfl⟩
  | cons c rest ih =>
    obtain ⟨marks, hmarks⟩ := marksPrivate_of_isLegible (legible c List.mem_cons_self) whole
    obtain ⟨later, hlater⟩ := ih fun d hd => legible d (List.mem_cons_of_mem c hd)
    rw [anyMarksPrivate, hmarks]
    cases marks with
    | true => exact ⟨true, rfl⟩
    | false => exact ⟨later, hlater⟩

end Comment

namespace Node

theorem hasPrivateTag_of_isLegible {n : Node}
    (whole : ∀ l, n.loc = some l → l.startLine.isInt = true)
    (legible : ∀ c ∈ n.comments, c.IsLegible) : ∃ tagged, n.hasPrivateTag = .ok tagged := by
  unfold hasPrivateTag
  cases hloc : n.loc with
  | none => exact ⟨false, rfl⟩
  | some l => exact Comment.anyMarksPrivate_of_isLegible legible (whole l hloc)

theorem hasPrivateTag_of_isTyped {n : Node} (typed : n.IsTyped) :
    ∃ tagged, n.hasPrivateTag = .ok tagged :=
  hasPrivateTag_of_isLegible (fun l hl => (typed.loc l hl).startLine)
    fun c hc => (typed.comments c hc).isLegible

/-- The name of a key is a text if what stands as its name is one. -/
theorem keyName?_of_isNamedByText [Stack] {key : Node} (named : key.IsNamedByText) {name : Item}
    (h : key.keyName? = .ok (some name)) : ∃ s, name = .plain (.text s) := by
  unfold keyName? at h
  split at h
  · cases h
    rcases named with null | text
    · rename_i counts
      rw [null] at counts
      cases counts
    · exact text
  · split at h
    · cases h
    · obtain ⟨s, _, h⟩ := Fault.bind_eq_ok.mp h
      cases h
      exact ⟨s, rfl⟩

end Node

/-- A search breaks off in one way only. -/
theorem Pattern.Compiled.search_fault {compiled : Pattern.Compiled} {text : String}
    {fault : Pattern.Fault} (h : compiled.search text = .error fault) : fault = .crossedGroup := by
  have places : ∀ (chars : Array Char) (starts : List Nat),
      compiled.searchAt chars starts = .error fault → fault = .crossedGroup := by
    intro chars starts h
    induction starts with
    | nil => cases h
    | cons p rest ih =>
      rw [searchAt] at h
      dsimp only at h
      split at h
      · split at h
        · exact ih h
        · split at h
          · cases h
            rfl
          · cases h
      · exact ih h
  unfold search at h
  dsimp only at h
  split at h
  · cases h
  · exact places _ _ h

namespace IgnorePattern

/-- Whether searching a name for one of the regular expressions breaks off. -/
def Crosses (patterns : List IgnorePattern) (name : String) : Prop :=
  ∃ body compiled, regex body compiled ∈ patterns ∧ compiled.search name = .error .crossedGroup

theorem holds_fault {p : IgnorePattern} {name : String} {fault : Fault}
    (h : p.holds (.plain (.text name)) = .error fault) :
    fault = .crossedGroup ∧
      ∃ body compiled, p = regex body compiled ∧ compiled.search name = .error .crossedGroup := by
  cases p with
  | literal s => cases h
  | regex body compiled =>
    have failed : (compiled.search name).mapError (patternFault ("/" ++ body ++ "/")) =
        .error fault := h
    cases searched : compiled.search name with
    | ok held =>
      rw [searched] at failed
      cases failed
    | error own =>
      obtain rfl := Pattern.Compiled.search_fault searched
      rw [searched] at failed
      cases failed
      exact ⟨rfl, body, compiled, rfl, searched⟩

theorem anyHolds_fault {patterns : List IgnorePattern} {name : String} {fault : Fault}
    (h : anyHolds (.plain (.text name)) patterns = .error fault) :
    fault = .crossedGroup ∧ Crosses patterns name := by
  induction patterns with
  | nil => cases h
  | cons p rest ih =>
    rw [anyHolds] at h
    cases own : p.holds (.plain (.text name)) with
    | error other =>
      rw [own] at h
      cases h
      obtain ⟨crossed, body, compiled, rfl, searched⟩ := holds_fault own
      exact ⟨crossed, body, compiled, List.mem_cons_self, searched⟩
    | ok held =>
      rw [own] at h
      cases held with
      | true => cases h
      | false =>
        obtain ⟨crossed, body, compiled, member, searched⟩ := ih h
        exact ⟨crossed, body, compiled, List.mem_cons_of_mem p member, searched⟩

end IgnorePattern

namespace Camelcase

/-- Whether the check of a property breaks off with a fault: the value of its key has no text where
it would be the name, or searching the name breaks off. -/
def BreaksOff [Stack] (options : CamelcaseOptions) (n : Node) (fault : Fault) : Prop :=
  n.type = "Property" ∧ ∃ key, n.child? "key" = some key ∧
    (key.keyName? = .error fault ∨
      ∃ name, key.keyName? = .ok (some (.plain (.text name))) ∧
        IgnorePattern.Crosses options.ignore name ∧ fault = .crossedGroup)

theorem judge_fault {options : CamelcaseOptions} {n key : Node} {name : String} {fault : Fault}
    (answered : ∃ tagged, n.hasPrivateTag = .ok tagged)
    (h : judge options n key (.plain (.text name)) = .error fault) :
    IgnorePattern.anyHolds (.plain (.text name)) options.ignore = .error fault := by
  obtain ⟨marked, hmarked⟩ : ∃ marked, isMarked n (Name.isPrivate name) = .ok marked := by
    unfold isMarked
    split
    · exact answered
    · exact ⟨false, rfl⟩
  have named : isPrivateName (.plain (.text name)) = .ok (Name.isPrivate name) := rfl
  rw [judge, named] at h
  change (if _ then _ else _) = _ at h
  split at h
  · cases h
  · rw [hmarked] at h
    change (if _ then _ else _) = _ at h
    split at h
    · cases h
    · cases held : IgnorePattern.anyHolds (.plain (.text name)) options.ignore with
      | error other =>
        rw [held] at h
        cases h
        rfl
      | ok ignored =>
        rw [held] at h
        change (if _ then _ else _) = _ at h
        split at h
        · cases h
        · cases h

/-- On a typed property the rule breaks off only where the key has no name or in a search. -/
theorem checkProperty_fault [Stack] {options : CamelcaseOptions} {n : Node} {fault : Fault}
    (typed : n.IsTyped) (property : n.type = "Property")
    (h : checkProperty n options = .error fault) : BreaksOff options n fault := by
  cases hkey : n.child? "key" with
  | none =>
    rw [checkProperty, hkey] at h
    cases h
  | some key =>
    cases hname : key.keyName? with
    | error other =>
      rw [checkProperty, hkey] at h
      dsimp only at h
      rw [hname] at h
      cases h
      exact ⟨property, key, hkey, Or.inl hname⟩
    | ok name =>
      cases name with
      | none =>
        rw [checkProperty, hkey] at h
        dsimp only at h
        rw [hname] at h
        cases h
      | some name =>
        obtain ⟨s, rfl⟩ := Node.keyName?_of_isNamedByText (typed.key property key hkey) hname
        rw [checkProperty_eq_judge hkey hname] at h
        obtain ⟨crossed, crosses⟩ := IgnorePattern.anyHolds_fault
          (judge_fault (Node.hasPrivateTag_of_isTyped typed) h)
        exact ⟨property, key, hkey, Or.inr ⟨s, hname, crosses, crossed⟩⟩

/-- What is found at a typed node has a text for a name. -/
theorem isTold_of_isTyped [Stack] {options : CamelcaseOptions} {v : Visit} {f : Finding}
    (typed : v.node.IsTyped) (found : findingOn options v = some f) : f.isTold = true := by
  rcases findingOn_cases found with ⟨_, checked⟩ | ⟨property, checked⟩
  · obtain ⟨name, text⟩ := checkIdentifier_text checked
    exact Finding.isTold_of_text text
  · obtain ⟨_, _, key, hkey, hname⟩ := checkProperty_tells checked
    obtain ⟨name, text⟩ := Node.keyName?_of_isNamedByText (typed.key property key hkey) hname
    exact Finding.isTold_of_text text

/-- The rule breaks off on a visit as the check of a property does. -/
theorem outcome_fault [Stack] {settings : RuleSettings} {options : CamelcaseOptions} {v : Visit}
    {fault : Fault} (h : ((ruleWith settings options).outcome v).fault = some fault) :
    v.node.type = "Property" ∧ checkProperty v.node options = .error fault := by
  unfold Rule.outcome at h
  split at h
  · rename_i visitor found
    rw [ruleWith, List.lookup_cons] at found
    split at found
    · cases found
      cases h
    · rw [List.lookup_cons] at found
      split at found
      · rename_i property
        cases found
        refine ⟨beq_iff_eq.mp property, ?_⟩
        rw [atProperty] at h
        split at h
        · cases h
        · rename_i own checked
          cases h
          exact checked
      · cases found
  · cases h

/-- A finding at a node with a place can be reported in any context, if its message can be made. -/
theorem Finding.report_ok [Stack] {f : Finding} (placed : f.node.HasPlace)
    (known : f.subType = identifierType ∨ f.subType = propertyType) (told : f.isTold = true)
    (c : Context) : ∃ recorded, (c.report f.node f.subType f.report.data).2 = .ok recorded := by
  obtain ⟨message, formatted⟩ :
      ∃ message, Template.format f.subType.message f.report.data = .ok message := by
    have worded := f.format_message known
    rw [if_pos told] at worded
    cases formatted : Template.format f.subType.message f.report.data with
    | ok message => exact ⟨message, rfl⟩
    | error fault =>
      have failed := (congrArg Except.toOption formatted).symm.trans worded
      cases failed
  have completed : ∃ v, c.violation f.node f.subType f.report.data = .ok v := by
    rw [Context.violation, placeOf_of_hasPlace placed, formatted]
    exact ⟨_, rfl⟩
  obtain ⟨v, hv⟩ := completed
  unfold Context.report
  split
  · exact ⟨none, rfl⟩
  · rw [hv]
    exact ⟨some v, rfl⟩

/-- At a typed node the reports of the rule are completed. -/
theorem reportAll_completes [Stack] (settings : RuleSettings) (options : CamelcaseOptions)
    {v : Visit} (typed : v.node.IsTyped) (c : Context) :
    (c.reportAll ((ruleWith settings options).outcome v).reports).2 = none := by
  rw [reports_ruleWith]
  cases found : findingOn options v with
  | none => rfl
  | some f =>
    obtain ⟨recorded, reported⟩ := f.report_ok (hasPlace_of_findingOn found typed.hasPlace)
      (findingOn_subType found) (isTold_of_isTyped typed found) c
    show (c.reportAll [f.report]).2 = none
    rw [Context.reportAll]
    split
    · rfl
    · rename_i next fault failed
      have own := congrArg Prod.snd failed
      cases own.symm.trans reported

/-- A visit to a typed node gives rise to an event only if the check of a property breaks off
there. -/
theorem event_of_visit [Stack] {file : String} {settings : RuleSettings}
    {options : CamelcaseOptions}
    {c : Context} {v : Visit} {e : Event} (typed : v.node.IsTyped)
    (h : (Runner.visit file v ⟨ruleWith settings options, c⟩).2 = some e) :
    ∃ fault, BreaksOff options v.node fault ∧ e = .ruleFailed identifier file "Property" fault := by
  -- What is found can be reported, so the fault is the rule's own.
  have completed := reportAll_completes settings options typed c
  have own : (c.take ((ruleWith settings options).outcome v)).2 =
      ((ruleWith settings options).outcome v).fault := by
    unfold Context.take
    split
    · rfl
    · rename_i next fault failed
      rw [failed] at completed
      cases completed
  unfold Runner.visit at h
  split at h
  · cases h
  · rename_i after fault failed
    have faulty := own.symm.trans (congrArg Prod.snd failed)
    obtain ⟨property, checked⟩ := outcome_fault faulty
    cases h
    rw [property]
    exact ⟨fault, checkProperty_fault typed property checked, rfl⟩

end Camelcase

/-- Every event of a run is that of some rule on some visit. -/
theorem Runner.exists_visit_of_mem_run [Stack] {file : String} {runners : List Runner}
    {visits : List Visit} {e : Event} (h : e ∈ (run file runners visits).2) :
    ∃ v ∈ visits, ∃ r ∈ runners, ∃ c : Context, (visit file v ⟨r.rule, c⟩).2 = some e := by
  induction visits generalizing runners with
  | nil => cases h
  | cons v rest ih =>
    have split : e ∈ runners.filterMap (fun r => (visit file v r).2) ∨
        e ∈ (run file (runners.map fun r => (visit file v r).1) rest).2 := by
      have parts := List.mem_append.mp h
      simpa [visitAll, List.filterMap_map, Function.comp_def] using parts
    rcases split with now | later
    · obtain ⟨r, hr, event⟩ := List.mem_filterMap.mp now
      exact ⟨v, List.mem_cons_self, r, hr, r.context, event⟩
    · obtain ⟨w, hw, r, hr, c, event⟩ := ih later
      obtain ⟨r', hr', rfl⟩ := List.mem_map.mp hr
      rw [visit_fst] at event
      exact ⟨w, List.mem_cons_of_mem v hw, r', hr', c, event⟩

/-- A rule that fails on a visit, whatever has been recorded before, is told of. -/
theorem Runner.mem_run_of_visit [Stack] {file : String} {runners : List Runner}
    {visits : List Visit}
    {v : Visit} {r : Runner} {e : Event} (hv : v ∈ visits) (hr : r ∈ runners)
    (h : ∀ c : Context, (visit file v ⟨r.rule, c⟩).2 = some e) :
    e ∈ (run file runners visits).2 := by
  induction visits generalizing runners r with
  | nil => cases hv
  | cons first rest ih =>
    rw [run]
    refine List.mem_append.mpr ?_
    rcases List.mem_cons.mp hv with rfl | later
    · left
      exact List.mem_filterMap.mpr ⟨_, List.mem_map_of_mem hr, h r.context⟩
    · right
      refine ih later (List.mem_map_of_mem (List.mem_map_of_mem hr)) ?_
      intro c
      rw [visit_fst]
      exact h c

theorem Engine.mem_checkNode_of_mem_run [Stack] {e : Engine} {root : Node} {file : String}
    {event : Event}
    (h : event ∈ (Runner.run file (e.runners file) root.walk).2) :
    event ∈ (e.checkNode root file).1 := by
  unfold checkNode
  dsimp only
  split
  · exact List.mem_append_left _ (List.mem_cons_of_mem _ h)
  · exact List.mem_append_left _ (List.mem_cons_of_mem _ h)

/-- Where all places are whole, checking begins, tells of the rules that break off, and ends. -/
theorem Engine.checkNode_events [Stack] {e : Engine} {root : Node} (placed : e.ReportsPlaced root)
    (file : String) :
    ∃ count, (e.checkNode root file).1 =
      .started file :: (Runner.run file (e.runners file) root.walk).2 ++
        [.completed file root.walk.length count] := by
  have result := checkNode_of_placed placed file
  unfold checkNode at result ⊢
  dsimp only at result ⊢
  split at result
  · rename_i sorted _
    exact ⟨sorted.length, rfl⟩
  · cases result

/-- The rules of a run: the naming rule, unless its settings disable it. -/
def Engine.underSettings [Stack] (settings : RuleSettings) (options : CamelcaseOptions) : Engine :=
  ⟨if settings.enabled.truthy then [Camelcase.ruleWith settings options] else []⟩

theorem Engine.mem_underSettings [Stack] {settings : RuleSettings} {options : CamelcaseOptions}
    {r : Rule}
    (h : r ∈ (underSettings settings options).rules) : r = Camelcase.ruleWith settings options := by
  unfold underSettings at h
  dsimp only at h
  split at h
  · exact List.mem_singleton.mp h
  · cases h

/-- A run under accepted settings with a severity that has a text loads the rules, which is routine,
and checks the tree. -/
theorem lintWith_eq_checkNode [Stack] {tree : TreeInput} {root : Node} {config : LintConfig}
    {settings : RuleSettings} {options : CamelcaseOptions} (file : String)
    (converted : tree.root = .ok root)
    (chosen : (config.find? Camelcase.identifier).getD {} = settings)
    (accepted : settings.enabled.truthy = true →
      CamelcaseOptions.ofParams settings.params = .ok options)
    (free : Camelcase.severityFault? settings = none) :
    ∃ loading, (∀ e ∈ loading, e.level = .debug ∨ e.level = .info) ∧
      lintWith tree config file =
        (loading ++ ((Engine.underSettings settings options).checkNode root file).1,
          ((Engine.underSettings settings options).checkNode root file).2) := by
  rw [lintWith, chosen, lint]
  cases enabled : settings.enabled.truthy with
  | true =>
    rcases Camelcase.loadRules_of_enabled enabled (accepted enabled) with ⟨_, _, keeps, _⟩ |
      ⟨severity, _, loaded⟩
    · rw [free] at keeps
      cases keeps
    · refine ⟨[.loading, .loaded Camelcase.identifier severity, .loadedAll 1], ?_, ?_⟩
      · simp [Event.level]
      · rw [loaded, Engine.underSettings, if_pos enabled, ← Engine.checkTree_of_root converted]
  | false =>
    refine ⟨[.loading, .skipped Camelcase.identifier, .loadedAll 0], ?_, ?_⟩
    · simp [Event.level]
    · have off : ¬ settings.enabled.truthy = true := by
        rw [enabled]
        decide
      rw [Engine.loadRules, if_neg off, Engine.underSettings, if_neg off,
        ← Engine.checkTree_of_root converted]
      rfl

open Camelcase in
/-- On typed nodes the naming rule reports what has a place. -/
theorem Engine.reportsPlaced_of_isTyped [Stack] {e : Engine} {settings : RuleSettings}
    {options : CamelcaseOptions} {root : Node}
    (rules : ∀ r ∈ e.rules, r = ruleWith settings options)
    (typed : ∀ v ∈ root.preorder, v.node.IsTyped) : e.ReportsPlaced root := by
  intro r hr _ v hv p hp
  rw [rules r hr, reports_ruleWith] at hp
  obtain ⟨f, hf, rfl⟩ := List.mem_map.mp hp
  rw [Node.walk_eq_preorder] at hv
  exact hasPlace_of_findingOn (Option.mem_toList.mp hf) (typed v hv).hasPlace

open Camelcase in
/-- On typed nodes only checks that break off are logged above the routine. -/
theorem Engine.level_of_mem_checkNode [Stack] {engine : Engine} {settings : RuleSettings}
    {options : CamelcaseOptions} {root : Node} {file : String} {e : Event}
    (rules : ∀ r ∈ engine.rules, r = ruleWith settings options)
    (typed : ∀ v ∈ root.preorder, v.node.IsTyped) (h : e ∈ (engine.checkNode root file).1) :
    e.level = .debug ∨ ∃ v ∈ root.preorder, ∃ fault, BreaksOff options v.node fault ∧
      e = .ruleFailed Camelcase.identifier file "Property" fault := by
  obtain ⟨count, events⟩ := checkNode_events (reportsPlaced_of_isTyped rules typed) file
  rw [events, List.mem_append, List.mem_cons, List.mem_singleton] at h
  rcases h with (rfl | failed) | rfl
  · exact Or.inl rfl
  · obtain ⟨v, hv, r, hr, c, event⟩ := Runner.exists_visit_of_mem_run failed
    obtain ⟨rule, hrule, rfl⟩ := List.mem_map.mp hr
    rw [rules rule (List.mem_filter.mp hrule).1] at event
    rw [Node.walk_eq_preorder] at hv
    exact Or.inr ⟨v, hv, event_of_visit (typed v hv) event⟩
  · exact Or.inl rfl

open Camelcase in
/-- On a well-typed tree a run gives a result, unless the severity keeps the rule from being loaded,
and nothing is logged as an error. A warning is logged only where the check of a property breaks
off: the value of a key has no text where it would be the name, or searching the name for a regular
expression breaks off. -/
theorem lintWith_of_wellTyped [Stack] (s : LabelledSource) (config : LintConfig) (file : String)
    (settings : RuleSettings) (options : CamelcaseOptions) (node : s.tree.isNode = true)
    (typed : ∀ c ∈ s.tree.reached, c.isWellTyped = true)
    (chosen : (config.find? Camelcase.identifier).getD {} = settings)
    (accepted : settings.enabled.truthy = true →
      CamelcaseOptions.ofParams settings.params = .ok options) :
    (∀ fault, severityFault? settings = some fault →
      (lintWith (.source s.tree) config file).2 = .error fault) ∧
    (severityFault? settings = none →
      ∃ root vs, (TreeInput.source s.tree).root = .ok root ∧
        (lintWith (.source s.tree) config file).2 = .ok vs ∧
        ∀ e ∈ (lintWith (.source s.tree) config file).1, e.level ≠ .error ∧
          (e.level = .warning → ∃ v ∈ root.preorder, ∃ fault, BreaksOff options v.node fault ∧
            e = .ruleFailed Camelcase.identifier file "Property" fault)) := by
  constructor
  · intro fault keeps
    cases enabled : settings.enabled.truthy with
    | true => rw [lintWith, chosen, lint_of_enabled _ _ enabled (accepted enabled), keeps]; rfl
    | false =>
      rw [severityFault?_of_disabled enabled] at keeps
      cases keeps
  · intro free
    obtain ⟨root, converted⟩ := exists_root_of_isWellTyped s node typed
    have typedNodes : ∀ v ∈ root.preorder, v.node.IsTyped := fun v hv =>
      isTyped_of_visited s typed converted hv
    have rules : ∀ r ∈ (Engine.underSettings settings options).rules,
        r = ruleWith settings options := fun r hr => Engine.mem_underSettings hr
    obtain ⟨loading, routine, run⟩ := lintWith_eq_checkNode file converted chosen accepted free
    have result :=
      Engine.checkNode_of_placed (Engine.reportsPlaced_of_isTyped rules typedNodes) file
    rw [run]
    refine ⟨root, _, converted, result, ?_⟩
    intro e he
    rcases List.mem_append.mp he with early | late
    · rcases routine e early with level | level <;> rw [level] <;>
        exact ⟨by decide, fun warning => by cases warning⟩
    · rcases Engine.level_of_mem_checkNode rules typedNodes late with level | brokeOff
      · rw [level]
        exact ⟨by decide, fun warning => by cases warning⟩
      · refine ⟨?_, fun _ => brokeOff⟩
        obtain ⟨_, _, _, _, rfl⟩ := brokeOff
        show Log.Level.warning ≠ .error
        decide

def crossingKey : Source :=
  .object 1 [("type", .scalar (.text "Identifier")), ("name", .scalar (.text "ab_a"))]

def crossingProperty : Source :=
  .object 0 [("type", .scalar (.text "Property")), ("key", crossingKey)]

/-- A regular expression to ignore names by; the group in it ends before it begins in a match with
the key's name. -/
def crossingParams : Value :=
  .map [(.text "ignore", .list [.text "/(?:(ab)_|a)++/"])]

theorem content_crossingKey : crossingKey.content = [.scalar (.text "ab_a")] := by
  rfl

theorem content_crossingProperty : crossingProperty.content = [crossingKey] := by
  rfl

theorem reached_crossingProperty : crossingProperty.reached = [crossingKey, crossingProperty] := by
  have root : crossingProperty.isScalar = false := rfl
  have key : crossingKey.isScalar = false := rfl
  have leaf : (Source.scalar (.text "ab_a")).isScalar = true := rfl
  simp [Source.reached, Source.reachedAll, content_crossingProperty, content_crossingKey, root, key,
    leaf]

/-- A tree of two objects with two labels is coherent. -/
theorem coherent_of_reached_pair {s c : Source} (reached : s.reached = [c, s])
    (labels : c.label? ≠ s.label?) : s.Coherent := by
  intro d hd e he same
  rw [reached] at hd he
  simp only [List.mem_cons, List.not_mem_nil, or_false] at hd he
  rcases hd with rfl | rfl <;> rcases he with rfl | rfl
  · rfl
  · exact absurd same labels
  · exact absurd same.symm labels
  · rfl

theorem crossingProperty_coherent : crossingProperty.Coherent :=
  coherent_of_reached_pair reached_crossingProperty (by decide)

theorem crossingProperty_typed : ∀ c ∈ crossingProperty.reached, c.isWellTyped = true := by
  rw [reached_crossingProperty]
  intro c hc
  simp only [List.mem_cons, List.not_mem_nil, or_false] at hc
  rcases hc with rfl | rfl
  · decide
  · decide

def crossingKeyNode : Node :=
  ⟨0, "Identifier", [("name", .plain (.text "ab_a"))], none, []⟩

def crossingRoot (loc : Option Location) (comments : List Comment) : Node :=
  ⟨1, "Property", [("key", .ofNode crossingKeyNode)], loc, comments⟩

section Root

variable {entries : List (String × Source)} {loc : Option Location} {comments : List Comment}

theorem entered_of_crossingKey (parts : Source.parts entries = [("key", crossingKey)]) :
    Source.enteredAll [] (Source.object 0 entries).content = [crossingKey] := by
  have content : (Source.object 0 entries).content = [crossingKey] := by
    rw [Source.content, parts]
    rfl
  have key : crossingKey.isNew [] = true := rfl
  have leaf : ∀ known, (Source.scalar (.text "ab_a")).isNew known = false := fun _ => rfl
  simp [Source.enteredAll, content, content_crossingKey, key, leaf]

/-- A property whose only content is that key. -/
theorem root_of_crossingKey [Stack] (type : Source.typeOf? entries = some "Property")
    (parts : Source.parts entries = [("key", crossingKey)])
    (read : Comment.readAll (Assembly.rawValue entries "leadingComments") = .ok comments)
    (located : Location.read (Assembly.rawValue entries "loc") = .ok loc) :
    (TreeInput.source (.object 0 entries)).root = .ok (crossingRoot loc comments) := by
  have node : (Source.object 0 entries).isNode = true := by
    rw [Source.isNode, type]
    rfl
  have first : Assembly.closeAll ⟨∅, 0⟩ [crossingKey] =
      .ok ⟨(∅ : Std.HashMap Nat Item).insert 1 (.ofNode crossingKeyNode), 1⟩ := rfl
  have key : Assembly.resolve ⟨(∅ : Std.HashMap Nat Item).insert 1 (.ofNode crossingKeyNode), 1⟩
      crossingKey = .ok (.ofNode crossingKeyNode) := by
    rw [Assembly.resolve_eq_ok_iff rfl]
    exact Std.HashMap.getElem?_insert_self
  have second : Assembly.assemble ⟨(∅ : Std.HashMap Nat Item).insert 1 (.ofNode crossingKeyNode), 1⟩
      (.object 0 entries) = .ok (.ofNode (crossingRoot loc comments)) := by
    rw [Assembly.assemble, type]
    show (Assembly.resolveEntries _ (Source.parts _) >>= fun fields => _) = _
    rw [parts, Assembly.resolveEntries, key, read, located]
    rfl
  rw [TreeInput.root, Node.ofSource_of_isNode node, entered_of_crossingKey parts, first]
  show (Assembly.assemble _ _ >>= fun item => _) >>= _ = _
  rw [second]
  rfl

/-- Only the property and its key are visited. -/
theorem node_of_mem_crossingRoot {v : Visit} (hv : v ∈ (crossingRoot loc comments).preorder) :
    v.node = crossingRoot loc comments ∨ v.node = crossingKeyNode := by
  rw [← Node.walk_eq_preorder] at hv
  have visits : (crossingRoot loc comments).walk = [⟨crossingRoot loc comments, []⟩,
      ⟨crossingKeyNode, [crossingRoot loc comments]⟩] := by
    simp [crossingRoot, Node.walk, Visit.walk, Visit.children, Visit.visitsTo, Node.children,
      Node.childrenIn, crossingKeyNode, Item.ofNode]
  rw [visits, List.mem_cons, List.mem_singleton] at hv
  rcases hv with rfl | rfl
  · exact Or.inl rfl
  · exact Or.inr rfl

end Root

open scoped Stack in
theorem checkProperty_crossingRoot :
    ∃ options, CamelcaseOptions.ofParams crossingParams = .ok options ∧
      Camelcase.checkProperty (crossingRoot none []) options = .error .crossedGroup := by
  have crossed : (match CamelcaseOptions.ofParams crossingParams with
      | .ok options =>
        match Camelcase.checkProperty (crossingRoot none []) options with
        | .error .crossedGroup => true
        | _ => false
      | .error _ => false) = true := by decide +kernel
  split at crossed
  · rename_i options accepted
    split at crossed
    · rename_i checked
      exact ⟨options, accepted, checked⟩
    · cases crossed
  · cases crossed

/-- A list with a number that has too many digits to be written. -/
def overlongList : Source :=
  .list 2 [.scalar (.int overlong)]

def overlongKey : Source :=
  .object 1 [("type", .scalar (.text "X")), ("value", overlongList)]

/-- A property whose key has that list for a value, and no name. -/
def overlongProperty : Source :=
  .object 0 [("type", .scalar (.text "Property")), ("key", overlongKey)]

theorem content_overlongKey : overlongKey.content = [overlongList] := by
  rfl

theorem content_overlongProperty : overlongProperty.content = [overlongKey] := by
  rfl

theorem reached_overlongProperty :
    overlongProperty.reached = [overlongList, overlongKey, overlongProperty] := by
  have root : overlongProperty.isScalar = false := rfl
  have key : overlongKey.isScalar = false := rfl
  have list : overlongList.isScalar = false := rfl
  have items : overlongList.content = [.scalar (.int overlong)] := rfl
  have leaf : (Source.scalar (.int overlong)).isScalar = true := rfl
  simp [Source.reached, Source.reachedAll, content_overlongProperty, content_overlongKey, items,
    root, key, list, leaf]

theorem overlongProperty_coherent : overlongProperty.Coherent := by
  intro c hc d hd same
  rw [reached_overlongProperty] at hc hd
  simp only [List.mem_cons, List.not_mem_nil, or_false] at hc hd
  rcases hc with rfl | rfl | rfl <;> rcases hd with rfl | rfl | rfl <;>
    first | rfl | cases same

theorem overlongProperty_typed : ∀ c ∈ overlongProperty.reached, c.isWellTyped = true := by
  rw [reached_overlongProperty]
  intro c hc
  simp only [List.mem_cons, List.not_mem_nil, or_false] at hc
  rcases hc with rfl | rfl | rfl <;> rfl

def overlongItem : Item :=
  .tuple [.plain (.int overlong)]

def overlongKeyNode : Node :=
  ⟨1, "X", [("value", overlongItem)], none, []⟩

def overlongRoot : Node :=
  ⟨2, "Property", [("key", .ofNode overlongKeyNode)], none, []⟩

theorem entered_overlongProperty :
    Source.enteredAll [] overlongProperty.content = [overlongKey, overlongList] := by
  have newKey : overlongKey.isNew [] = true := rfl
  have newList : overlongList.isNew [] = true := rfl
  have items : overlongList.content = [.scalar (.int overlong)] := rfl
  have leaf : ∀ known, (Source.scalar (.int overlong)).isNew known = false := fun _ => rfl
  simp [Source.enteredAll, content_overlongProperty, content_overlongKey, items, newKey, newList,
    leaf, Source.labels]

theorem root_overlongProperty [Stack] :
    (TreeInput.source overlongProperty).root = .ok overlongRoot := by
  have closed : Assembly.closeAll ⟨∅, 0⟩ [overlongKey, overlongList] =
      .ok ⟨((∅ : Std.HashMap Nat Item).insert 2 overlongItem).insert 1
        (.ofNode overlongKeyNode), 2⟩ := by
    show Assembly.close _ overlongKey = _
    rw [Assembly.close_of_label rfl, overlongKey,
      Assembly.assemble_of_field (by decide) (Assembly.resolve_insert rfl _ _ _)]
    rfl
  rw [TreeInput.root, Node.ofSource_of_isNode rfl, entered_overlongProperty, closed]
  show (Assembly.assemble _ _ >>= fun item => _) >>= _ = _
  rw [overlongProperty,
    Assembly.assemble_of_field (by decide) (Assembly.resolve_insert rfl _ _ _)]
  rfl

open scoped Stack in
theorem checkProperty_overlongRoot : Camelcase.checkProperty overlongRoot {} =
    .error .badValue := by
  have long : overlongItem.shownObstacle? (Stack.room .keyName) = some .digits := by
    show ((Value.int overlong).obstacle? 979).or none = _
    rw [Value.obstacle?_of_long overlong_long]
    rfl
  have text : Literal.text overlongItem = .error .badValue := by
    show overlongItem.textFor .keyName = _
    rw [Item.textFor, long]
    rfl
  have unnamed : overlongKeyNode.keyName? = .error .badValue := by
    show (Literal.text overlongItem >>= fun text => _) = _
    rw [text]
    rfl
  show (overlongKeyNode.keyName? >>= fun name => _) = _
  rw [unnamed]
  rfl

open Camelcase in
/-- Where the check of the root breaks off, a warning is logged. -/
theorem mem_lintWith_of_broken [Stack] {tree : TreeInput} {root : Node} {config : LintConfig}
    {settings : RuleSettings} {options : CamelcaseOptions} {fault : Fault} (file : String)
    (converted : tree.root = .ok root)
    (chosen : (config.find? Camelcase.identifier).getD {} = settings)
    (enabled : settings.enabled.truthy = true)
    (accepted : CamelcaseOptions.ofParams settings.params = .ok options)
    (free : severityFault? settings = none) (property : root.type = "Property")
    (broken : checkProperty root options = .error fault) :
    .ruleFailed identifier file "Property" fault ∈ (lintWith tree config file).1 := by
  obtain ⟨loading, _, run⟩ := lintWith_eq_checkNode file converted chosen (fun _ => accepted) free
  have outcome : (ruleWith settings options).outcome ⟨root, []⟩ = { fault := some fault } := by
    rw [Rule.outcome, property]
    show atProperty options root [] = _
    rw [atProperty, broken]
  have visited : (⟨root, []⟩ : Visit) ∈ root.walk := by
    rw [Node.walk, Visit.walk]
    exact List.mem_cons_self
  rw [run]
  refine List.mem_append_right _ (Engine.mem_checkNode_of_mem_run ?_)
  have loaded : (Engine.underSettings settings options).runners file =
      [⟨ruleWith settings options, (ruleWith settings options).context file⟩] := by
    have on : (ruleWith settings options).isEnabled = true := enabled
    rw [Engine.underSettings, if_pos enabled, Engine.runners, List.filter_singleton, on]
    rfl
  rw [loaded]
  refine Runner.mem_run_of_visit visited List.mem_cons_self ?_
  intro c
  rw [Runner.visit]
  dsimp only
  rw [outcome, property]
  rfl

open scoped Stack in
/-- Warnings on well-typed trees under accepted configurations: searching a name breaks off, or a
value has no text. Under a severity without a text there is no run at all. -/
theorem lintWith_crossingProperty_warns :
    (crossingProperty.Coherent ∧ crossingProperty.isNode = true ∧
      (∀ c ∈ crossingProperty.reached, c.isWellTyped = true) ∧
      (∃ options, CamelcaseOptions.ofParams crossingParams = .ok options) ∧
      ∃ e ∈ (lintWith (.source crossingProperty)
          [(.text "camelcase", { params := crossingParams })] "a.js").1, e.level = .warning) ∧
    (overlongProperty.Coherent ∧ overlongProperty.isNode = true ∧
      (∀ c ∈ overlongProperty.reached, c.isWellTyped = true) ∧
      (∃ e ∈ (lintWith (.source overlongProperty) [] "a.js").1, e.level = .warning)) ∧
    (lintWith (.source crossingProperty) [(.text "camelcase", { severity := .int overlong })]
      "a.js").2 = .error .badValue := by
  have chosen (settings : RuleSettings) :
      (LintConfig.find? [(.text "camelcase", settings)] Camelcase.identifier).getD {} =
        settings := by
    simp [LintConfig.find?, Value.same, Value.sameScalar, Camelcase.identifier]
  obtain ⟨options, accepted, crossed⟩ := checkProperty_crossingRoot
  refine ⟨⟨crossingProperty_coherent, rfl, crossingProperty_typed, ⟨options, accepted⟩, ?_⟩,
    ⟨overlongProperty_coherent, rfl, overlongProperty_typed, ?_⟩, ?_⟩
  · have free : Camelcase.severityFault? { params := crossingParams } = none :=
      Camelcase.severityFault?_of_null rfl (by decide)
    have root : (TreeInput.source crossingProperty).root = .ok (crossingRoot none []) :=
      root_of_crossingKey rfl rfl rfl rfl
    exact ⟨_, mem_lintWith_of_broken "a.js" root (chosen _) rfl accepted free rfl crossed, rfl⟩
  · have free : Camelcase.severityFault? {} = none :=
      Camelcase.severityFault?_of_null rfl (by decide)
    exact ⟨_, mem_lintWith_of_broken "a.js" root_overlongProperty rfl rfl rfl free rfl
      checkProperty_overlongRoot, rfl⟩
  · have keeps : Camelcase.severityFault? { severity := .int overlong } = some .badValue :=
      Camelcase.severityFault?_of_long rfl rfl overlong_long (by decide) (by decide)
    rw [lintWith, chosen, lint_of_enabled _ _ rfl rfl, keeps]
    rfl

/-- A property with the same key, a location and a comment in front of it. -/
def documentedProperty : Source :=
  let position (label : Nat) (column : Int) : Source :=
    .object label [("line", .scalar (.int 3)), ("column", .scalar (.int column))]
  let loc : Source := .object 2 [("start", position 3 0), ("end", position 4 8)]
  let comment : Source := .object 5 [("type", .scalar (.text "Block")),
    ("value", .scalar (.text "* @private ")), ("loc", loc)]
  .object 0 [("type", .scalar (.text "Property")), ("loc", loc),
    ("leadingComments", .list 6 [comment, .scalar .null]), ("key", crossingKey)]

theorem reached_documentedProperty :
    documentedProperty.reached = [crossingKey, documentedProperty] := by
  have root : documentedProperty.isScalar = false := rfl
  have content : documentedProperty.content = [crossingKey] := rfl
  have key : crossingKey.isScalar = false := rfl
  have leaf : (Source.scalar (.text "ab_a")).isScalar = true := rfl
  simp [Source.reached, Source.reachedAll, content, content_crossingKey, root, key, leaf]

theorem documentedProperty_coherent : documentedProperty.Coherent :=
  coherent_of_reached_pair reached_documentedProperty (by decide)

theorem documentedProperty_typed : ∀ c ∈ documentedProperty.reached, c.isWellTyped = true := by
  rw [reached_documentedProperty]
  intro c hc
  simp only [List.mem_cons, List.not_mem_nil, or_false] at hc
  rcases hc with rfl | rfl <;> decide +kernel

open scoped Stack in
/-- Where nothing is to be ignored, nothing is searched, and only the routine is logged. -/
theorem lintWith_documentedProperty :
    documentedProperty.Coherent ∧ documentedProperty.isNode = true ∧
    (∀ c ∈ documentedProperty.reached, c.isWellTyped = true) ∧
    ∃ vs, (lintWith (.source documentedProperty) [] "a.js").2 = .ok vs ∧
      ∀ e ∈ (lintWith (.source documentedProperty) [] "a.js").1,
        e.level ≠ .error ∧ e.level ≠ .warning := by
  have free : Camelcase.severityFault? {} = none := Camelcase.severityFault?_of_null rfl (by decide)
  obtain ⟨root, vs, converted, result, logged⟩ :=
    (lintWith_of_wellTyped ⟨documentedProperty, documentedProperty_coherent⟩ [] "a.js" {} {} rfl
      documentedProperty_typed rfl fun _ => rfl).2 free
  refine ⟨documentedProperty_coherent, rfl, documentedProperty_typed, vs, result, ?_⟩
  intro e he
  obtain ⟨noError, warned⟩ := logged e he
  refine ⟨noError, ?_⟩
  intro warning
  have own := documentedProperty_typed documentedProperty (Source.self_mem_reached rfl)
  rw [documentedProperty] at own
  obtain ⟨located, commented, _⟩ := Source.isWellTyped_object rfl own
  obtain ⟨loc, readLoc, _⟩ := Location.read_of_isLocation located
  obtain ⟨comments, readComments, _⟩ := Comment.readAll_of_areComments commented
  have known : (TreeInput.source documentedProperty).root = .ok (crossingRoot loc comments) :=
    root_of_crossingKey rfl rfl readComments readLoc
  obtain rfl := Except.ok.inj (converted.symm.trans known)
  obtain ⟨v, hv, fault, ⟨property, key, child, brokeOff⟩, _⟩ := warned warning
  rcases node_of_mem_crossingRoot hv with own | own <;> rw [own] at property child
  · cases child
    rcases brokeOff with unnamed | ⟨_, _, ⟨_, _, member, _⟩, _⟩
    · cases unnamed
    · cases member
  · cases child

end NameLint
