import NameLint.Proofs.Places

/-!
# Rules do not touch each other

Every rule has a report context of its own, so a run of several rules is the runs
of the single rules side by side. What a rule contributes to the sorted result is
then what it finds alone: sorting commutes with leaving the other rules out. A
rule that gives up on a node keeps the reports that it has made there.
-/

namespace NameLint

namespace Runner

/-- One rule on some visits, by itself. -/
def follow [Stack] (file : String) (visits : List Visit) (r : Runner) : Runner :=
  visits.foldl (fun r v => (r.visit file v).1) r

/-- A visit changes only what is recorded, and that does not depend on how the visit ends. -/
theorem visit_fst [Stack] (file : String) (v : Visit) (r : Runner) :
    (r.visit file v).1 = ⟨r.rule, (r.context.reportAll (r.rule.outcome v).reports).1⟩ := by
  unfold visit Context.take
  cases r.context.reportAll (r.rule.outcome v).reports with
  | mk next fault =>
    cases fault with
    | none =>
      cases (r.rule.outcome v).fault with
      | none => rfl
      | some fault => rfl
    | some fault => rfl

theorem follow_cons [Stack] (file : String) (v : Visit) (rest : List Visit) (r : Runner) :
    r.follow file (v :: rest) =
      Runner.follow file rest ⟨r.rule, (r.context.reportAll (r.rule.outcome v).reports).1⟩ := by
  rw [← visit_fst file v r]
  rfl

/-- A run of several rules is the run of each of them. -/
theorem run_eq_map_follow [Stack] (file : String) (runners : List Runner) (visits : List Visit) :
    (run file runners visits).1 = runners.map (follow file visits) := by
  induction visits generalizing runners with
  | nil =>
    have still : follow file [] = id := rfl
    rw [still, List.map_id]
    rfl
  | cons v rest ih =>
    calc (run file runners (v :: rest)).1
        = (run file ((runners.map (visit file v)).map Prod.fst) rest).1 := rfl
      _ = ((runners.map (visit file v)).map Prod.fst).map (follow file rest) := ih _
      _ = runners.map (follow file (v :: rest)) := by
        rw [List.map_map, List.map_map]
        rfl

end Runner

namespace Context

/-- Whether every violation recorded has a whole line and column. -/
def AllPlaced (c : Context) : Prop :=
  ∀ v ∈ c.violations, v.IsPlaced

theorem report_allPlaced [Stack] {c : Context} {n : Node} (t : SubType) (data : Item)
    (placed : c.AllPlaced) (h : n.HasPlace) : (c.report n t data).1.AllPlaced := by
  unfold report
  split
  · exact placed
  · cases recorded : c.violation n t data with
    | error fault => exact placed
    | ok v =>
      intro w hw
      rcases List.mem_append.mp hw with old | new
      · exact placed w old
      · obtain rfl := List.mem_singleton.mp new
        exact (violation_place h recorded).1

theorem reportAll_allPlaced [Stack] {c : Context} {reports : List Report} (placed : c.AllPlaced)
    (h : ∀ p ∈ reports, p.node.HasPlace) : (c.reportAll reports).1.AllPlaced := by
  induction reports generalizing c with
  | nil => exact placed
  | cons p rest ih =>
    have first := report_allPlaced p.subType p.data placed (h p List.mem_cons_self)
    unfold reportAll
    split
    · rename_i next v made
      rw [made] at first
      exact ih first fun q hq => h q (List.mem_cons_of_mem p hq)
    · rename_i next fault made
      rw [made] at first
      exact first

end Context

theorem Runner.follow_allPlaced [Stack] {file : String} {visits : List Visit} {r : Runner}
    (placed : r.context.AllPlaced)
    (h : ∀ v ∈ visits, ∀ p ∈ (r.rule.outcome v).reports, p.node.HasPlace) :
    (r.follow file visits).context.AllPlaced := by
  induction visits generalizing r with
  | nil => exact placed
  | cons v rest ih =>
    rw [follow_cons]
    apply ih
    · exact Context.reportAll_allPlaced placed (h v List.mem_cons_self)
    · intro w hw
      exact h w (List.mem_cons_of_mem v hw)

namespace Rule

/-- The violations that a rule finds on some visits, in the order of its reports. -/
def found [Stack] (r : Rule) (file : String) (visits : List Visit) : List Violation :=
  (Runner.follow file visits ⟨r, r.context file⟩).context.violations

/-- Whether all nodes that the rule reports on the visits have places. -/
def ReportsPlaced (r : Rule) (visits : List Visit) : Prop :=
  ∀ v ∈ visits, ∀ p ∈ (r.outcome v).reports, p.node.HasPlace

theorem found_isPlaced [Stack] {r : Rule} {file : String} {visits : List Visit}
    (h : r.ReportsPlaced visits) : ∀ v ∈ r.found file visits, v.IsPlaced := by
  have none : (r.context file).AllPlaced := by
    intro v hv
    cases hv
  have start : (Runner.mk r (r.context file)).context.AllPlaced := none
  exact Runner.follow_allPlaced start h

theorem lookup_map_snd {α β : Type} (f : α → β) (entries : List (String × α)) (key : String) :
    (entries.map fun e => (e.1, f e.2)).lookup key = (entries.lookup key).map f := by
  induction entries with
  | nil => rfl
  | cons e rest ih =>
    rw [List.map_cons, List.lookup_cons, List.lookup_cons, ih]
    split <;> rfl

end Rule

namespace Engine

/-- The enabled rules, each with its number among all rules. -/
def enabledRules (e : Engine) : List (Rule × Nat) :=
  e.rules.zipIdx.filter fun r => r.1.isEnabled

/-- What the run of all rules has found, rule after rule, each violation with the number of the rule
that it comes from. -/
def collected [Stack] (e : Engine) (root : Node) (file : String) : List (Nat × Violation) :=
  (e.enabledRules.zip (Runner.run file (e.runners file) root.walk).1).flatMap fun entry =>
    entry.2.context.violations.map fun v => (entry.1.2, v)

theorem runners_eq_map (e : Engine) (file : String) :
    e.runners file = e.enabledRules.map fun r => ⟨r.1, r.1.context file⟩ := by
  have rules : e.rules.filter Rule.isEnabled = e.enabledRules.map Prod.fst := by
    have filtered := List.filter_map (f := Prod.fst) (p := Rule.isEnabled) (l := e.rules.zipIdx)
    rw [List.zipIdx_map_fst] at filtered
    exact filtered
  rw [runners, rules, List.map_map]
  rfl

/-- What the rules of a list contribute under their numbers. -/
def numbered (g : Rule → List Violation) (rules : List (Rule × Nat)) : List (Nat × Violation) :=
  (rules.filter fun r => r.1.isEnabled).flatMap fun r => (g r.1).map fun v => (r.2, v)

/-- The rules contribute in their order what each of them finds. -/
theorem collected_eq_numbered [Stack] (e : Engine) (root : Node) (file : String) :
    e.collected root file = numbered (fun r => r.found file root.walk) e.rules.zipIdx := by
  unfold collected
  rw [Runner.run_eq_map_follow, runners_eq_map, List.map_map]
  unfold numbered enabledRules
  generalize (e.rules.zipIdx.filter fun r => r.1.isEnabled) = rules
  induction rules with
  | nil => rfl
  | cons r rest ih =>
    rw [List.map_cons, List.zip_cons_cons, List.flatMap_cons, List.flatMap_cons, ih]
    rfl

theorem collected_map_snd [Stack] (e : Engine) (root : Node) (file : String) :
    (e.collected root file).map Prod.snd =
      (Runner.run file (e.runners file) root.walk).1.flatMap fun r => r.context.violations := by
  rw [collected_eq_numbered, Runner.run_eq_map_follow, runners_eq_map, List.map_map]
  unfold numbered enabledRules
  generalize (e.rules.zipIdx.filter fun r => r.1.isEnabled) = rules
  induction rules with
  | nil => rfl
  | cons r rest ih =>
    rw [List.map_cons, List.flatMap_cons, List.flatMap_cons, List.map_append, ih, List.map_map]
    congr 1
    exact List.map_id _

theorem numbered_cons (g : Rule → List Violation) (r : Rule × Nat) (rest : List (Rule × Nat)) :
    numbered g (r :: rest) =
      (if r.1.isEnabled then (g r.1).map fun v => (r.2, v) else []) ++ numbered g rest := by
  unfold numbered
  rw [List.filter_cons]
  split <;> rfl

theorem collected_source [Stack] {e : Engine} {root : Node} {file : String}
    {entry : Nat × Violation}
    (h : entry ∈ e.collected root file) :
    ∃ r, e.rules[entry.1]? = some r ∧ r.isEnabled = true ∧ entry.2 ∈ r.found file root.walk := by
  rw [collected_eq_numbered] at h
  obtain ⟨r, hr, hentry⟩ := List.mem_flatMap.mp h
  obtain ⟨v, hv, rfl⟩ := List.mem_map.mp hentry
  obtain ⟨member, enabled⟩ := List.mem_filter.mp hr
  exact ⟨r.1, List.mem_zipIdx_iff_getElem?.mp member, enabled, hv⟩

def ReportsPlaced (e : Engine) (root : Node) : Prop :=
  ∀ r ∈ e.rules, r.isEnabled = true → r.ReportsPlaced root.walk

theorem collected_isPlaced [Stack] {e : Engine} {root : Node} (placed : e.ReportsPlaced root)
    (file : String) : ∀ entry ∈ e.collected root file, entry.2.IsPlaced := by
  intro entry hentry
  obtain ⟨r, hr, enabled, hv⟩ := collected_source hentry
  exact Rule.found_isPlaced (placed r (List.mem_of_getElem? hr) enabled) _ hv

theorem checkNode_snd [Stack] (e : Engine) (root : Node) (file : String) :
    (e.checkNode root file).2 =
      Violation.sortByPlace ((e.collected root file).map Prod.snd) := by
  rw [collected_map_snd]
  unfold checkNode
  dsimp only
  split
  · rename_i sorted h
    exact h.symm
  · rename_i fault h
    exact h.symm

/-- Where all places are whole, checking succeeds and gives what was found by place. -/
theorem checkNode_of_placed [Stack] {e : Engine} {root : Node} (placed : e.ReportsPlaced root)
    (file : String) :
    (e.checkNode root file).2 =
      .ok (((e.collected root file).map Prod.snd).mergeSort Violation.inOrder) := by
  rw [checkNode_snd]
  apply Violation.sortByPlace_of_isPlaced
  intro v hv
  obtain ⟨entry, hentry, rfl⟩ := List.mem_map.mp hv
  exact collected_isPlaced placed file entry hentry

theorem collected_single [Stack] (r : Rule) (root : Node) (file : String) :
    ((Engine.mk [r]).collected root file).map Prod.snd =
      if r.isEnabled then r.found file root.walk else [] := by
  rw [collected_eq_numbered]
  show (numbered _ [(r, 0)]).map Prod.snd = _
  rw [numbered_cons]
  split
  · show (((r.found file root.walk).map fun v => (0, v)) ++ []).map _ = _
    rw [List.append_nil, List.map_map]
    exact List.map_id _
  · rfl

/-- One rule alone gives what it finds, by place. -/
theorem checkNode_single [Stack] {r : Rule} {root : Node}
    (placed : r.isEnabled = true → r.ReportsPlaced root.walk) (file : String) :
    (Engine.checkNode ⟨[r]⟩ root file).2 =
      .ok (if r.isEnabled then (r.found file root.walk).mergeSort Violation.inOrder else []) := by
  have all : (Engine.mk [r]).ReportsPlaced root := by
    intro s hs enabled
    obtain rfl := List.mem_singleton.mp hs
    exact placed enabled
  rw [checkNode_of_placed all, collected_single]
  split
  · rfl
  · rw [List.mergeSort_nil]

theorem checkTree_of_root [Stack] {tree : TreeInput} {root : Node}
    (converted : tree.root = .ok root)
    (e : Engine) (file : String) : e.checkTree tree file = e.checkNode root file := by
  rw [checkTree, converted]

end Engine

end NameLint
