import NameLint.Rule.Camelcase

/-!
# Report histories

Reports are made to one context, one after the other, and some of them cannot be
completed. A report marks its node and sub type before anything can go wrong with it,
so a mark stands for one of two things: a violation that was recorded, or a report that
failed. The marks are the recorded violations, one for one, as long as no report fails,
and no longer: what a failed report was about is passed over from then on.
-/

namespace NameLint

def Report.key (r : Report) : Nat × String :=
  (r.node.id, r.subType.id)

structure Attempt where
  report : Report
  outcome : Except Fault (Option Violation)

namespace Attempt

/-- The violation that was recorded, with what it is about. -/
def recorded? (a : Attempt) : Option ((Nat × String) × Violation) :=
  match a.outcome with
  | .ok (some v) => some (a.report.key, v)
  | _ => none

/-- What a report was about that failed. -/
def failed? (a : Attempt) : Option (Nat × String) :=
  match a.outcome with
  | .error _ => some a.report.key
  | .ok _ => none

end Attempt

/-- The nodes and sub types with a recorded violation, in the order of the records. -/
def recordedKeys (history : List Attempt) : List (Nat × String) :=
  (history.filterMap Attempt.recorded?).map Prod.fst

def recordedViolations (history : List Attempt) : List Violation :=
  (history.filterMap Attempt.recorded?).map Prod.snd

def failedKeys (history : List Attempt) : List (Nat × String) :=
  history.filterMap Attempt.failed?

section Histories

variable (history : List Attempt) (a : Attempt)

@[simp] theorem recordedKeys_concat :
    recordedKeys (history ++ [a]) = recordedKeys history ++ (a.recorded?.map Prod.fst).toList := by
  cases found : a.recorded? <;> simp [recordedKeys, found]

@[simp] theorem recordedViolations_concat :
    recordedViolations (history ++ [a]) =
      recordedViolations history ++ (a.recorded?.map Prod.snd).toList := by
  cases found : a.recorded? <;> simp [recordedViolations, found]

@[simp] theorem failedKeys_concat :
    failedKeys (history ++ [a]) = failedKeys history ++ a.failed?.toList := by
  cases found : a.failed? <;> simp [failedKeys, found]

end Histories

namespace Context

def attempt [Stack] (c : Context) (r : Report) : Context × Except Fault (Option Violation) :=
  c.report r.node r.subType r.data

def attemptAll [Stack] (c : Context) : List Report → Context × List Attempt
  | [] => (c, [])
  | r :: rest =>
    let next := (c.attempt r).1.attemptAll rest
    (next.1, ⟨r, (c.attempt r).2⟩ :: next.2)

/-- A report is passed over, recorded, or fails. The last two mark what it is about. -/
theorem attempt_cases [Stack] (c : Context) (r : Report) :
    (r.key ∈ c.reported ∧ c.attempt r = (c, .ok none)) ∨
    (r.key ∉ c.reported ∧ ∃ v, c.attempt r =
      ({ c with reported := r.key :: c.reported, violations := c.violations ++ [v] },
        .ok (some v))) ∨
    (r.key ∉ c.reported ∧ ∃ fault, c.attempt r =
      ({ c with reported := r.key :: c.reported }, .error fault)) := by
  have marked : c.hasReported r.node r.subType = true ↔ r.key ∈ c.reported := by
    unfold hasReported
    exact List.contains_iff_mem
  unfold attempt report
  by_cases known : r.key ∈ c.reported
  · refine Or.inl ⟨known, ?_⟩
    rw [if_pos (marked.mpr known)]
    rfl
  · rw [if_neg fun found => known (marked.mp found)]
    cases c.violation r.node r.subType r.data with
    | ok v => exact Or.inr (Or.inl ⟨known, v, rfl⟩)
    | error fault => exact Or.inr (Or.inr ⟨known, fault, rfl⟩)

/-- Whether the context is what the history has left: its violations are those recorded, and its
marks are what was recorded or failed, each of them once. -/
structure Accounts (c : Context) (history : List Attempt) : Prop where
  violations : c.violations = recordedViolations history
  marks : c.reported.Perm (recordedKeys history ++ failedKeys history)
  once : (recordedKeys history ++ failedKeys history).Nodup

/-- What one report preserves. -/
theorem Accounts.attempt [Stack] {c : Context} {history : List Attempt}
    (accounts : c.Accounts history)
    (r : Report) : (c.attempt r).1.Accounts (history ++ [⟨r, (c.attempt r).2⟩]) := by
  have marked := accounts.marks.cons r.key
  have fresh : r.key ∉ c.reported →
      (r.key :: (recordedKeys history ++ failedKeys history)).Nodup := fun new =>
    List.nodup_cons.mpr ⟨fun known => new (accounts.marks.mem_iff.mpr known), accounts.once⟩
  rcases c.attempt_cases r with ⟨_, passed⟩ | ⟨new, v, recorded⟩ | ⟨new, fault, failed⟩
  · rw [passed]
    constructor
    · simpa [Attempt.recorded?] using accounts.violations
    · simpa [Attempt.recorded?, Attempt.failed?] using accounts.marks
    · simpa [Attempt.recorded?, Attempt.failed?] using accounts.once
  · rw [recorded]
    -- The new key goes to the end of the recorded ones, in front of those that failed.
    have moved : (r.key :: (recordedKeys history ++ failedKeys history)).Perm
        (recordedKeys history ++ r.key :: failedKeys history) := List.perm_middle.symm
    constructor
    · simpa [Attempt.recorded?] using accounts.violations
    · simpa [Attempt.recorded?, Attempt.failed?] using marked.trans moved
    · simpa [Attempt.recorded?, Attempt.failed?] using moved.nodup_iff.mp (fresh new)
  · rw [failed]
    have moved : (r.key :: (recordedKeys history ++ failedKeys history)).Perm
        (recordedKeys history ++ failedKeys history ++ [r.key]) :=
      (List.perm_append_singleton _ _).symm
    rw [List.append_assoc] at moved
    constructor
    · simpa [Attempt.recorded?] using accounts.violations
    · simpa [Attempt.recorded?, Attempt.failed?] using marked.trans moved
    · simpa [Attempt.recorded?, Attempt.failed?] using moved.nodup_iff.mp (fresh new)

/-- What a run of reports preserves. -/
theorem Accounts.attemptAll [Stack] {c : Context} {history : List Attempt}
    (accounts : c.Accounts history)
    (reports : List Report) :
    (c.attemptAll reports).1.Accounts (history ++ (c.attemptAll reports).2) := by
  induction reports generalizing c history with
  | nil =>
    rw [Context.attemptAll, List.append_nil]
    exact accounts
  | cons r rest ih =>
    have later := ih (accounts.attempt r)
    rw [List.append_assoc] at later
    exact later

/-- The marks are the recorded keys alone just if nothing failed. -/
theorem Accounts.marks_recorded_iff {c : Context} {history : List Attempt}
    (accounts : c.Accounts history) :
    c.reported.Perm (recordedKeys history) ↔ failedKeys history = [] := by
  constructor
  · intro balanced
    have same := (balanced.symm.trans accounts.marks).length_eq
    rw [List.length_append] at same
    exact List.length_eq_zero_iff.mp (by omega)
  · intro none
    have marks := accounts.marks
    rw [none, List.append_nil] at marks
    exact marks

/-- A report is passed over just if what it is about was recorded or failed before. -/
theorem Accounts.passed_iff [Stack] {c : Context} {history : List Attempt}
    (accounts : c.Accounts history)
    (r : Report) :
    (c.attempt r).2 = .ok none ↔ r.key ∈ recordedKeys history ∨ r.key ∈ failedKeys history := by
  have known : r.key ∈ c.reported ↔
      r.key ∈ recordedKeys history ∨ r.key ∈ failedKeys history :=
    accounts.marks.mem_iff.trans List.mem_append
  rw [← known]
  rcases c.attempt_cases r with ⟨marked, passed⟩ | ⟨new, v, recorded⟩ | ⟨new, fault, failed⟩
  · exact ⟨fun _ => marked, fun _ => congrArg Prod.snd passed⟩
  · refine ⟨fun same => ?_, fun marked => absurd marked new⟩
    rw [recorded] at same
    cases same
  · refine ⟨fun same => ?_, fun marked => absurd marked new⟩
    rw [failed] at same
    cases same

/-- A failed report leaves a mark and nothing else. -/
theorem attempt_of_failed [Stack] {c : Context} {r : Report} {fault : Fault}
    (failed : (c.attempt r).2 = .error fault) :
    r.key ∉ c.reported ∧ (c.attempt r).1 = { c with reported := r.key :: c.reported } := by
  rcases c.attempt_cases r with ⟨_, passed⟩ | ⟨_, v, recorded⟩ | ⟨new, other, same⟩
  · rw [passed] at failed
    cases failed
  · rw [recorded] at failed
    cases failed
  · exact ⟨new, congrArg Prod.fst same⟩

/-- What is marked is passed over. -/
theorem attempt_of_marked [Stack] {c : Context} {r : Report} (marked : r.key ∈ c.reported) :
    c.attempt r = (c, .ok none) := by
  rcases c.attempt_cases r with ⟨_, passed⟩ | ⟨new, _⟩ | ⟨new, _⟩
  · exact passed
  · exact absurd marked new
  · exact absurd marked new

theorem accounts_context (rule : Rule) (file : String) : (rule.context file).Accounts [] :=
  ⟨rfl, List.Perm.refl [], List.nodup_nil⟩

end Context

open Context in
/-- Reports made to a new context, whatever comes of them. The violations are those that the reports
have recorded, no two of them about one node and sub type, and the marks are these nodes and sub
types with those of failed reports. So each mark has its one violation if and only if no report has
failed. A further report is passed over if and only if what it is about was recorded or failed
before; one that fails records nothing, is marked all the same, and is passed over when it is
repeated. -/
theorem reports_all_or_nothing_iff [Stack] (rule : Rule) (file : String) (reports : List Report) :
    let c := ((rule.context file).attemptAll reports).1
    let history := ((rule.context file).attemptAll reports).2
    c.violations = recordedViolations history ∧
    c.reported.Perm (recordedKeys history ++ failedKeys history) ∧
    (recordedKeys history ++ failedKeys history).Nodup ∧
    (c.reported.Perm (recordedKeys history) ↔ failedKeys history = []) ∧
    (∀ r : Report, (c.attempt r).2 = .ok none ↔
      r.key ∈ recordedKeys history ∨ r.key ∈ failedKeys history) ∧
    ∀ (r : Report) (fault : Fault), (c.attempt r).2 = .error fault →
      (c.attempt r).1.violations = c.violations ∧
      (c.attempt r).1.reported = r.key :: c.reported ∧ r.key ∉ c.reported ∧
      ∀ again : Report, again.key = r.key →
        (c.attempt r).1.attempt again = ((c.attempt r).1, .ok none) := by
  intro c history
  have accounts : c.Accounts history :=
    (accounts_context rule file).attemptAll reports
  refine ⟨accounts.violations, accounts.marks, accounts.once, accounts.marks_recorded_iff,
    accounts.passed_iff, ?_⟩
  intro r fault failed
  obtain ⟨new, left⟩ := attempt_of_failed failed
  rw [left]
  refine ⟨rfl, rfl, new, fun again same => attempt_of_marked ?_⟩
  rw [same]
  exact List.mem_cons_self

/-- A report about an identifier that has a line but null for its column. -/
def nullColumnReport : Report :=
  { node := ⟨0, "Identifier", [("name", .plain (.text "a_b"))],
      some { startLine := .int 1, startColumn := .null, endLine := .int 1, endColumn := .null }, []⟩
    subType := Camelcase.identifierType
    data := .record [("name", .plain (.text "a_b"))] }

open scoped Stack in
open Context in
/-- After its first report has failed, nothing is recorded for the identifier, and a second report
is passed over instead of failing again. -/
theorem reports_of_nullColumn :
    let fresh := (Camelcase.ruleWith {} {}).context "a.js"
    let c := (fresh.attempt nullColumnReport).1
    (fresh.attempt nullColumnReport).2 = .error .wrongKind ∧
    c.violations = [] ∧ c.reported = [nullColumnReport.key] ∧
    ¬ c.reported.Perm (recordedKeys (fresh.attemptAll [nullColumnReport]).2) ∧
    c.attempt nullColumnReport = (c, .ok none) := by
  intro fresh c
  have failed : (fresh.attempt nullColumnReport).2 = .error .wrongKind := rfl
  obtain ⟨_, _, _, _, _, step⟩ := reports_all_or_nothing_iff (Camelcase.ruleWith {} {}) "a.js" []
  obtain ⟨_, _, _, balanced, _⟩ :=
    reports_all_or_nothing_iff (Camelcase.ruleWith {} {}) "a.js" [nullColumnReport]
  obtain ⟨same, marked, _, repeated⟩ := step nullColumnReport .wrongKind failed
  refine ⟨failed, same, marked, ?_, repeated nullColumnReport rfl⟩
  intro whole
  have none := balanced.mp whole
  exact absurd none (by decide)

end NameLint
