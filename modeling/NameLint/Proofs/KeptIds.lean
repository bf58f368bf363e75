import NameLint.Report.Violation

/-!
# Identifiers that are kept

The identifier of a violation is computed at its first use and kept from then on. It is
used where it is asked for and where the entries of a violation with a severity are
made, even if its data then turn out to be no mapping. Parts may be written over at any
time, so what is shown about a run goes step by step: a violation is what the writing has
left, with the identifier that the parts had at the first use. No identifier that is
ever given out differs from that one.
-/

namespace NameLint

namespace Violation

/-- What may happen to a violation, as long as its identifier is not written over. -/
inductive Step where
  /-- The identifier is asked for. -/
  | ask
  /-- The entries are made. -/
  | dump
  /-- A part is written over. -/
  | write (field : Field) (value : Value) (kept : field ≠ .identifier)
  /-- The severity is written over, by a known one or by anything else. -/
  | rate (mark : SeverityMark)
  /-- The data are written over, by a value or by a part of a tree. -/
  | attach (data : Item)

inductive Answer where
  | nothing
  | asked (result : Except Fault Value)
  | dumped (result : Except Fault (List (String × Item)))

def Answer.id? : Answer → Option Item
  | .asked (.ok id) => some (.plain id)
  | .dumped (.ok entries) => entries.lookup "violation_id"
  | _ => none

def step [Stack] (v : Violation) : Step → Violation × Answer
  | .ask => (v.readId.1, .asked v.readId.2)
  | .dump => (v.toEntries.1, .dumped v.toEntries.2)
  | .write field value _ => (v.put field value, .nothing)
  | .rate mark => ({ v with severity := mark }, .nothing)
  | .attach data => ({ v with data := data }, .nothing)

def run [Stack] (v : Violation) : List Step → Violation × List Answer
  | [] => (v, [])
  | s :: rest =>
    let next := (v.step s).1.run rest
    (next.1, (v.step s).2 :: next.2)

def isRated (v : Violation) : Bool :=
  match v.severity with
  | .known _ => true
  | .other _ => false

/-- What a step writes. -/
def Step.written (v : Violation) : Step → Violation
  | .write field value _ => v.put field value
  | .rate mark => { v with severity := mark }
  | .attach data => { v with data := data }
  | _ => v

/-- Whether a step uses the identifier. What the data are makes no difference. -/
def Step.uses [Stack] (v : Violation) : Step → Bool
  | .ask => v.hasDigest
  | .dump => v.isRated && v.hasDigest
  | _ => false

def writtenAll (v : Violation) (steps : List Step) : Violation :=
  steps.foldl Step.written v

/-- The violation as it has been written when the identifier is first used. -/
def firstUse? [Stack] (v : Violation) : List Step → Option Violation
  | [] => none
  | s :: rest => if s.uses v then some v else (s.written v).firstUse? rest

def firstId? [Stack] (v : Violation) (steps : List Step) : Option String :=
  (v.firstUse? steps).map computedId

def withId (v : Violation) (id : Option String) : Violation :=
  { v with identifier := id.elim .null .text }

theorem withId_none {v : Violation} (unknown : v.identifier = .null) : v.withId none = v := by
  cases v
  simp_all [withId]

theorem firstUse?_of_used [Stack] {v : Violation} {s : Step} (used : s.uses v = true)
    (rest : List Step) :
    v.firstUse? (s :: rest) = some v := by
  simp [firstUse?, used]

theorem firstUse?_of_unused [Stack] {v : Violation} {s : Step} (unused : s.uses v = false)
    (rest : List Step) : v.firstUse? (s :: rest) = (s.written v).firstUse? rest := by
  simp [firstUse?, unused]

theorem firstUse?_concat [Stack] (v : Violation) (steps : List Step) (s : Step) :
    v.firstUse? (steps ++ [s]) =
      (v.firstUse? steps).or
        (if s.uses (v.writtenAll steps) then some (v.writtenAll steps) else none) := by
  induction steps generalizing v with
  | nil => rfl
  | cons first rest ih =>
    cases used : first.uses v with
    | true => simp [firstUse?_of_used used]
    | false =>
      rw [List.cons_append, firstUse?_of_unused used, firstUse?_of_unused used]
      exact ih (first.written v)

/-- The identifier that a step computes where there is none yet. -/
def Step.computed? [Stack] (v : Violation) (s : Step) : Option String :=
  if s.uses v then some v.computedId else none

theorem firstId?_cons [Stack] (v : Violation) (s : Step) (rest : List Step) :
    v.firstId? (s :: rest) = (s.computed? v).or ((s.written v).firstId? rest) := by
  cases used : s.uses v with
  | true => simp [firstId?, firstUse?_of_used used, Step.computed?, used]
  | false => simp [firstId?, firstUse?_of_unused used, Step.computed?, used]

theorem firstId?_concat [Stack] (v : Violation) (steps : List Step) (s : Step) :
    v.firstId? (steps ++ [s]) = (v.firstId? steps).or (s.computed? (v.writtenAll steps)) := by
  rw [firstId?, firstUse?_concat, Option.map_or, firstId?, Step.computed?]
  by_cases used : s.uses (v.writtenAll steps) = true <;> simp [used]

/-- What is in the way of the identifier, where a part has no text. -/
def digestFault [Stack] (v : Violation) : Fault :=
  (v.digestObstacle?.map Fault.ofObstacle).getD .badValue

/-- Reading gives the identifier that is there, or else computes one if the parts have texts. -/
theorem readId_withId [Stack] (v : Violation) (id : Option String) :
    (v.withId id).readId =
      (v.withId (id.or (Step.ask.computed? v)),
        (id.or (Step.ask.computed? v)).elim (.error v.digestFault) fun id => .ok (.text id)) := by
  cases id with
  | some id => rfl
  | none =>
    have same : (v.withId none).digestObstacle? = v.digestObstacle? := rfl
    rw [readId, same]
    cases digest : v.digestObstacle? with
    | none =>
      have computed : Step.ask.computed? v = some v.computedId := by
        simp [Step.computed?, Step.uses, hasDigest, digest]
      rw [computed]
      rfl
    | some obstacle =>
      have unknown : Step.ask.computed? v = none := by
        simp [Step.computed?, Step.uses, hasDigest, digest]
      rw [unknown, digestFault, digest]
      rfl

/-- Among the entries stands the identifier that the violation has. -/
theorem lookup_allEntries {v : Violation} {s : Severity} {entries : List (String × Item)}
    (made : v.allEntries s = .ok entries) :
    entries.lookup "violation_id" = some (.plain v.identifier) := by
  have required (more : List (String × Item)) :
      (v.requiredEntries s ++ v.optionalEntries ++ more).lookup "violation_id" =
        some (.plain v.identifier) := rfl
  unfold allEntries at made
  split at made
  · obtain ⟨data, _, made⟩ := Fault.bind_eq_ok.mp made
    cases made
    exact required [("data", data)]
  · cases made
    simpa using required []

theorem allEntries_of_fault {v : Violation} {fault : Fault} (present : v.data.truthy = true)
    (failed : copyData v.data = .error fault) (s : Severity) : v.allEntries s = .error fault := by
  simp [allEntries, present, failed, bind, Except.bind]

theorem allEntries_of_copy {v : Violation}
    (copies : v.data.truthy = true → ∃ copy, copyData v.data = .ok copy) (s : Severity) :
    ∃ entries, v.allEntries s = .ok entries := by
  by_cases present : v.data.truthy = true
  · obtain ⟨copy, copied⟩ := copies present
    simp [allEntries, present, copied, bind, Except.bind, pure, Except.pure]
  · simp [allEntries, present, pure, Except.pure]

theorem put_withId (v : Violation) (id : Option String) {field : Field} (value : Value)
    (kept : field ≠ .identifier) :
    (v.withId id).put field value = (v.put field value).withId id := by
  cases field with
  | identifier => exact absurd rfl kept
  | _ => rfl

/-- Without a severity, making entries fails and does nothing. -/
theorem toEntries_unrated [Stack] {v : Violation} {mark : Value} (rated : v.severity = .other mark)
    (id : Option String) : (v.withId id).toEntries = (v.withId id, .error .noMember) := by
  have same : (v.withId id).severity = .other mark := rated
  rw [toEntries, same]
  rfl

/-- With a severity, the identifier is read before the data are looked at. -/
theorem toEntries_rated [Stack] {v : Violation} {s : Severity} (rated : v.severity = .known s)
    (id : Option String) :
    (v.withId id).toEntries =
      (v.withId (id.or (Step.ask.computed? v)),
        (id.or (Step.ask.computed? v)).elim (.error v.digestFault) fun id =>
          (v.withId (some id)).allEntries s) := by
  have same : (v.withId id).severity = .known s := rated
  rw [toEntries, same, readId_withId]
  cases id.or (Step.ask.computed? v) with
  | none => rfl
  | some id => rfl

theorem computed?_dump_unrated [Stack] {v : Violation} {mark : Value}
    (rated : v.severity = .other mark) :
    Step.dump.computed? v = none := by
  simp [Step.computed?, Step.uses, isRated, rated]

theorem computed?_dump_rated [Stack] {v : Violation} {s : Severity}
    (rated : v.severity = .known s) :
    Step.dump.computed? v = Step.ask.computed? v := by
  have same : Step.dump.uses v = Step.ask.uses v := by simp [Step.uses, isRated, rated]
  simp only [Step.computed?, same]

/-- What one step preserves: the violation stays what is written, with the identifier that was there
before, or else with the one that the step computes. -/
theorem step_withId [Stack] (v : Violation) (id : Option String) (s : Step) :
    ((v.withId id).step s).1 = (s.written v).withId (id.or (s.computed? v)) := by
  cases s with
  | ask => simp only [step, readId_withId, Step.written]
  | dump =>
    cases rated : v.severity with
    | other mark =>
      simp [step, toEntries_unrated rated, computed?_dump_unrated rated, Step.written]
    | known s => simp [step, toEntries_rated rated, computed?_dump_rated rated, Step.written]
  | write field value kept =>
    simp [step, put_withId v id value kept, Step.written, Step.computed?, Step.uses]
  | rate mark => simp [step, Step.written, Step.computed?, Step.uses, withId]
  | attach data => simp [step, Step.written, Step.computed?, Step.uses, withId]

/-- A step shows no identifier but the one that is kept after it. -/
theorem id?_step_withId [Stack] {v : Violation} {id : Option String} {s : Step} {shown : Item}
    (h : ((v.withId id).step s).2.id? = some shown) :
    ∃ text, id.or (s.computed? v) = some text ∧ shown = .plain (.text text) := by
  cases s with
  | ask =>
    simp only [step, readId_withId] at h
    cases kept : id.or (Step.ask.computed? v) with
    | none => simp [kept, Answer.id?] at h
    | some text => exact ⟨text, rfl, by simpa [kept, Answer.id?] using h.symm⟩
  | dump =>
    cases rated : v.severity with
    | other mark => simp [step, toEntries_unrated rated, Answer.id?] at h
    | known s =>
      rw [computed?_dump_rated rated]
      simp only [step, toEntries_rated rated] at h
      cases kept : id.or (Step.ask.computed? v) with
      | none => simp [kept, Answer.id?] at h
      | some text =>
        refine ⟨text, rfl, ?_⟩
        cases made : (v.withId (some text)).allEntries s with
        | error fault => simp [kept, made, Answer.id?] at h
        | ok entries =>
          have found : entries.lookup "violation_id" = some shown := by
            simpa [kept, made, Answer.id?] using h
          exact Option.some.inj (found.symm.trans (lookup_allEntries made))
  | _ => cases h

/-- What a run preserves. -/
theorem run_withId [Stack] (v : Violation) (id : Option String) (steps : List Step) :
    ((v.withId id).run steps).1 = (v.writtenAll steps).withId (id.or (v.firstId? steps)) := by
  induction steps generalizing v id with
  | nil => simp [run, writtenAll, firstId?, firstUse?]
  | cons s rest ih =>
    have later := ih (s.written v) (id.or (s.computed? v))
    rw [Option.or_assoc, ← firstId?_cons, ← step_withId] at later
    exact later

/-- A run shows no identifier but the one that is kept after it. -/
theorem id?_run_withId [Stack] {v : Violation} {id : Option String} {steps : List Step}
    {answer : Answer}
    (given : answer ∈ ((v.withId id).run steps).2) {shown : Item} (h : answer.id? = some shown) :
    ∃ text, id.or (v.firstId? steps) = some text ∧ shown = .plain (.text text) := by
  induction steps generalizing v id with
  | nil => cases given
  | cons s rest ih =>
    rw [firstId?_cons, ← Option.or_assoc]
    rcases List.mem_cons.mp given with rfl | later
    · obtain ⟨text, kept, same⟩ := id?_step_withId h
      exact ⟨text, by simp [kept], same⟩
    · rw [step_withId] at later
      exact ih later

/-- A run from a violation without an identifier. -/
theorem run_of_unknown [Stack] {v : Violation} (unknown : v.identifier = .null)
    (steps : List Step) :
    (v.run steps).1 = (v.writtenAll steps).withId (v.firstId? steps) := by
  simpa [withId_none unknown] using run_withId v none steps

/-- With a severity, entries are made under the identifier of the first use, which may be this one.
-/
theorem step_dump_of_rated [Stack] {v : Violation} (unknown : v.identifier = .null)
    {steps : List Step}
    {severity : Severity} (rated : (v.writtenAll steps).severity = .known severity)
    (digest : (v.writtenAll steps).hasDigest = true) :
    ∃ w, v.firstUse? (steps ++ [.dump]) = some w ∧
      (v.run steps).1.step .dump = ((v.writtenAll steps).withId (some w.computedId),
        .dumped (((v.writtenAll steps).withId (some w.computedId)).allEntries severity)) := by
  have used : Step.dump.uses (v.writtenAll steps) = true := by
    simp [Step.uses, isRated, rated, digest]
  obtain ⟨w, first⟩ : ∃ w, v.firstUse? (steps ++ [.dump]) = some w := by
    rw [firstUse?_concat, if_pos used, ← Option.isSome_iff_exists]
    simp
  refine ⟨w, first, ?_⟩
  have kept := firstId?_concat v steps .dump
  rw [firstId?, first, Option.map_some, computed?_dump_rated rated] at kept
  simp only [run_of_unknown unknown, step, toEntries_rated rated, ← kept, Option.elim_some]

end Violation

open Violation in
/-- Whatever is done with a violation that has no identifier yet, short of writing one over it,
every identifier that is shown is the digest of what the parts were at the first use. The violation
is what the writing has left, with that identifier, and asking gives it as soon as there is one.
Making entries without a severity fails and computes nothing. With a severity the identifier is
computed and kept, also where the data cannot be copied; otherwise it is among the entries. -/
theorem ids_kept_from_first_use [Stack] (v : Violation) (unknown : v.identifier = .null)
    (steps : List Step) :
    let now := v.writtenAll steps
    (∀ answer ∈ (v.run steps).2, ∀ id, answer.id? = some id →
      ∃ w, v.firstUse? steps = some w ∧ id = .plain (.text w.computedId)) ∧
    (v.run steps).1 = now.withId ((v.firstUse? steps).map computedId) ∧
    (∀ w, v.firstUse? (steps ++ [.ask]) = some w →
      (v.run steps).1.step .ask =
        (now.withId (some w.computedId), .asked (.ok (.text w.computedId)))) ∧
    (∀ mark, now.severity = .other mark →
      (v.run steps).1.step .dump = ((v.run steps).1, .dumped (.error .noMember))) ∧
    ∀ severity, now.severity = .known severity → now.hasDigest = true →
      ∃ w result, v.firstUse? (steps ++ [.dump]) = some w ∧
        (v.run steps).1.step .dump = (now.withId (some w.computedId), .dumped result) ∧
        (∀ fault, now.data.truthy = true → copyData now.data = .error fault →
          result = .error fault) ∧
        ((now.data.truthy = true → ∃ copy, copyData now.data = .ok copy) →
          ∃ entries, result = .ok entries ∧
            entries.lookup "violation_id" = some (.plain (.text w.computedId))) := by
  intro now
  have state := run_of_unknown unknown steps
  refine ⟨?_, state, ?_, ?_, ?_⟩
  · intro answer given id shown
    rw [← withId_none unknown] at given
    obtain ⟨text, kept, same⟩ := id?_run_withId given shown
    obtain ⟨w, first, rfl⟩ := Option.map_eq_some_iff.mp kept
    exact ⟨w, first, same⟩
  · intro w first
    have kept := firstId?_concat v steps .ask
    rw [firstId?, first, Option.map_some] at kept
    simp only [state, step, readId_withId, ← kept, Option.elim_some, now]
  · intro mark rated
    rw [state, step, toEntries_unrated rated]
  · intro severity rated digest
    obtain ⟨w, first, after⟩ := step_dump_of_rated unknown rated digest
    refine ⟨w, _, first, after, fun fault present failed => ?_, fun copies => ?_⟩
    · exact allEntries_of_fault (v := now.withId (some w.computedId)) present failed severity
    · obtain ⟨entries, made⟩ :=
        allEntries_of_copy (v := now.withId (some w.computedId)) copies severity
      exact ⟨entries, made, lookup_allEntries made⟩

/-- A violation before its identifier is used. -/
def freshViolation : Violation :=
  { filePath := .text "a.js"
    line := .int 1
    column := .int 2
    severity := .known .warning
    message := .text "m"
    ruleId := .text "r" }

open Violation in
/-- The entries are asked for without a severity, then with data that is no mapping, and between
and behind that the line is written over. -/
def rewrittenLine : List Step :=
  [.rate (.other .null), .dump, .write .line (.int 7) (by decide), .rate (.known .error),
    .attach (.plain (.int 5)), .dump, .write .line (.int 9) (by decide)]

/-- What that leaves, apart from the identifier, when entries are asked for the second time. -/
def secondDump : Violation :=
  { freshViolation with line := .int 7, severity := .known .error, data := .plain (.int 5) }

open scoped Stack in
open Violation in
/-- Neither of the attempts gives entries, but the second one has computed the identifier, for the
line as it was then. -/
theorem ids_kept_from_rewrittenLine :
    freshViolation.identifier = .null ∧ freshViolation.firstUse? rewrittenLine = some secondDump ∧
    (freshViolation.run rewrittenLine).1.line = .int 9 ∧
    (freshViolation.run rewrittenLine).1.identifier = .text "bd6cfd851fd8db06" ∧
    ((freshViolation.run rewrittenLine).1.step .ask).2 =
      .asked (.ok (.text "bd6cfd851fd8db06")) := by
  have digest : secondDump.hasDigest = true := by decide +kernel
  have id : secondDump.computedId = "bd6cfd851fd8db06" := by decide +kernel
  have first : freshViolation.firstUse? rewrittenLine = some secondDump := by
    have used : Step.dump.uses secondDump = true := by
      rw [Step.uses, digest]
      rfl
    rw [rewrittenLine, firstUse?_of_unused rfl, firstUse?_of_unused rfl, firstUse?_of_unused rfl,
      firstUse?_of_unused rfl, firstUse?_of_unused rfl]
    exact firstUse?_of_used used _
  obtain ⟨_, state, asked, _⟩ := ids_kept_from_first_use freshViolation rfl rewrittenLine
  rw [first, Option.map_some, id] at state
  refine ⟨rfl, first, ?_, ?_, ?_⟩
  · rw [state]
    rfl
  · rw [state]
    rfl
  · rw [asked secondDump (by rw [firstUse?_concat, first]; rfl), id]

end NameLint
