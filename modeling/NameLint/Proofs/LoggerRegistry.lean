import Mathlib.Data.List.Induction
import NameLint.Log.Session

/-!
# The registry of loggers

Loggers are registered by name, their handlers are kept apart from them, and so is
the time in the names of files. Through every history of calls, endings of the session
and changes of what is around it, the three agree: a name is registered if and only if
it has handlers, and these are the ones that were opened when its logger was made. The
logger of a name stays the same until the session ends, and so does the time. A call
that fails leaves registry and handlers as they were.
-/

namespace NameLint.Log.Session

section Handlers

variable (s : Session) (name : String) (hs : List Handler)

theorem lookup_filter_ne {α : Type} (name other : String) (entries : List (String × α)) :
    (entries.filter fun e => e.1 != name).lookup other =
      if other = name then none else entries.lookup other := by
  induction entries with
  | nil => simp
  | cons e rest ih =>
    obtain ⟨key, value⟩ := e
    by_cases dropped : key = name
    · rw [List.filter_cons_of_neg (by simp [dropped]), ih]
      by_cases own : other = name
      · rw [if_pos own, if_pos own]
      · have apart : (other == key) = false := by simp [dropped, own]
        rw [if_neg own, if_neg own, List.lookup_cons, apart]
    · rw [List.filter_cons_of_pos (by simp [dropped]), List.lookup_cons, List.lookup_cons, ih]
      by_cases own : other = name
      · have apart : (other == key) = false := by simpa [own] using fun h => dropped h.symm
        rw [if_pos own, if_pos own, apart]
      · rw [if_neg own, if_neg own]

/-- Setting the handlers of a logger changes those of no other. -/
theorem handlersOf_setHandlers (other : String) :
    (s.setHandlers name hs).handlersOf other =
      if other = name then hs else s.handlersOf other := by
  unfold handlersOf setHandlers
  dsimp only
  by_cases own : other = name
  · subst own
    rw [if_pos rfl]
    split
    · rename_i none
      rw [lookup_filter_ne, if_pos rfl, List.isEmpty_iff.mp none]
      rfl
    · rw [List.lookup_cons, beq_self_eq_true]
      rfl
  · have apart : (other == name) = false := by simpa using own
    rw [if_neg own]
    split
    · rw [lookup_filter_ne, if_neg own]
    · rw [List.lookup_cons, apart, lookup_filter_ne, if_neg own]

end Handlers

/-- The file with the session's time in its name that a logger has if it is given none. -/
def standardFile (s : Session) (name stamp : String) : String :=
  Text.joinPath s.logsDir (name ++ "_" ++ stamp ++ ".log")

/-- The handlers of a logger that writes to the file at a resolved path, and to the console if it
was made verbose. -/
def handlersAt (path : String) (verbose : Bool) : List Handler :=
  if verbose then [.file path, .console] else [.file path]

theorem handlersAt_ne_nil (path : String) (verbose : Bool) : handlersAt path verbose ≠ [] := by
  cases verbose <;> simp [handlersAt]

/-- Whether a session differs from an earlier one at most in its files, and in its time if that was
not fixed. -/
structure Prepares (s t : Session) : Prop where
  registered : t.registered = s.registered
  handlers : t.handlers = s.handlers
  stamp : ∀ stamp, s.stamp = some stamp → t.stamp = some stamp

theorem Prepares.refl (s : Session) : s.Prepares s := ⟨rfl, rfl, fun _ h => h⟩

theorem defaultFile_eq_ok {s t : Session} {name now path : String}
    (h : s.defaultFile name now = .ok (t, path)) :
    s.Prepares t ∧ ∃ stamp, t.stamp = some stamp ∧ path = s.standardFile name stamp := by
  obtain ⟨storage, _, h⟩ := Fault.bind_eq_ok.mp h
  cases h
  refine ⟨⟨rfl, rfl, ?_⟩, s.stamp.getD now, rfl, rfl⟩
  intro stamp fixed
  show some (s.stamp.getD now) = some stamp
  rw [fixed]
  rfl

/-- What making a logger can come to. It shares handlers that are there. Otherwise it fails, and
there are still none, or it has those of the file that was opened, which has the session's time in
its name unless another one was given. -/
theorem make_cases (s : Session) (name : String) (file : Option String) (now : String) :
    (s.handlersOf name ≠ [] ∧ s.make name file now = (s, .ok ⟨name, none⟩)) ∨
    (∃ t fault, s.make name file now = (t, .error fault) ∧ s.Prepares t) ∨
    ∃ t path, s.make name file now =
        (t.setHandlers name (handlersAt (Text.resolvedPath path) s.verbose),
          .ok ⟨name, some path⟩) ∧
      s.Prepares t ∧
      (file = none → ∃ stamp, t.stamp = some stamp ∧ path = s.standardFile name stamp) := by
  unfold make
  split
  · right
    -- With a file given there is nothing to prepare.
    cases file with
    | some given =>
      dsimp only [pure, Except.pure]
      split
      · rename_i fault _
        exact Or.inl ⟨s, fault, rfl, .refl s⟩
      · rename_i opened _
        exact Or.inr ⟨{ s with storage := opened }, _, rfl, ⟨rfl, rfl, fun _ h => h⟩, nofun⟩
    | none =>
      dsimp only
      cases prepared : s.defaultFile name now with
      | error fault => exact Or.inl ⟨s, fault, rfl, .refl s⟩
      | ok result =>
        obtain ⟨t, path⟩ := result
        obtain ⟨prepares, stamp, fixed, named⟩ := defaultFile_eq_ok prepared
        dsimp only
        split
        · rename_i fault _
          exact Or.inl ⟨t, fault, rfl, prepares⟩
        · rename_i opened _
          refine Or.inr ⟨{ t with storage := opened }, _, rfl,
            ⟨prepares.registered, prepares.handlers, prepares.stamp⟩, ?_⟩
          intro _
          exact ⟨stamp, fixed, named⟩
  · rename_i some
    exact Or.inl ⟨fun none => some (List.isEmpty_iff.mpr none), rfl⟩

/-- What asking for a logger can come to: the registered one, a failure, or one that is made. -/
theorem obtain_cases (s : Session) (name : String) (file : Option String) (now : String) :
    (∃ l, s.find? name = some l ∧ s.obtain name file now = (s, .ok l)) ∨
    s.find? name = none ∧
      ((∃ l, s.handlersOf name ≠ [] ∧
        s.obtain name file now = ({ s with registered := s.registered ++ [l] }, .ok l)) ∨
      (∃ t fault, s.obtain name file now = (t, .error fault) ∧ s.Prepares t) ∨
      ∃ t path, s.obtain name file now =
          ({ t.setHandlers name (handlersAt (Text.resolvedPath path) s.verbose) with
              registered := s.registered ++ [⟨name, some path⟩] }, .ok ⟨name, some path⟩) ∧
        s.Prepares t ∧
        (file = none → ∃ stamp, t.stamp = some stamp ∧ path = s.standardFile name stamp)) := by
  unfold obtain
  cases found : s.find? name with
  | some l => exact Or.inl ⟨l, rfl, rfl⟩
  | none =>
    refine Or.inr ⟨rfl, ?_⟩
    rcases s.make_cases name file now with ⟨some, made⟩ | ⟨t, fault, made, prepares⟩ |
      ⟨t, path, made, prepares, named⟩
    · exact Or.inl ⟨_, some, by rw [made]; rfl⟩
    · exact Or.inr (Or.inl ⟨t, fault, by rw [made]; rfl, prepares⟩)
    · refine Or.inr (Or.inr ⟨t, path, ?_, prepares, named⟩)
      rw [made, ← prepares.registered]
      rfl

/-- A call that fails leaves the registry and all handlers as they were. -/
theorem prepares_of_obtain_error {s : Session} {name now : String} {file : Option String}
    {fault : Fault} (failed : (s.obtain name file now).2 = .error fault) :
    s.Prepares (s.obtain name file now).1 := by
  rcases s.obtain_cases name file now with ⟨l, _, made⟩ | ⟨_, ⟨l, _, made⟩ |
    ⟨t, _, made, prepares⟩ | ⟨t, path, made, _⟩⟩
  · rw [made] at failed
    cases failed
  · rw [made] at failed
    cases failed
  · rw [made]
    exact prepares
  · rw [made] at failed
    cases failed

inductive Step where
  /-- The logger of a name is asked for. -/
  | obtain (name : String) (file : Option String) (now : String)
  /-- The session ends. -/
  | reset
  /-- From now on loggers are made with the console, or without. -/
  | verbose (on : Bool)
  /-- Records are written, and files and directories change in any other way. -/
  | elsewhere (logsDir : String) (storage : Storage) (console : List String)

def step (s : Session) : Step → Session
  | .obtain name file now => (s.obtain name file now).1
  | .reset => s.reset
  | .verbose on => { s with verbose := on }
  | .elsewhere logsDir storage console =>
    { s with logsDir := logsDir, storage := storage, console := console }

def after (s : Session) (history : List Step) : Session :=
  history.foldl step s

theorem after_concat (s : Session) (history : List Step) (last : Step) :
    s.after (history ++ [last]) = (s.after history).step last := by
  rw [after, List.foldl_append]
  rfl

/-- Whether a call in a history, with that file, found a session that had no logger of the name and
made one, and the session has not ended since. -/
def Made (start : Session) (history : List Step) (found : Session) (file : Option String)
    (l : Logger) : Prop :=
  ∃ earlier now later, history = earlier ++ .obtain l.name file now :: later ∧
    Step.reset ∉ later ∧ found = start.after earlier ∧ found.find? l.name = none ∧
    (found.obtain l.name file now).2 = .ok l

/-- What is made in a history was made before its last step, which does not end the session, or is
made by it. -/
theorem made_concat_iff {start found : Session} {history : List Step} {last : Step}
    {file : Option String} {l : Logger} :
    Made start (history ++ [last]) found file l ↔
      Made start history found file l ∧ last ≠ .reset ∨
      ∃ now, last = .obtain l.name file now ∧ found = start.after history ∧
        found.find? l.name = none ∧ (found.obtain l.name file now).2 = .ok l := by
  constructor
  · rintro ⟨earlier, now, later, split, going, rest⟩
    rcases List.eq_nil_or_concat later with rfl | ⟨between, final, rfl⟩
    · obtain ⟨rfl, same⟩ := List.append_inj' split rfl
      exact Or.inr ⟨now, (List.cons.inj same).1, rest⟩
    · rw [List.concat_eq_append, ← List.cons_append, ← List.append_assoc] at split
      obtain ⟨rfl, same⟩ := List.append_inj' split rfl
      obtain rfl := (List.cons.inj same).1
      rw [List.concat_eq_append, List.mem_append, List.mem_singleton, not_or] at going
      exact Or.inl ⟨⟨earlier, now, between, rfl, going.1, rest⟩, fun h => going.2 h.symm⟩
  · rintro (⟨⟨earlier, now, later, rfl, going, rest⟩, open'⟩ | ⟨now, rfl, rest⟩)
    · refine ⟨earlier, now, later ++ [last], by simp, ?_, rest⟩
      rw [List.mem_append, List.mem_singleton, not_or]
      exact ⟨going, fun h => open' h.symm⟩
    · exact ⟨history, now, [], rfl, List.not_mem_nil, rest⟩

/-- Whether registry, handlers and time of a session agree with what was made in a history. -/
structure Agrees (start : Session) (history : List Step) (s : Session) : Prop where
  /-- What is registered was made under its name. -/
  registered : ∀ name l, s.find? name = some l →
    l.name = name ∧ ∃ found file, Made start history found file l
  /-- What was made is registered and has the handlers that were opened for it. -/
  made : ∀ found file l, Made start history found file l → s.find? l.name = some l ∧
    ∃ path, l.file = some path ∧
      s.handlersOf l.name = handlersAt (Text.resolvedPath path) found.verbose ∧
      (file = none → ∃ stamp, s.stamp = some stamp ∧ path = found.standardFile l.name stamp)
  /-- What is not registered has no handlers. -/
  bare : ∀ name, s.find? name = none → s.handlersOf name = []

section Steps

variable {start s t : Session} {history : List Step}

theorem find?_eq_of_registered (same : t.registered = s.registered) (name : String) :
    t.find? name = s.find? name := by
  rw [find?, find?, same]

theorem handlersOf_eq_of_handlers (same : t.handlers = s.handlers) (name : String) :
    t.handlersOf name = s.handlersOf name := by
  rw [handlersOf, handlersOf, same]

/-- A step that makes nothing and does not end the session keeps the agreement. -/
theorem Agrees.of_prepares (agrees : Agrees start history s) (prepares : s.Prepares t)
    (last : Step) (going : last ≠ .reset)
    (nothing : ∀ name file now l, last = .obtain name file now →
      (start.after history).find? name = none →
      ((start.after history).obtain name file now).2 ≠ .ok l) :
    Agrees start (history ++ [last]) t := by
  refine ⟨?_, ?_, ?_⟩
  · intro name l hl
    rw [find?_eq_of_registered prepares.registered] at hl
    obtain ⟨named, found, file, made⟩ := agrees.registered name l hl
    exact ⟨named, found, file, made_concat_iff.mpr (Or.inl ⟨made, going⟩)⟩
  · intro found file l made
    rcases made_concat_iff.mp made with ⟨earlier, _⟩ | ⟨now, same, rfl, missing, result⟩
    · obtain ⟨registered, path, stored, handlers, stamped⟩ := agrees.made found file l earlier
      rw [find?_eq_of_registered prepares.registered, handlersOf_eq_of_handlers prepares.handlers]
      refine ⟨registered, path, stored, handlers, ?_⟩
      intro standard
      obtain ⟨stamp, fixed, named⟩ := stamped standard
      exact ⟨stamp, prepares.stamp stamp fixed, named⟩
    · exact absurd result (nothing l.name file now l same missing)
  · intro name hname
    rw [find?_eq_of_registered prepares.registered] at hname
    rw [handlersOf_eq_of_handlers prepares.handlers]
    exact agrees.bare name hname

theorem find?_concat {l : Logger} (registered : t.registered = s.registered ++ [l])
    (name : String) :
    t.find? name = (s.find? name).or (if l.name = name then some l else none) := by
  rw [find?, find?, registered, List.find?_append]
  by_cases own : l.name = name <;> simp [own]

/-- A call that makes a logger keeps the agreement. -/
theorem Agrees.of_made (agrees : Agrees start history s) (current : s = start.after history)
    {name path now : String} {file : Option String} (missing : s.find? name = none)
    (result : (s.obtain name file now).2 = .ok ⟨name, some path⟩)
    (registered : t.registered = s.registered ++ [⟨name, some path⟩])
    (handlers : ∀ other, t.handlersOf other =
      if other = name then handlersAt (Text.resolvedPath path) s.verbose else s.handlersOf other)
    (kept : ∀ stamp, s.stamp = some stamp → t.stamp = some stamp)
    (named : file = none → ∃ stamp, t.stamp = some stamp ∧ path = s.standardFile name stamp) :
    Agrees start (history ++ [.obtain name file now]) t := by
  refine ⟨?_, ?_, ?_⟩
  · intro other l hl
    rw [find?_concat registered] at hl
    cases earlier : s.find? other with
    | some l' =>
      rw [earlier] at hl
      cases hl
      obtain ⟨named', found, file', made⟩ := agrees.registered other l earlier
      exact ⟨named', found, file', made_concat_iff.mpr (Or.inl ⟨made, nofun⟩)⟩
    | none =>
      rw [earlier, Option.none_or] at hl
      split at hl
      · rename_i same
        cases hl
        exact ⟨same, s, file, made_concat_iff.mpr (Or.inr ⟨now, rfl, current, missing, result⟩)⟩
      · cases hl
  · intro found file' l made
    rw [find?_concat registered, handlers]
    rcases made_concat_iff.mp made with ⟨earlier, _⟩ | ⟨now', same, rfl, _, result'⟩
    · obtain ⟨registered', path', stored, handlers', stamped⟩ := agrees.made found file' l earlier
      have other : ¬ l.name = name := by
        intro same
        rw [same, missing] at registered'
        cases registered'
      rw [registered', if_neg other]
      refine ⟨rfl, path', stored, handlers', ?_⟩
      intro standard
      obtain ⟨stamp, fixed, named'⟩ := stamped standard
      exact ⟨stamp, kept stamp fixed, named'⟩
    · obtain ⟨named', rfl, rfl⟩ := Step.obtain.inj same
      rw [← current, ← named', result] at result'
      obtain rfl := Except.ok.inj result'
      rw [← current, missing, if_pos rfl, if_pos rfl]
      exact ⟨rfl, path, rfl, rfl, named⟩
  · intro other hother
    rw [find?_concat registered, Option.or_eq_none_iff] at hother
    have apart : ¬ other = name := by
      intro same
      rw [if_pos same.symm] at hother
      cases hother.2
    rw [handlers, if_neg apart]
    exact agrees.bare other hother.1

/-- A call keeps the agreement, whatever it comes to. -/
theorem Agrees.obtain (agrees : Agrees start history s) (current : s = start.after history)
    (name : String) (file : Option String) (now : String) :
    Agrees start (history ++ [.obtain name file now]) (s.obtain name file now).1 := by
  rcases s.obtain_cases name file now with ⟨l, found, made⟩ | ⟨missing, ⟨l, some, made⟩ |
    ⟨t, fault, made, prepares⟩ | ⟨t, path, made, prepares, named⟩⟩
  · rw [made]
    refine agrees.of_prepares (.refl s) _ nofun ?_
    rintro _ _ _ _ ⟨⟩ missing
    rw [← current, found] at missing
    cases missing
  · exact absurd (agrees.bare name missing) some
  · rw [made]
    refine agrees.of_prepares prepares _ nofun ?_
    rintro _ _ _ _ ⟨⟩ _ result
    rw [← current, made] at result
    cases result
  · have result : (s.obtain name file now).2 = .ok ⟨name, some path⟩ := by rw [made]
    refine agrees.of_made current missing result ?_ ?_ ?_ ?_
    · rw [made]
    · intro other
      rw [made, ← handlersOf_eq_of_handlers prepares.handlers]
      exact handlersOf_setHandlers t name _ other
    · rw [made]
      exact prepares.stamp
    · rw [made]
      exact named

/-- Closing the handlers of some loggers. -/
theorem handlersOf_close (loggers : List Logger) (s : Session) (name : String) :
    (loggers.foldl (fun t l => t.setHandlers l.name []) s).handlersOf name =
      if name ∈ loggers.map Logger.name then [] else s.handlersOf name := by
  induction loggers generalizing s with
  | nil => rfl
  | cons l rest ih =>
    rw [List.foldl_cons, ih, handlersOf_setHandlers]
    by_cases own : name = l.name <;> by_cases later : name ∈ rest.map Logger.name <;>
      simp [own, later]

/-- The end of the session leaves no logger and no handlers. -/
theorem Agrees.reset (agrees : Agrees start history s) :
    Agrees start (history ++ [.reset]) s.reset := by
  refine ⟨?_, ?_, ?_⟩
  · intro name l hl
    cases hl
  · intro found file l made
    rcases made_concat_iff.mp made with ⟨_, going⟩ | ⟨_, same, _⟩
    · exact absurd rfl going
    · cases same
  · intro name _
    show (s.registered.foldl (fun t l => t.setHandlers l.name []) s).handlersOf name = []
    rw [handlersOf_close]
    split
    · rfl
    · rename_i other
      refine agrees.bare name (List.find?_eq_none.mpr ?_)
      intro l hl same
      exact other (List.mem_map.mpr ⟨l, hl, by simpa using same⟩)

theorem Agrees.step (agrees : Agrees start history s) (current : s = start.after history)
    (last : Step) : Agrees start (history ++ [last]) (s.step last) := by
  cases last with
  | obtain name file now => exact agrees.obtain current name file now
  | reset => exact agrees.reset
  | verbose on =>
    have prepares : s.Prepares (s.step (.verbose on)) := ⟨rfl, rfl, fun _ h => h⟩
    exact agrees.of_prepares prepares _ nofun nofun
  | elsewhere logsDir storage console =>
    have prepares : s.Prepares (s.step (.elsewhere logsDir storage console)) :=
      ⟨rfl, rfl, fun _ h => h⟩
    exact agrees.of_prepares prepares _ nofun nofun

end Steps

/-- The agreement holds after every history that begins with no logger and no handlers. -/
theorem agrees_after {start : Session} (unregistered : start.registered = [])
    (bare : ∀ name, start.handlersOf name = []) (history : List Step) :
    Agrees start history (start.after history) := by
  induction history using List.reverseRecOn with
  | nil =>
    refine ⟨?_, ?_, fun name _ => bare name⟩
    · intro name l hl
      rw [after, List.foldl_nil, find?, unregistered] at hl
      cases hl
    · rintro found file l ⟨earlier, now, later, split, _⟩
      cases earlier <;> cases split
  | append_singleton history last ih =>
    rw [after_concat]
    exact ih.step rfl last

/-- After every history that begins with no logger and no handlers, a name is registered if and
only if it has handlers. These are the file stored with its logger, at its resolved path, and the
console if the call that made the logger found a verbose session. Asking for a logger that was made
since the session last ended gives that logger, whatever file is asked for, and all of them without
a file of their own have one time in the names of their files. A call that fails registers nothing
and changes no handlers. -/
theorem registry_after_history (start : Session) (unregistered : start.registered = [])
    (bare : ∀ name, start.handlersOf name = []) (history : List Step) :
    (∀ name, ((start.after history).find? name).isSome = true ↔
      (start.after history).handlersOf name ≠ []) ∧
    (∀ name l, (start.after history).find? name = some l → l.name = name ∧
      ∃ found file path, Made start history found file l ∧ l.file = some path ∧
        (start.after history).handlersOf name = handlersAt (Text.resolvedPath path) found.verbose) ∧
    (∀ found file l, Made start history found file l →
      ∀ file' now, (start.after history).obtain l.name file' now = (start.after history, .ok l)) ∧
    (∃ stamp, ∀ found l, Made start history found none l →
      l.file = some (found.standardFile l.name stamp)) ∧
    ∀ name file now fault, ((start.after history).obtain name file now).2 = .error fault →
      ((start.after history).obtain name file now).1.registered =
          (start.after history).registered ∧
        ∀ other, ((start.after history).obtain name file now).1.handlersOf other =
          (start.after history).handlersOf other := by
  have agrees := agrees_after unregistered bare history
  generalize start.after history = s at agrees
  have opened : ∀ name l, s.find? name = some l → l.name = name ∧
      ∃ found file path, Made start history found file l ∧ l.file = some path ∧
        s.handlersOf name = handlersAt (Text.resolvedPath path) found.verbose := by
    intro name l hl
    obtain ⟨rfl, found, file, made⟩ := agrees.registered name l hl
    obtain ⟨_, path, stored, handlers, _⟩ := agrees.made found file l made
    exact ⟨rfl, found, file, path, made, stored, handlers⟩
  refine ⟨?_, opened, ?_, ⟨s.stamp.getD "", ?_⟩, ?_⟩
  · intro name
    cases found : s.find? name with
    | none => simp [agrees.bare name found]
    | some l =>
      obtain ⟨_, _, _, path, _, _, handlers⟩ := opened name l found
      rw [handlers]
      exact ⟨fun _ => handlersAt_ne_nil _ _, fun _ => rfl⟩
  · intro found file l made file' now
    rw [obtain, (agrees.made found file l made).1]
    rfl
  · intro found l made
    obtain ⟨_, path, stored, _, stamped⟩ := agrees.made found none l made
    obtain ⟨stamp, fixed, named⟩ := stamped rfl
    rw [stored, fixed, named]
    rfl
  · intro name file now fault failed
    have prepares := prepares_of_obtain_error failed
    exact ⟨prepares.registered, handlersOf_eq_of_handlers prepares.handlers⟩

theorem pathParts_single : Text.pathParts "a" = ["a"] := by
  have whole : "a".splitOn "/" = ["a"] := by
    rw [String.splitOn, if_neg (by decide), String.splitOnAux, if_neg (by decide),
      if_neg (by decide), String.splitOnAux, if_pos (by decide)]
    decide
  rw [Text.pathParts, whole]
  decide

/-- A logger that was made with a file keeps it, while the session becomes verbose and another
logger, whose file is a directory, cannot be made. -/
theorem registry_after_rules_logger :
    let start : Session := { logsDir := "logs" }
    let history : List Step :=
      [.obtain "rules" (some "a") "t1", .verbose true, .obtain "engine" (some "") "t2"]
    (start.obtain "rules" (some "a") "t1").2 = .ok ⟨"rules", some "a"⟩ ∧
    (start.after history).obtain "rules" (some "b") "t3" =
      (start.after history, .ok ⟨"rules", some "a"⟩) ∧
    (((start.after history).find? "engine").isSome = true ↔
      (start.after history).handlersOf "engine" ≠ []) := by
  intro start history
  have opened : (start.obtain "rules" (some "a") "t1").2 = .ok ⟨"rules", some "a"⟩ := by
    have resolved : Text.resolvedPath "a" = "a" := by
      rw [Text.resolvedPath, pathParts_single]
      decide
    have openable : ({} : Storage).openFile "a" = .ok { files := [("a", [])] } := by
      rw [Storage.openFile, if_neg (by decide), if_neg (by decide), Text.pathChain,
        Storage.isOverlong, Storage.isDirectory, pathParts_single]
      rfl
    simp [start, obtain, find?, make, handlersOf, resolved, openable, pure, Except.pure]
  have made : Made start history start (some "a") ⟨"rules", some "a"⟩ :=
    ⟨[], "t1", [.verbose true, .obtain "engine" (some "") "t2"], rfl, by simp, rfl, rfl, opened⟩
  obtain ⟨registered, _, same, _⟩ := registry_after_history start rfl (fun _ => rfl) history
  exact ⟨opened, same start (some "a") _ made (some "b") "t3", registered "engine"⟩

end NameLint.Log.Session
