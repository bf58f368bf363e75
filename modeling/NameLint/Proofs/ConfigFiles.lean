import NameLint.Proofs.ConfigAcceptance
import NameLint.Yaml.Load

/-!
# Configurations from files

A configuration is loaded from a file in two steps: the document in the file is read
as a value, and the value gives the user's entries. A value that counts as false
gives none, before anything asks whether it is a mapping. So a file agrees with its
value taken directly, except where the document is false, zero or empty without being
a mapping: then the file is accepted and the value refused.
-/

namespace NameLint

/-- Whether the fault refuses the configuration; a refusal that cannot be worded is one too. -/
def Fault.IsRefusal [Stack] (fault : Fault) : Prop :=
  ∃ reason, fault = .refusal reason

theorem Fault.isRefusal_config [Stack] {reason : ConfigFault} (worded : reason.obstacle? = none) :
    (Fault.config reason).IsRefusal := by
  refine ⟨reason, ?_⟩
  rw [refusal, worded]
  rfl

namespace LintConfig

theorem allSettings_isRefusal [Stack] {rules : Entries} {fault : Fault}
    (h : allSettings rules = .error fault) : fault.IsRefusal := by
  rw [allSettings_eq] at h
  cases wrong : rules.findSome? fun e => entryFault? e.1 e.2 with
  | none =>
    rw [wrong] at h
    cases h
  | some reason =>
    rw [wrong] at h
    cases h
    exact ⟨reason, rfl⟩

/-- Entries are refused or accepted; nothing else happens to them. -/
theorem ofEntries_isRefusal [Stack] {user : Entries} {fault : Fault}
    (h : ofEntries user = .error fault) : fault.IsRefusal := by
  unfold ofEntries build at h
  split at h
  · exact allSettings_isRefusal h
  · cases h
    exact ⟨_, rfl⟩

theorem ofValue_of_plain [Stack] {v : Value} (plain : v.entries? = none) :
    ofValue v = .error (.config (.notAMapping v.kindName)) := by
  cases v with
  | map entries => cases plain
  | _ => rfl

theorem ofValue_isRefusal [Stack] {v : Value} {fault : Fault} (h : ofValue v = .error fault) :
    fault.IsRefusal := by
  cases mapping : v.entries? with
  | some entries =>
    cases v with
    | map user => exact ofEntries_isRefusal h
    | _ => cases mapping
  | none =>
    rw [ofValue_of_plain mapping] at h
    cases h
    exact Fault.isRefusal_config rfl

/-- Saying nothing is accepted. -/
theorem ofEntries_nil_isOk [Stack] : ∃ config, ofEntries [] = .ok config := by
  exact ⟨_, ofValue_eq ⟨.map [], rfl⟩⟩

section Reading

variable (read : DocumentReader)

theorem userEntries_bytes (path : String) (content : ByteArray) :
    userEntries read (some path) (.bytes content) = (readFile read path content).map some := by
  rw [userEntries]
  cases readFile read path content with
  | error fault => rfl
  | ok user => rfl

/-- The outcome of loading a file is that of the entries read from it. -/
theorem load_bytes_snd [Stack] (path : String) (content : ByteArray) :
    (load read (some path) (.bytes content)).2 =
      readFile read (Text.normalPath path) content >>= ofEntries := by
  unfold load
  rw [Option.map_some]
  dsimp only
  rw [userEntries_bytes]
  cases readFile read (Text.normalPath path) content with
  | error fault => rfl
  | ok user =>
    have bound : (Except.ok user >>= ofEntries) = ofEntries user := rfl
    rw [bound]
    dsimp only [Except.map]
    rw [Option.getD_some]
    cases ofEntries user with
    | error fault => rfl
    | ok config => rfl

variable {read}

theorem readFile_of_parsed {content : ByteArray} {v : Value} (parsed : read content = .ok v)
    (path : String) :
    readFile read path content =
      if v.truthy then v.entries?.elim (.error (.config (.fileNotAMapping path))) .ok
      else .ok [] := by
  rw [readFile, parsed]
  show (if v.truthy then _ else _) = _
  cases v with
  | _ => rfl

/-- A document that counts as false stands for no entries. -/
theorem load_of_not_truthy [Stack] {content : ByteArray} {v : Value}
    (parsed : read content = .ok v) (empty : v.truthy = false) (path : String) :
    (load read (some path) (.bytes content)).2 = ofValue (.map []) := by
  rw [load_bytes_snd, readFile_of_parsed parsed, empty]
  rfl

/-- A mapping in a file is the user's entries. -/
theorem load_of_map [Stack] {content : ByteArray} {user : Entries}
    (parsed : read content = .ok (.map user)) (path : String) :
    (load read (some path) (.bytes content)).2 = ofValue (.map user) := by
  rw [load_bytes_snd, readFile_of_parsed parsed]
  cases user with
  | nil => rfl
  | cons e rest => rfl

theorem load_of_plain [Stack] {content : ByteArray} {v : Value}
    (parsed : read content = .ok v) (plain : v.entries? = none) (given : v.truthy = true)
    (path : String) :
    (load read (some path) (.bytes content)).2 =
      .error (.config (.fileNotAMapping (Text.normalPath path))) := by
  rw [load_bytes_snd, readFile_of_parsed parsed, given, plain]
  rfl

theorem load_isRefusal [Stack] {content : ByteArray} {v : Value}
    (parsed : read content = .ok v) {path : String} {fault : Fault}
    (h : (load read (some path) (.bytes content)).2 = .error fault) :
    fault.IsRefusal := by
  rw [load_bytes_snd, readFile_of_parsed parsed] at h
  split at h
  · cases mapping : v.entries? with
    | none =>
      rw [mapping] at h
      cases h
      exact Fault.isRefusal_config rfl
    | some user =>
      rw [mapping] at h
      exact ofEntries_isRefusal h
  · exact ofEntries_isRefusal h

end Reading

/-- Whether two attempts give the same configuration or fail alike: for the same reason, or both by
a refusal. -/
def SameOutcome (x y : Except Fault LintConfig) : Prop :=
  x = y ∨ ∃ a b, x = .error (.config a) ∧ y = .error (.config b)

end LintConfig

open LintConfig in
/-- A configuration file agrees with its document taken directly if and only if the document is a
mapping or counts as true. A mapping has the same outcome both ways, and any other document that
counts as true is refused both ways. A document that counts as false, null among them, is loaded
as no entries, though directly it is refused unless it is a mapping. Whatever fails is refused. -/
theorem load_agrees_iff [Stack] (read : DocumentReader) (path : String) (content : ByteArray)
    (v : Value) (parsed : read content = .ok v) :
    let loaded := (load read (some path) (.bytes content)).2
    (SameOutcome loaded (ofValue v) ↔ v.entries?.isSome = true ∨ v.truthy = true) ∧
    (v.entries?.isSome = true → loaded = ofValue v) ∧
    (v.entries? = none → ofValue v = .error (.config (.notAMapping v.kindName)) ∧
      (v.truthy = true →
        loaded = .error (.config (.fileNotAMapping (Text.normalPath path))))) ∧
    (v.truthy = false → loaded = ofValue (.map []) ∧ ∃ config, loaded = .ok config) ∧
    ∀ fault, loaded = .error fault ∨ ofValue v = .error fault → fault.IsRefusal := by
  intro loaded
  have accepted : v.truthy = false →
      loaded = ofValue (.map []) ∧ ∃ config, loaded = .ok config := by
    intro empty
    have standard : loaded = ofValue (.map []) := load_of_not_truthy parsed empty path
    refine ⟨standard, ?_⟩
    rw [standard]
    exact ofEntries_nil_isOk
  have mapped : v.entries?.isSome = true → loaded = ofValue v := by
    intro mapping
    cases v with
    | map user => exact load_of_map parsed path
    | _ => cases mapping
  have refused : v.entries? = none → v.truthy = true →
      loaded = .error (.config (.fileNotAMapping (Text.normalPath path))) :=
    fun plain given => load_of_plain parsed plain given path
  refine ⟨?_, mapped, ?_, accepted, ?_⟩
  · cases mapping : v.entries? with
    | some user =>
      refine ⟨fun _ => Or.inl rfl, fun _ => Or.inl (mapped ?_)⟩
      rw [mapping]
      rfl
    | none =>
      have direct := ofValue_of_plain mapping
      cases given : v.truthy with
      | true =>
        refine ⟨fun _ => Or.inr rfl, fun _ => Or.inr ⟨_, _, refused mapping given, direct⟩⟩
      | false =>
        obtain ⟨_, config, ok⟩ := accepted given
        constructor
        · rintro (same | ⟨_, _, failed, _⟩)
          · rw [ok, direct] at same
            cases same
          · rw [ok] at failed
            cases failed
        · rintro (some | truthy)
          · cases some
          · cases truthy
  · exact fun plain => ⟨ofValue_of_plain plain, refused plain⟩
  · rintro fault (failed | failed)
    · exact load_isRefusal parsed failed
    · exact ofValue_isRefusal failed

def isEmptyList : Except DocumentFault Value → Bool
  | .ok (.list []) => true
  | _ => false

theorem reader_emptyList : Yaml.reader "[]".toUTF8 = .ok (.list []) := by
  have read : isEmptyList (Yaml.reader "[]".toUTF8) = true := by decide +kernel
  unfold isEmptyList at read
  split at read
  · assumption
  · cases read

/-- Whether a document was read as one whose rules are a list. -/
def isListOfRules : Except DocumentFault Value → Bool
  | .ok (.map [(.text "rules", .list [.text "camelcase"])]) => true
  | _ => false

theorem reader_listOfRules :
    Yaml.reader "rules: [camelcase]".toUTF8 =
      .ok (.map [(.text "rules", .list [.text "camelcase"])]) := by
  have read : isListOfRules (Yaml.reader "rules: [camelcase]".toUTF8) = true := by decide +kernel
  unfold isListOfRules at read
  split at read
  · assumption
  · cases read

open scoped Stack in
open LintConfig in
/-- A file with an empty list is accepted, though the list is refused. A file whose rules are no
mapping is refused as its document is. -/
theorem load_emptyList_disagrees :
    Yaml.reader "[]".toUTF8 = .ok (.list []) ∧
    ¬ SameOutcome (load Yaml.reader (some "config.yml") (.bytes "[]".toUTF8)).2
      (ofValue (.list [])) ∧
    (load Yaml.reader (some "config.yml") (.bytes "[]".toUTF8)).2 = ofValue (.map []) ∧
    SameOutcome (load Yaml.reader (some "config.yml") (.bytes "rules: [camelcase]".toUTF8)).2
      (ofValue (.map [(.text "rules", .list [.text "camelcase"])])) ∧
    (ofValue (.map [(.text "rules", .list [.text "camelcase"])])).isOk = false := by
  have list := load_agrees_iff Yaml.reader "config.yml" _ _ reader_emptyList
  have rules := load_agrees_iff Yaml.reader "config.yml" _ _ reader_listOfRules
  refine ⟨reader_emptyList, ?_, (list.2.2.2.1 rfl).1, rules.1.mpr (Or.inl rfl), by decide +kernel⟩
  rw [list.1]
  decide

end NameLint
