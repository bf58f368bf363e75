import NameLint.Proofs.Lookups
import NameLint.Rule.Camelcase

/-!
# Settings over the defaults

The user's entries are merged over the defaults before they are read. Reading a
merged mapping by a text key gives what the user has under it, merged over the
default, or else the default. The defaults of the naming rule are what it does
where nothing is said, so its settings come out the same with and without them.
-/

namespace NameLint

namespace Value

theorem entries?_eq_some {v : Value} {entries : Entries} :
    v.entries? = some entries ↔ v = .map entries := by
  cases v <;> simp [entries?]

mutual

/-- Whether no mapping in the value has a text key twice. -/
def isProper : Value → Bool
  | .list items => areProper items
  | .tuple items => areProper items
  | .map entries => entriesProper entries
  | _ => true

def areProper : List Value → Bool
  | [] => true
  | v :: rest => isProper v && areProper rest

/-- Whether no text key stands twice, in the entries or in a mapping below them. -/
def entriesProper : List (Value × Value) → Bool
  | [] => true
  | (k, v) :: rest =>
    k.text?.all (fun key => (Entries.get? rest key).isNone) && isProper v && entriesProper rest

end

end Value

/-- A value in which no mapping has a text key twice. -/
structure ProperValue where
  value : Value
  proper : value.isProper = true

namespace Entries

/-- A text key stands at most once in proper entries. -/
theorem once_of_proper {entries : Entries} (proper : (Value.map entries).isProper = true)
    (key : String) : entries.Pairwise fun e f =>
      e.1.same (.text key) = true → f.1.same (.text key) = false := by
  rw [Value.isProper] at proper
  induction entries with
  | nil => exact .nil
  | cons e rest ih =>
    obtain ⟨k, v⟩ := e
    rw [Value.entriesProper, Bool.and_eq_true, Bool.and_eq_true] at proper
    refine List.pairwise_cons.mpr ⟨fun e he own => ?_, ih proper.2⟩
    obtain rfl := Value.same_text.mp own
    have absent : Entries.get? rest key = none := by simpa [Value.text?] using proper.1.1
    rw [Entries.get?, Entries.find?, Option.map_eq_none_iff, List.find?_eq_none] at absent
    exact Bool.eq_false_iff.mpr (absent e he)

theorem isProper_of_get? {entries : Entries} {key : String} {v : Value}
    (proper : (Value.map entries).isProper = true) (found : entries.get? key = some v) :
    v.isProper = true := by
  rw [Value.isProper] at proper
  induction entries with
  | nil => cases found
  | cons e rest ih =>
    obtain ⟨k, first⟩ := e
    rw [Value.entriesProper, Bool.and_eq_true, Bool.and_eq_true] at proper
    by_cases own : k = .text key
    · subst own
      rw [get?_cons_self] at found
      obtain rfl := Option.some.inj found
      exact proper.1.2
    · rw [get?_cons_of_ne own] at found
      exact ih proper.2 found

end Entries

namespace LintConfig

/-- What stands under a text key of merged entries. -/
theorem get?_merge (base : Entries) {top : Entries} (proper : (Value.map top).isProper = true)
    (key : String) :
    Entries.get? (merge base top) key =
      (Entries.get? top key).elim (Entries.get? base key) fun v =>
        some (mergeValue (Entries.get? base key) v) := by
  have agree : ∀ k l : Value, True → True → Value.AgreeOn (.text key) k l :=
    fun k l _ _ => Value.agreeOn_text key k l
  exact Entries.find?_merge agree (fun _ _ => trivial) (fun _ _ => trivial)
    (Entries.once_of_proper proper key)

/-- The settings of a rule are read from its entry. -/
theorem find?_allSettings [Stack] {rules : Entries} {config : LintConfig} {rule : String}
    (accepted : allSettings rules = .ok config) {entry : Value}
    (found : rules.get? rule = some entry) :
    ∃ settings, ruleSettings (.text rule) entry = .ok settings ∧
      config.find? rule = some settings := by
  induction rules generalizing config with
  | nil => cases found
  | cons e rest ih =>
    obtain ⟨k, first⟩ := e
    obtain ⟨settings, read, accepted⟩ := Fault.bind_eq_ok.mp accepted
    obtain ⟨others, later, accepted⟩ := Fault.bind_eq_ok.mp accepted
    cases accepted
    by_cases own : k = .text rule
    · subst own
      rw [Entries.get?_cons_self] at found
      obtain rfl := Option.some.inj found
      refine ⟨settings, read, ?_⟩
      simp [find?, Value.same_text.mpr rfl]
    · rw [Entries.get?_cons_of_ne own] at found
      obtain ⟨own', read', found'⟩ := ih later found
      refine ⟨own', read', ?_⟩
      have differs : k.same (.text rule) = false :=
        Bool.eq_false_iff.mpr fun same => own (Value.same_text.mp same)
      simpa [find?, differs] using found'

theorem mergeValue_map (base top : Entries) :
    mergeValue (some (.map base)) (.map top) = .map (merge base top) := by
  rw [mergeValue]

/-- What is no mapping takes the place of anything. -/
theorem mergeValue_of_plain (old : Option Value) {v : Value} (plain : v.entries? = none) :
    mergeValue old v = v := by
  unfold mergeValue
  split
  · cases plain
  · rfl

/-- Over a value that is no mapping, what the user has takes its place. -/
theorem get?_merge_of_plain {base top : Entries} (proper : (Value.map top).isProper = true)
    {key : String} {standard : Value} (known : Entries.get? base key = some standard)
    (plain : standard.entries? = none) :
    Entries.get? (merge base top) key = some ((Entries.get? top key).getD standard) := by
  rw [get?_merge base proper, known]
  cases Entries.get? top key with
  | none => rfl
  | some v =>
    cases standard with
    | map entries => cases plain
    | _ => simp [mergeValue]

def defaultParams : Entries :=
  [(.text "ignore", .list []), (.text "quote", .bool true)]

def defaultEntry : Entries :=
  [(.text "enabled", .bool true), (.text "severity", .text Camelcase.standardSeverity),
    (.text "params", .map defaultParams)]

theorem defaults_eq :
    defaults = [(.text "rules", .map [(.text Camelcase.identifier, .map defaultEntry)])] := rfl

/-- What the user says about the naming rule. -/
def ownRule? (user : Value) : Option Value := do
  let entries ← user.entries?
  let rules ← entries.get? "rules"
  let rules ← rules.entries?
  rules.get? Camelcase.identifier

/-- The settings that the user's entry for the naming rule holds by itself. -/
def ownSettings (user : Value) : RuleSettings :=
  match ownRule? user with
  | some (.bool enabled) => { enabled := .bool enabled }
  | some (.map entries) =>
    { enabled := (Entries.get? entries "enabled").getD (.bool true)
      severity := (Entries.get? entries "severity").getD .null
      params := (Entries.get? entries "params").getD (.map []) }
  | _ => {}

end LintConfig

namespace CamelcaseOptions

/-- The default parameters are what missing parameters stand for. -/
theorem ofEntries_merge_defaultParams [Stack] {params : Entries}
    (proper : (Value.map params).isProper = true) :
    ofEntries (LintConfig.merge LintConfig.defaultParams params) = ofEntries params := by
  have none : LintConfig.defaultParams.get? "ignore" = some (.list []) := by
    simp [LintConfig.defaultParams]
  have all : LintConfig.defaultParams.get? "quote" = some (.bool true) := by
    simp [LintConfig.defaultParams]
  have ignored : ignoreEntries (LintConfig.merge LintConfig.defaultParams params) =
      ignoreEntries params := by
    unfold ignoreEntries
    rw [LintConfig.get?_merge_of_plain proper none rfl]
    cases params.get? "ignore" with
    | none => rfl
    | some v => rfl
  have quoted : quoteOption (LintConfig.merge LintConfig.defaultParams params) =
      quoteOption params := by
    unfold quoteOption
    rw [LintConfig.get?_merge_of_plain proper all rfl]
    rfl
  unfold ofEntries
  rw [ignored, quoted]

end CamelcaseOptions

/-- Saying nothing about the severity comes to asking for the standard one. -/
theorem Rule.severityWord_getD {a b : RuleSettings} {said : Option Value} {standard : String}
    (ha : a.severity = said.getD (.text standard)) (hb : b.severity = said.getD .null) :
    Rule.severityWord a standard = Rule.severityWord b standard := by
  unfold Rule.severityWord
  rw [ha, hb]
  cases said with
  | none => exact ite_self _
  | some v => rfl

/-- Whether the naming rule does the same under both settings. -/
structure RuleSettings.Agree [Stack] (a b : RuleSettings) : Prop where
  enabled : a.enabled = b.enabled
  severity : Rule.severityWord a Camelcase.standardSeverity =
    Rule.severityWord b Camelcase.standardSeverity
  options : CamelcaseOptions.ofParams a.params = CamelcaseOptions.ofParams b.params

namespace LintConfig

/-- What the settings of a rule are read from. -/
theorem ruleSettings_map [Stack] {rule : Value} {entries : Entries} {settings : RuleSettings}
    (accepted : ruleSettings rule (.map entries) = .ok settings) :
    settings.enabled = (entries.get? "enabled").getD (.bool true) ∧
    settings.severity = (entries.get? "severity").getD .null ∧
    ((entries.get? "params").getD .null = .null ∧ settings.params = .map [] ∨
      ∃ params, entries.get? "params" = some (.map params) ∧ settings.params = .map params) := by
  rw [ruleSettings] at accepted
  cases found : entries.get? "params" with
  | none =>
    rw [found] at accepted
    cases accepted
    exact ⟨rfl, rfl, Or.inl ⟨rfl, rfl⟩⟩
  | some v =>
    rw [found] at accepted
    cases v with
    | null =>
      cases accepted
      exact ⟨rfl, rfl, Or.inl ⟨rfl, rfl⟩⟩
    | map params =>
      cases accepted
      exact ⟨rfl, rfl, Or.inr ⟨params, rfl, rfl⟩⟩
    | _ => cases accepted

/-- The user's entry for the naming rule, merged over its default, is read as the entry alone. -/
theorem agree_of_merged_entry [Stack] {entries : Entries}
    (proper : (Value.map entries).isProper = true) {rule : Value} {merged : RuleSettings}
    (accepted : ruleSettings rule (.map (merge defaultEntry entries)) = .ok merged) :
    merged.Agree
      { enabled := (entries.get? "enabled").getD (.bool true)
        severity := (entries.get? "severity").getD .null
        params := (entries.get? "params").getD (.map []) } := by
  have on : defaultEntry.get? "enabled" = some (.bool true) := by simp [defaultEntry]
  have standard : defaultEntry.get? "severity" = some (.text Camelcase.standardSeverity) := by
    simp [defaultEntry]
  have inner : defaultEntry.get? "params" = some (.map defaultParams) := by simp [defaultEntry]
  obtain ⟨enabled, severity, params⟩ := ruleSettings_map accepted
  rw [get?_merge_of_plain proper on rfl, Option.getD_some] at enabled
  rw [get?_merge_of_plain proper standard rfl, Option.getD_some] at severity
  rw [get?_merge defaultEntry proper, inner] at params
  refine ⟨enabled, Rule.severityWord_getD severity rfl, ?_⟩
  cases own : entries.get? "params" with
  | none =>
    rw [own] at params
    rcases params with ⟨missing, _⟩ | ⟨found, same, read⟩
    · cases missing
    · cases same
      rw [read]
      exact CamelcaseOptions.ofEntries_merge_defaultParams (rfl : (Value.map []).isProper = true)
  | some v =>
    rw [own, Option.elim_some] at params
    cases mapping : v.entries? with
    | some found =>
      obtain rfl := Value.entries?_eq_some.mp mapping
      rw [mergeValue_map] at params
      rcases params with ⟨missing, _⟩ | ⟨found, same, read⟩
      · cases missing
      · cases same
        rw [read]
        exact CamelcaseOptions.ofEntries_merge_defaultParams (Entries.isProper_of_get? proper own)
    | none =>
      rw [mergeValue_of_plain _ mapping] at params
      rcases params with ⟨missing, read⟩ | ⟨found, same, read⟩
      · obtain rfl : v = .null := missing
        rw [read]
        rfl
      · cases same
        cases mapping

theorem isProper_ownRule? (user : ProperValue) {entry : Value}
    (own : ownRule? user.value = some entry) : entry.isProper = true := by
  obtain ⟨user, proper⟩ := user
  obtain ⟨entries, mapping, own⟩ := Option.bind_eq_some_iff.mp own
  obtain ⟨v, said, own⟩ := Option.bind_eq_some_iff.mp own
  obtain ⟨rules, mapping', own⟩ := Option.bind_eq_some_iff.mp own
  obtain rfl := Value.entries?_eq_some.mp mapping
  obtain rfl := Value.entries?_eq_some.mp mapping'
  exact Entries.isProper_of_get? (Entries.isProper_of_get? proper said) own

/-- The rules of an accepted configuration, as far as the naming rule is concerned: its entry is the
default one, or what the user has in its place or merged into it. -/
theorem find?_ofValue [Stack] (user : ProperValue) {config : LintConfig}
    (accepted : ofValue user.value = .ok config) :
    ∃ merged, config.find? Camelcase.identifier = some merged ∧
      ruleSettings (.text Camelcase.identifier)
        ((ownRule? user.value).elim (.map defaultEntry) (mergeValue (some (.map defaultEntry)))) =
          .ok merged := by
  have standard : Entries.get? [(.text Camelcase.identifier, .map defaultEntry)]
      Camelcase.identifier = some (.map defaultEntry) := by simp
  obtain ⟨user, proper⟩ := user
  dsimp only at accepted ⊢
  cases mapping : user.entries? with
  | none =>
    cases user with
    | map entries => cases mapping
    | _ => cases accepted
  | some entries =>
    obtain rfl := Value.entries?_eq_some.mp mapping
    have rules := get?_merge defaults proper "rules"
    rw [defaults_eq, Entries.get?_cons_text, if_pos rfl, ← defaults_eq] at rules
    change build (merge defaults entries) = .ok config at accepted
    rw [build, rules] at accepted
    unfold ownRule?
    rw [mapping]
    cases said : entries.get? "rules" with
    | none =>
      rw [said] at accepted
      obtain ⟨merged, read, found⟩ := find?_allSettings accepted standard
      refine ⟨merged, found, ?_⟩
      simpa [said] using read
    | some v =>
      rw [said, Option.elim_some, Option.getD_some] at accepted
      cases own : v.entries? with
      | none =>
        rw [mergeValue_of_plain _ own] at accepted
        cases v with
        | map entries => cases own
        | _ => cases accepted
      | some rules =>
        obtain rfl := Value.entries?_eq_some.mp own
        have inside := Entries.isProper_of_get? proper said
        have entry := get?_merge [(.text Camelcase.identifier, .map defaultEntry)] inside
          Camelcase.identifier
        rw [standard] at entry
        rw [mergeValue_map] at accepted
        cases naming : rules.get? Camelcase.identifier with
        | none =>
          rw [naming] at entry
          obtain ⟨merged, read, found⟩ := find?_allSettings accepted entry
          refine ⟨merged, found, ?_⟩
          simpa [said, own, naming] using read
        | some w =>
          rw [naming] at entry
          obtain ⟨merged, read, found⟩ := find?_allSettings accepted entry
          refine ⟨merged, found, ?_⟩
          simpa [said, own, naming] using read

/-- An accepted configuration has settings for the naming rule that agree with what the user's own
entry says. -/
theorem agree_ownSettings [Stack] (user : ProperValue) {config : LintConfig}
    (accepted : ofValue user.value = .ok config) :
    ∃ merged, config.find? Camelcase.identifier = some merged ∧
      merged.Agree (ownSettings user.value) := by
  obtain ⟨merged, found, read⟩ := find?_ofValue user accepted
  refine ⟨merged, found, ?_⟩
  unfold ownSettings
  cases own : ownRule? user.value with
  | none =>
    rw [own, Option.elim_none] at read
    exact agree_of_merged_entry (rfl : (Value.map []).isProper = true) read
  | some entry =>
    rw [own, Option.elim_some] at read
    cases mapping : entry.entries? with
    | some entries =>
      obtain rfl := Value.entries?_eq_some.mp mapping
      rw [mergeValue_map] at read
      exact agree_of_merged_entry (isProper_ownRule? user own) read
    | none =>
      rw [mergeValue_of_plain _ mapping] at read
      cases entry with
      | map entries => cases mapping
      | bool enabled =>
        cases read
        exact ⟨rfl, rfl, rfl⟩
      | _ => cases read

end LintConfig

/-- What a rule is to its users: whether it is enabled, how severe it is and what it does at
nodes. -/
def Rule.effect (r : Rule) : Value × Severity × List (String × (Node → List Node → Outcome)) :=
  (r.settings.enabled, r.severity, r.visitors)

theorem RuleSettings.Agree.effect [Stack] {a b : RuleSettings} (agree : a.Agree b) :
    (Camelcase.rule a).map Rule.effect = (Camelcase.rule b).map Rule.effect := by
  have checked : Rule.checkSeverity a Camelcase.standardSeverity =
      Rule.checkSeverity b Camelcase.standardSeverity := by
    rw [Rule.checkSeverity, Rule.checkSeverity, agree.severity]
  have severity : Rule.severityOf a Camelcase.standardSeverity =
      Rule.severityOf b Camelcase.standardSeverity := by
    rw [Rule.severityOf, Rule.severityOf, agree.severity]
  unfold Camelcase.rule
  rw [agree.options, checked]
  cases Rule.checkSeverity b Camelcase.standardSeverity with
  | error fault => rfl
  | ok _ =>
    cases CamelcaseOptions.ofParams b.params with
    | error fault => rfl
    | ok options =>
      show Except.ok (a.enabled, Rule.severityOf a _, _) = Except.ok (b.enabled, _, _)
      rw [agree.enabled, severity]
      rfl

/-- Merging over the defaults does not change what the user's settings mean: the naming rule is made
from the merged settings as from those that the user's own entry holds, with the same options, or
refused for the same reason. -/
theorem merged_settings_mean_own [Stack] (user : ProperValue) (config : LintConfig)
    (accepted : LintConfig.ofValue user.value = .ok config) :
    ∃ merged, config.find? Camelcase.identifier = some merged ∧
      CamelcaseOptions.ofParams merged.params =
        CamelcaseOptions.ofParams (LintConfig.ownSettings user.value).params ∧
      (Camelcase.rule merged).map Rule.effect =
        (Camelcase.rule (LintConfig.ownSettings user.value)).map Rule.effect := by
  obtain ⟨merged, found, agree⟩ := LintConfig.agree_ownSettings user accepted
  exact ⟨merged, found, agree.options, agree.effect⟩

/-- Settings that replace a default of the naming rule by null. -/
def nulledQuote : Value :=
  .map [(.text "rules", .map [
    (.text "other", .bool false),
    (.text "camelcase", .map [
      (.text "severity", .text "error"),
      (.text "params", .map [(.text "ignore", .null), (.text "quote", .null)])])])]

theorem ownSettings_nulledQuote :
    LintConfig.ownSettings nulledQuote =
      { severity := .text "error"
        params := .map [(.text "ignore", .null), (.text "quote", .null)] } := by
  simp [LintConfig.ownSettings, LintConfig.ownRule?, nulledQuote, Value.entries?,
    Camelcase.identifier]

open scoped Stack in
/-- Both ways the rule is refused for the null. -/
theorem nulledQuote_means_own :
    nulledQuote.isProper = true ∧
    ∃ config merged, LintConfig.ofValue nulledQuote = .ok config ∧
      config.find? Camelcase.identifier = some merged ∧
      (Camelcase.rule merged).map Rule.effect = .error (.config (.quoteNotBool .null)) := by
  have proper : nulledQuote.isProper = true := by decide +kernel
  refine ⟨proper, ?_⟩
  have readable : (LintConfig.ofValue nulledQuote).isOk = true := by decide +kernel
  have refused : CamelcaseOptions.ofParams (LintConfig.ownSettings nulledQuote).params =
      .error (.config (.quoteNotBool .null)) := by
    have ignore : Entries.get? [(.text "ignore", .null), (.text "quote", .null)] "ignore" =
        some .null := by simp
    have quote : Entries.get? [(.text "ignore", .null), (.text "quote", .null)] "quote" =
        some .null := by simp
    rw [ownSettings_nulledQuote, CamelcaseOptions.ofParams, CamelcaseOptions.ofEntries,
      CamelcaseOptions.ignoreEntries, CamelcaseOptions.quoteOption, ignore, quote]
    rfl
  cases accepted : LintConfig.ofValue nulledQuote with
  | error fault =>
    rw [accepted] at readable
    cases readable
  | ok config =>
    obtain ⟨merged, found, _, effect⟩ :=
      merged_settings_mean_own ⟨nulledQuote, proper⟩ config accepted
    refine ⟨config, merged, rfl, found, ?_⟩
    have known : Rule.checkSeverity (LintConfig.ownSettings nulledQuote)
        Camelcase.standardSeverity = .ok () := by
      rw [ownSettings_nulledQuote]
      exact Rule.checkSeverity_of_known (by decide +kernel)
    rw [effect, Camelcase.rule, refused, known]
    rfl

end NameLint
