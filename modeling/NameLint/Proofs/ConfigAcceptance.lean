import NameLint.Proofs.Defaults

/-!
# Accepted configurations

A configuration is checked after the user's entries have been merged over the defaults,
but what is accepted can be read off the user's entries: the rules are missing or a
mapping, and the entry of each rule is a truth value or a mapping whose parameters are
missing, null or a mapping. The naming rule comes first, whether the user has it or not,
and the other rules follow in the user's order with the settings that the user gives.
-/

namespace NameLint

namespace Value

mutual

/-- Whether no mapping in the value has a key twice. -/
def hasKeysOnce : Value → Bool
  | .list items => haveKeysOnce items
  | .tuple items => haveKeysOnce items
  | .map entries => entriesOnce entries
  | _ => true

def haveKeysOnce : List Value → Bool
  | [] => true
  | v :: rest => hasKeysOnce v && haveKeysOnce rest

/-- Whether no key stands twice, in the entries or in a mapping below them. -/
def entriesOnce : List (Value × Value) → Bool
  | [] => true
  | (k, v) :: rest => rest.all (fun e => !k.same e.1) && hasKeysOnce v && entriesOnce rest

end

theorem entriesOnce_cons {k v : Value} {rest : Entries} :
    entriesOnce ((k, v) :: rest) = true ↔
      (∀ e ∈ rest, k.same e.1 = false) ∧ v.hasKeysOnce = true ∧ entriesOnce rest = true := by
  rw [entriesOnce, Bool.and_eq_true, Bool.and_eq_true, List.all_eq_true, and_assoc]
  simp only [Bool.not_eq_true']

end Value

namespace Entries

theorem get?_eq_none_of_once {entries : Entries} {key : String}
    (once : ∀ e ∈ entries, (Value.text key).same e.1 = false) : entries.get? key = none :=
  find?_of_absent fun e he => (Value.same_text_comm e.1 key).trans (once e he)

theorem mem_of_get? {entries : Entries} {key : String} {v : Value}
    (found : entries.get? key = some v) : (.text key, v) ∈ entries := by
  induction entries with
  | nil => cases found
  | cons e rest ih =>
    obtain ⟨k, first⟩ := e
    by_cases own : k = .text key
    · subst own
      rw [get?_cons_self] at found
      obtain rfl := Option.some.inj found
      exact List.mem_cons_self
    · rw [get?_cons_of_ne own] at found
      exact List.mem_cons_of_mem _ (ih found)

/-- A new key goes to the end. -/
theorem put_of_absent {entries : Entries} {key : Value}
    (absent : ∀ e ∈ entries, e.1.same key = false) (v : Value) :
    entries.put key v = entries ++ [(key, v)] := by
  induction entries with
  | nil => rfl
  | cons e rest ih =>
    obtain ⟨k, old⟩ := e
    have differs := absent _ List.mem_cons_self
    rw [put, if_neg (Bool.eq_false_iff.mp differs), ih fun e he =>
      absent e (List.mem_cons_of_mem _ he)]
    rfl

theorem hasKeysOnce_of_mem {entries : Entries} {e : Value × Value}
    (once : Value.entriesOnce entries = true) (member : e ∈ entries) : e.2.hasKeysOnce = true := by
  induction entries with
  | nil => cases member
  | cons first rest ih =>
    obtain ⟨_, own, later⟩ := Value.entriesOnce_cons.mp once
    rcases List.mem_cons.mp member with rfl | behind
    · exact own
    · exact ih later behind

/-- In a mapping below, keys stand once. -/
theorem once_of_get? {entries inner : Entries} {key : String}
    (once : (Value.map entries).hasKeysOnce = true) (found : entries.get? key = some (.map inner)) :
    Value.entriesOnce inner = true := by
  rw [Value.hasKeysOnce] at once
  have own := hasKeysOnce_of_mem once (mem_of_get? found)
  rw [Value.hasKeysOnce] at own
  exact own

/-- The entries under other keys. -/
def without (entries : Entries) (key : String) : Entries :=
  entries.filter fun e => !(Value.text key).same e.1

theorem without_nil (key : String) : without [] key = [] := rfl

theorem without_cons_self (key : String) (v : Value) (rest : Entries) :
    without ((.text key, v) :: rest) key = rest.without key := by
  simp [without, Value.same_text.mpr rfl]

theorem without_cons_of_ne {k : Value} {key : String} (other : k ≠ .text key) (v : Value)
    (rest : Entries) : without ((k, v) :: rest) key = (k, v) :: rest.without key := by
  have differs : (Value.text key).same k = false :=
    Bool.eq_false_iff.mpr fun same => other (Value.text_same.mp same)
  simp [without, differs]

end Entries

namespace Value

mutual

/-- Keys that stand once are proper. -/
theorem isProper_of_hasKeysOnce : ∀ v : Value, v.hasKeysOnce = true → v.isProper = true
  | .list items, once => by
    rw [hasKeysOnce] at once
    rw [isProper]
    exact areProper_of_haveKeysOnce items once
  | .tuple items, once => by
    rw [hasKeysOnce] at once
    rw [isProper]
    exact areProper_of_haveKeysOnce items once
  | .map entries, once => by
    rw [hasKeysOnce] at once
    rw [isProper]
    exact entriesProper_of_once entries once
  | .null, _ => rfl
  | .bool _, _ => rfl
  | .int _, _ => rfl
  | .float _, _ => rfl
  | .text _, _ => rfl
  | .stamp _, _ => rfl
  | .bytes _, _ => rfl
  | .set _, _ => rfl
  | .again _, _ => rfl

theorem areProper_of_haveKeysOnce :
    ∀ items : List Value, haveKeysOnce items = true → areProper items = true
  | [], _ => rfl
  | v :: rest, once => by
    rw [haveKeysOnce, Bool.and_eq_true] at once
    rw [areProper, Bool.and_eq_true]
    exact ⟨isProper_of_hasKeysOnce v once.1, areProper_of_haveKeysOnce rest once.2⟩

theorem entriesProper_of_once :
    ∀ entries : List (Value × Value), entriesOnce entries = true → entriesProper entries = true
  | [], _ => rfl
  | (k, v) :: rest, once => by
    obtain ⟨apart, own, later⟩ := entriesOnce_cons.mp once
    rw [entriesProper, Bool.and_eq_true, Bool.and_eq_true]
    refine ⟨⟨?_, isProper_of_hasKeysOnce v own⟩, entriesProper_of_once rest later⟩
    cases k with
    | text key => simp [text?, Entries.get?_eq_none_of_once apart]
    | _ => rfl

end

end Value

/-- A value in which no mapping has a key twice. -/
structure OnceKeyed where
  value : Value
  once : value.hasKeysOnce = true

theorem OnceKeyed.isProper (user : OnceKeyed) : user.value.isProper = true :=
  Value.isProper_of_hasKeysOnce user.value user.once

theorem Entries.get?_of_mem {entries : Entries} {key : String} {v : Value}
    (once : Value.entriesOnce entries = true) (member : (.text key, v) ∈ entries) :
    entries.get? key = some v := by
  have proper : (Value.map entries).isProper = true := by
    rw [Value.isProper]
    exact Value.entriesProper_of_once entries once
  exact find?_of_mem (once_of_proper proper key) (Value.same_text.mpr rfl) member

namespace LintConfig

theorem mergeValue_none (v : Value) : mergeValue none v = v := by
  cases v <;> simp [mergeValue]

/-- Entries over a single one: it stays in front, with what is merged into it, and the others follow
in their order. `done` is what has come behind it so far. -/
theorem merge_single {key : String} {top : Entries} (once : Value.entriesOnce top = true)
    (standard : Value) (done : Entries) (apart : ∀ d ∈ done, ∀ e ∈ top, d.1.same e.1 = false) :
    merge ((.text key, standard) :: done) top =
      (.text key, (top.get? key).elim standard (mergeValue (some standard))) ::
        (done ++ top.without key) := by
  induction top generalizing standard done with
  | nil =>
    rw [merge, Entries.without_nil, List.append_nil]
    rfl
  | cons e rest ih =>
    obtain ⟨k, v⟩ := e
    obtain ⟨alone, _, later⟩ := Value.entriesOnce_cons.mp once
    have apart' : ∀ d ∈ done, ∀ e ∈ rest, d.1.same e.1 = false := fun d hd e he =>
      apart d hd e (List.mem_cons_of_mem _ he)
    by_cases own : k = .text key
    · subst own
      have found : Entries.find? ((.text key, standard) :: done) (.text key) = some standard :=
        Entries.get?_cons_self key standard done
      rw [merge, found, Entries.put, if_pos (Value.same_text.mpr rfl), ih later _ done apart',
        Entries.get?_eq_none_of_once alone, Entries.get?_cons_self, Entries.without_cons_self]
      rfl
    · have absent : ∀ d ∈ (Value.text key, standard) :: done, d.1.same k = false := by
        refine List.forall_mem_cons.mpr ⟨?_, fun d hd => apart d hd _ List.mem_cons_self⟩
        exact Bool.eq_false_iff.mpr fun same => own (Value.text_same.mp same)
      have grown : ∀ d ∈ done ++ [(k, v)], ∀ e ∈ rest, d.1.same e.1 = false := by
        intro d hd e he
        rcases List.mem_append.mp hd with hd | hd
        · exact apart' d hd e he
        · obtain rfl := List.mem_singleton.mp hd
          exact alone e he
      rw [merge, Entries.find?_of_absent absent, mergeValue_none, Entries.put_of_absent absent,
        List.cons_append, ih later standard _ grown, Entries.get?_cons_of_ne own,
        Entries.without_cons_of_ne own, List.append_assoc]
      rfl

/-- Merging rules over the defaults. -/
theorem merge_rules {rules : Entries} (once : Value.entriesOnce rules = true) :
    merge [(.text Camelcase.identifier, .map defaultEntry)] rules =
      (.text Camelcase.identifier, (rules.get? Camelcase.identifier).elim (.map defaultEntry)
        (mergeValue (some (.map defaultEntry)))) :: rules.without Camelcase.identifier :=
  merge_single once _ [] fun _ hd => absurd hd List.not_mem_nil

/-- What the entry of a rule may be: a truth value, or a mapping whose parameters are missing, null
or a mapping. -/
inductive IsRuleEntry : Value → Prop
  | bool (enabled : Bool) : IsRuleEntry (.bool enabled)
  | map {entries : Entries}
      (params : ∀ v, Entries.get? entries "params" = some v → v = .null ∨ ∃ own, v = .map own) :
      IsRuleEntry (.map entries)

/-- What is wrong with the entry of a rule, if something is. -/
def entryFault? (rule : Value) : Value → Option ConfigFault
  | .bool _ => none
  | .map entries =>
    match Entries.get? entries "params" with
    | none | some .null | some (.map _) => none
    | some other => some (.paramsNotAMapping rule other)
  | other => some (.badRule rule other)

def entrySettings : Value → RuleSettings
  | .bool enabled => { enabled := .bool enabled }
  | .map entries =>
    { enabled := (Entries.get? entries "enabled").getD (.bool true)
      severity := (Entries.get? entries "severity").getD .null
      params := .map (((Entries.get? entries "params").bind Value.entries?).getD []) }
  | _ => {}

theorem entryFault?_eq_none_iff {rule entry : Value} :
    entryFault? rule entry = none ↔ IsRuleEntry entry := by
  constructor
  · intro fine
    cases entry with
    | bool enabled => exact .bool enabled
    | map entries =>
      refine .map fun v found => ?_
      rw [entryFault?, found] at fine
      cases v with
      | null => exact Or.inl rfl
      | map own => exact Or.inr ⟨own, rfl⟩
      | _ => cases fine
    | _ => cases fine
  · intro valid
    cases valid with
    | bool enabled => rfl
    | map params =>
      rw [entryFault?]
      split
      · rfl
      · rfl
      · rfl
      · rename_i other null map found
        rcases params _ found with rfl | ⟨own, rfl⟩
        · exact absurd rfl null
        · exact absurd rfl (map own)

/-- The entry of a rule is refused for what is wrong with it, or gives its settings. -/
theorem ruleSettings_eq [Stack] (rule entry : Value) :
    ruleSettings rule entry =
      (entryFault? rule entry).elim (.ok (entrySettings entry)) fun reason =>
        .error (.refusal reason) := by
  cases entry with
  | bool enabled => rfl
  | map entries =>
    rw [ruleSettings, entryFault?, entrySettings]
    cases Entries.get? entries "params" with
    | none => rfl
    | some v =>
      cases v with
      | _ => rfl
  | _ => rfl

theorem allSettings_eq [Stack] (rules : Entries) :
    allSettings rules =
      (rules.findSome? fun e => entryFault? e.1 e.2).elim
        (.ok (rules.map fun e => (e.1, entrySettings e.2))) fun reason =>
          .error (.refusal reason) := by
  induction rules with
  | nil => rfl
  | cons e rest ih =>
    obtain ⟨rule, entry⟩ := e
    rw [allSettings, ruleSettings_eq, ih, List.findSome?_cons]
    cases entryFault? rule entry with
    | some reason => rfl
    | none =>
      cases rest.findSome? fun e => entryFault? e.1 e.2 with
      | some reason => rfl
      | none => rfl

/-- The entry of the naming rule after merging. -/
def namingEntry (rules : Entries) : Value :=
  (rules.get? Camelcase.identifier).elim (.map defaultEntry)
    (mergeValue (some (.map defaultEntry)))

/-- The user's rules with the naming rule in front, if the user has it. -/
def namingFirst (rules : Entries) : Entries :=
  ((rules.get? Camelcase.identifier).toList.map fun v => (.text Camelcase.identifier, v)) ++
    rules.without Camelcase.identifier

/-- Merging neither adds nor removes what is wrong with the entry of the naming rule. -/
theorem entryFault?_namingEntry {rules : Entries} (proper : (Value.map rules).isProper = true)
    (rule : Value) :
    entryFault? rule (namingEntry rules) =
      (rules.get? Camelcase.identifier).bind (entryFault? rule) := by
  have inner : defaultEntry.get? "params" = some (.map defaultParams) := by simp [defaultEntry]
  rw [namingEntry]
  cases said : rules.get? Camelcase.identifier with
  | none =>
    rw [Option.elim_none, entryFault?, inner]
    rfl
  | some entry =>
    rw [Option.elim_some, Option.bind_some]
    cases mapping : entry.entries? with
    | none => rw [mergeValue_of_plain _ mapping]
    | some own =>
      obtain rfl := Value.entries?_eq_some.mp mapping
      rw [mergeValue_map, entryFault?, entryFault?,
        get?_merge defaultEntry (Entries.isProper_of_get? proper said), inner]
      cases Entries.get? own "params" with
      | none => rfl
      | some v =>
        rw [Option.elim_some]
        cases plain : v.entries? with
        | none => rw [mergeValue_of_plain _ plain]
        | some params =>
          obtain rfl := Value.entries?_eq_some.mp plain
          rw [mergeValue_map]

theorem findSome?_namingFirst (rules : Entries) (f : Value × Value → Option ConfigFault) :
    (namingFirst rules).findSome? f =
      ((rules.get? Camelcase.identifier).bind fun v => f (.text Camelcase.identifier, v)).or
        ((rules.without Camelcase.identifier).findSome? f) := by
  rw [namingFirst, List.findSome?_append]
  cases rules.get? Camelcase.identifier with
  | none => rfl
  | some v =>
    rw [Option.toList_some, List.map_cons, List.map_nil, List.findSome?_cons, Option.bind_some]
    cases f (.text Camelcase.identifier, v) with
    | none => rfl
    | some reason => rfl

/-- What is wrong with a configuration, at the first place where something is: the naming rule is
looked at before the others. -/
def configFault? : Value → Option ConfigFault
  | .map user =>
    match Entries.get? user "rules" with
    | none => none
    | some (.map rules) => (namingFirst rules).findSome? fun e => entryFault? e.1 e.2
    | some other => some (.rulesNotAMapping other)
  | other => some (.notAMapping other.kindName)

def rulesOf (user : Value) : Entries :=
  (((user.entries?).bind (Entries.get? · "rules")).bind Value.entries?).getD []

def configOf (user : Value) : LintConfig :=
  (.text Camelcase.identifier, entrySettings (namingEntry (rulesOf user))) ::
    ((rulesOf user).without Camelcase.identifier).map fun e => (e.1, entrySettings e.2)

/-- Rules merged over the default one are refused for what is wrong with the user's, or give their
settings. -/
theorem allSettings_merge [Stack] {rules : Entries} (once : Value.entriesOnce rules = true) :
    allSettings (merge [(.text Camelcase.identifier, .map defaultEntry)] rules) =
      ((namingFirst rules).findSome? fun e => entryFault? e.1 e.2).elim
        (.ok ((.text Camelcase.identifier, entrySettings (namingEntry rules)) ::
          (rules.without Camelcase.identifier).map fun e => (e.1, entrySettings e.2)))
        fun reason => .error (.refusal reason) := by
  have proper : (Value.map rules).isProper = true := by
    rw [Value.isProper]
    exact Value.entriesProper_of_once rules once
  have naming : entryFault? (.text Camelcase.identifier) (namingEntry rules) =
      (rules.get? Camelcase.identifier).bind (entryFault? (.text Camelcase.identifier)) :=
    entryFault?_namingEntry proper _
  rw [merge_rules once, ← namingEntry, allSettings_eq, List.findSome?_cons, naming,
    findSome?_namingFirst]
  cases (rules.get? Camelcase.identifier).bind (entryFault? (.text Camelcase.identifier)) with
  | none => rfl
  | some reason => rfl

/-- A value is refused for what is wrong with it, or gives its configuration. -/
theorem ofValue_eq [Stack] (user : OnceKeyed) :
    ofValue user.value =
      (configFault? user.value).elim (.ok (configOf user.value)) fun reason =>
        .error (.refusal reason) := by
  have proper := user.isProper
  obtain ⟨user, once⟩ := user
  dsimp only at proper ⊢
  cases mapping : user.entries? with
  | none =>
    cases user with
    | map entries => cases mapping
    | _ => rfl
  | some entries =>
    obtain rfl := Value.entries?_eq_some.mp mapping
    have rules := get?_merge defaults proper "rules"
    rw [defaults_eq, Entries.get?_cons_self, ← defaults_eq] at rules
    change build (merge defaults entries) = _
    rw [build, rules, configFault?, configOf, rulesOf, mapping, Option.bind_some]
    cases said : Entries.get? entries "rules" with
    | none =>
      have nothing : Value.entriesOnce [] = true := rfl
      exact allSettings_merge nothing
    | some v =>
      rw [Option.elim_some, Option.getD_some, Option.bind_some]
      cases own : v.entries? with
      | none =>
        rw [mergeValue_of_plain _ own]
        cases v with
        | map entries => cases own
        | _ => rfl
      | some rules =>
        obtain rfl := Value.entries?_eq_some.mp own
        have inside := Entries.once_of_get? once said
        rw [mergeValue_map]
        exact allSettings_merge inside

/-- Configurations of the form that is asked for. -/
inductive IsConfig : Value → Prop
  | bare {user : Entries} (missing : Entries.get? user "rules" = none) : IsConfig (.map user)
  | rules {user rules : Entries} (found : Entries.get? user "rules" = some (.map rules))
      (entries : ∀ e ∈ rules, IsRuleEntry e.2) : IsConfig (.map user)

/-- The naming rule in front of the others has the same entries. -/
theorem mem_namingFirst {rules : Entries} (once : Value.entriesOnce rules = true)
    {e : Value × Value} : e ∈ namingFirst rules ↔ e ∈ rules := by
  obtain ⟨k, v⟩ := e
  rw [namingFirst, List.mem_append, Entries.without, List.mem_filter, List.mem_map]
  simp only [Option.mem_toList]
  by_cases naming : k = .text Camelcase.identifier
  · subst naming
    have own : (.text Camelcase.identifier, v) ∈ rules ↔
        rules.get? Camelcase.identifier = some v :=
      ⟨Entries.get?_of_mem once, Entries.mem_of_get?⟩
    rw [own, Value.text_same.mpr rfl]
    simp
  · have differs : (Value.text Camelcase.identifier).same k = false :=
      Bool.eq_false_iff.mpr fun same => naming (Value.text_same.mp same)
    rw [differs]
    constructor
    · rintro (⟨w, _, same⟩ | ⟨member, _⟩)
      · cases same
        exact absurd rfl naming
      · exact member
    · exact fun member => Or.inr ⟨member, rfl⟩

/-- Nothing is wrong just with what has the form that is asked for. -/
theorem configFault?_eq_none_iff (user : OnceKeyed) :
    configFault? user.value = none ↔ IsConfig user.value := by
  obtain ⟨user, once⟩ := user
  constructor
  · intro fine
    cases user with
    | map entries =>
      rw [configFault?] at fine
      cases said : Entries.get? entries "rules" with
      | none => exact .bare said
      | some v =>
        rw [said] at fine
        cases v with
        | map rules =>
          have inside := Entries.once_of_get? once said
          refine .rules said fun e he => ?_
          have own := List.findSome?_eq_none_iff.mp fine e ((mem_namingFirst inside).mpr he)
          exact entryFault?_eq_none_iff.mp own
        | _ => cases fine
    | _ => cases fine
  · intro valid
    cases valid with
    | bare missing => rw [configFault?, missing]
    | rules found entries =>
      have inside := Entries.once_of_get? once found
      rw [configFault?, found]
      refine List.findSome?_eq_none_iff.mpr fun e he => entryFault?_eq_none_iff.mpr ?_
      exact entries e ((mem_namingFirst inside).mp he)

/-- What is wrong with an entry of the rules can be said, if entry and rule have texts deeper in. -/
theorem obstacle?_of_entryFault? [Stack] {rule entry : Value} {reason : ConfigFault} {room : Nat}
    (deeper : room < Stack.room .configuration) (named : rule.obstacle? room = none)
    (free : entry.obstacle? room = none) (wrong : entryFault? rule entry = some reason) :
    reason.obstacle? = none := by
  have shown := rule.shownObstacle?_of_obstacle? deeper named
  have quoted : ∀ {given : Value} {inner : Nat}, inner ≤ room → given.obstacle? inner = none →
      ConfigFault.obstacle?.inEntry? rule given = none := fun le given =>
    Option.or_eq_none_iff.mpr
      ⟨shown, Value.obstacle?_mono _ (Nat.le_trans le (Nat.le_of_lt deeper)) given⟩
  cases entry with
  | bool enabled => cases wrong
  | map entries =>
    rw [entryFault?] at wrong
    split at wrong
    · cases wrong
    · cases wrong
    · cases wrong
    · rename_i other _ _ found
      obtain rfl := Option.some.inj wrong
      obtain ⟨inner, less, _, given⟩ := Value.obstacle?_of_mem free (Entries.mem_of_get? found)
      exact quoted (Nat.le_of_lt less) given
  | _ =>
    obtain rfl := Option.some.inj wrong
    exact quoted (Nat.le_refl _) free

/-- What is wrong with a value that has a text can be said. -/
theorem obstacle?_of_configFault? [Stack] (user : OnceKeyed) {reason : ConfigFault}
    (free : user.value.obstacle? (Stack.room .configuration) = none)
    (wrong : configFault? user.value = some reason) : reason.obstacle? = none := by
  obtain ⟨user, once⟩ := user
  dsimp only at free wrong
  cases user with
  | map entries =>
    rw [configFault?] at wrong
    split at wrong
    · cases wrong
    · rename_i rules found
      have inside := Entries.once_of_get? once found
      obtain ⟨middle, less, _, texts⟩ := Value.obstacle?_of_mem free (Entries.mem_of_get? found)
      obtain ⟨e, member, wrong⟩ := List.exists_of_findSome?_eq_some wrong
      obtain ⟨inner, less', rule, entry⟩ :=
        Value.obstacle?_of_mem texts ((mem_namingFirst inside).mp member)
      exact obstacle?_of_entryFault? (Nat.lt_trans less' less) rule entry wrong
    · rename_i other _ found
      obtain rfl := Option.some.inj wrong
      obtain ⟨inner, less, _, given⟩ := Value.obstacle?_of_mem free (Entries.mem_of_get? found)
      exact Value.obstacle?_mono _ (Nat.le_of_lt less) given
  | _ =>
    obtain rfl := Option.some.inj wrong
    rfl

theorem pairwise_of_once {entries : Entries} (once : Value.entriesOnce entries = true) :
    entries.Pairwise fun a b => a.1.same b.1 = false := by
  induction entries with
  | nil => exact List.Pairwise.nil
  | cons e rest ih =>
    obtain ⟨alone, _, later⟩ := Value.entriesOnce_cons.mp once
    exact List.Pairwise.cons alone (ih later)

theorem rulesOf_once (user : OnceKeyed) : Value.entriesOnce (rulesOf user.value) = true := by
  obtain ⟨user, once⟩ := user
  unfold rulesOf
  cases mapping : user.entries? with
  | none => rfl
  | some entries =>
    obtain rfl := Value.entries?_eq_some.mp mapping
    rw [Option.bind_some]
    cases said : Entries.get? entries "rules" with
    | none => rfl
    | some v =>
      rw [Option.bind_some]
      cases own : v.entries? with
      | none => rfl
      | some rules =>
        obtain rfl := Value.entries?_eq_some.mp own
        exact Entries.once_of_get? once said

/-- No rule stands twice in a configuration. -/
theorem configOf_pairwise (user : OnceKeyed) :
    (configOf user.value).Pairwise fun a b => a.1.same b.1 = false := by
  refine List.Pairwise.cons ?_ ?_
  · intro e he
    obtain ⟨own, member, rfl⟩ := List.mem_map.mp he
    rw [Entries.without, List.mem_filter, Bool.not_eq_true'] at member
    exact member.2
  · rw [List.pairwise_map]
    exact (pairwise_of_once (rulesOf_once user)).sublist List.filter_sublist

end LintConfig

open LintConfig in
/-- A value, whose mappings have no key twice, is accepted as a configuration if and only if it is a
mapping without rules, or whose rules are a mapping with a truth value or a mapping for each rule,
with parameters that are missing, null or a mapping. Otherwise it is refused for the first thing
wrong with it, and the refusal is one of the configuration unless what is quoted has no text; it has
one if the whole value has. An accepted configuration has the naming rule and then the user's other
rules in their order, each once and with the settings of its own entry. -/
theorem ofValue_accepts_iff [Stack] (user : OnceKeyed) :
    ((∃ config, ofValue user.value = .ok config) ↔ IsConfig user.value) ∧
    (¬ IsConfig user.value → ∃ reason, configFault? user.value = some reason ∧
      ofValue user.value =
        .error ((reason.obstacle?.map Fault.ofObstacle).getD (.config reason)) ∧
      (user.value.obstacle? (Stack.room .configuration) = none → reason.obstacle? = none)) ∧
    ∀ config, ofValue user.value = .ok config →
      (∃ naming, config = (.text Camelcase.identifier, naming) ::
        ((rulesOf user.value).without Camelcase.identifier).map fun e => (e.1, entrySettings e.2)) ∧
      config.Pairwise fun a b => a.1.same b.1 = false := by
  have outcome := ofValue_eq user
  have form := configFault?_eq_none_iff user
  cases wrong : configFault? user.value with
  | none =>
    rw [wrong, Option.elim_none] at outcome
    have valid := form.mp wrong
    refine ⟨⟨fun _ => valid, fun _ => ⟨_, outcome⟩⟩, fun invalid => absurd valid invalid, ?_⟩
    intro config accepted
    obtain rfl := Except.ok.inj (outcome.symm.trans accepted)
    exact ⟨⟨_, rfl⟩, configOf_pairwise user⟩
  | some reason =>
    rw [wrong, Option.elim_some] at outcome
    have refused (config : LintConfig) : ofValue user.value ≠ .ok config := by
      rw [outcome]
      exact fun same => nomatch same
    refine ⟨⟨fun ⟨config, accepted⟩ => absurd accepted (refused config), fun valid => ?_⟩, ?_, ?_⟩
    · rw [form.mpr valid] at wrong
      cases wrong
    · exact fun _ => ⟨reason, rfl, outcome, fun free =>
        obstacle?_of_configFault? user free wrong⟩
    · exact fun config accepted => absurd accepted (refused config)

/-- Rules of which one has a number for its name. -/
def mixedRules : Value :=
  .map [(.text "rules", .map [
    (.text "other", .bool false),
    (.text "camelcase", .map [(.text "params", .map [(.text "quote", .bool true)])]),
    (.int 3, .map [(.text "severity", .text "error"), (.text "params", .null)])])]

/-- A number of 4335 decimal digits in place of the rules. -/
def hugeRules : Value :=
  .map [(.text "rules", .int (Int.ofNat (Nat.pow 16 3600)))]

open scoped Stack in
open LintConfig in
/-- Rules with and without parameters are accepted, the naming rule in front. A number too long to
be quoted in place of the rules is not refused as a configuration. -/
theorem ofValue_accepts_mixedRules :
    mixedRules.hasKeysOnce = true ∧ hugeRules.hasKeysOnce = true ∧
    (∃ config naming, ofValue mixedRules = .ok config ∧
      config = [(.text "camelcase", naming), (.text "other", { enabled := .bool false }),
        (.int 3, { severity := .text "error" })]) ∧
    ¬ IsConfig hugeRules ∧ ofValue hugeRules = .error .badValue := by
  have mixed : mixedRules.hasKeysOnce = true := by decide +kernel
  have huge : hugeRules.hasKeysOnce = true := by decide +kernel
  obtain ⟨_, _, shape⟩ := ofValue_accepts_iff ⟨mixedRules, mixed⟩
  obtain ⟨accepts, refuses, _⟩ := ofValue_accepts_iff ⟨hugeRules, huge⟩
  have invalid : ¬ IsConfig hugeRules := by
    intro valid
    obtain ⟨config, accepted⟩ := accepts.mpr valid
    have refused : (ofValue hugeRules).isOk = false := by decide +kernel
    rw [accepted] at refused
    cases refused
  refine ⟨mixed, huge, ?_, invalid, ?_⟩
  · have readable : (ofValue mixedRules).isOk = true := by decide +kernel
    cases accepted : ofValue mixedRules with
    | error fault =>
      rw [accepted] at readable
      cases readable
    | ok config =>
      obtain ⟨⟨naming, rules⟩, _⟩ := shape config accepted
      refine ⟨config, naming, rfl, rules.trans ?_⟩
      simp [rulesOf, mixedRules, Value.entries?, Camelcase.identifier, Entries.without_cons_of_ne,
        Entries.without_cons_self, Entries.without_nil, entrySettings]
  · obtain ⟨reason, wrong, refused, _⟩ := refuses invalid
    have first : configFault? hugeRules =
        some (.rulesNotAMapping (.int (Int.ofNat (Nat.pow 16 3600)))) := by
      simp only [configFault?, hugeRules, Entries.get?_cons_self]
    obtain rfl := Option.some.inj (first.symm.trans wrong)
    have silent : (ConfigFault.rulesNotAMapping (.int (Int.ofNat (Nat.pow 16 3600)))).obstacle? =
        some .digits := by decide +kernel
    rw [refused, silent]
    rfl

end NameLint
