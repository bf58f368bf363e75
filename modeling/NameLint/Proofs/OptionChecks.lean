import NameLint.Proofs.Defaults

/-!
# Checking options

Parameters are looked at in an order: whether they are a mapping, then the names to
ignore, then the quoting, and last the patterns among the names, from the first on.
What is wrong with the form of the parameters is refused with the value quoted, and a
body that is rejected is refused with its entry. A body can fail in other ways than by
being rejected, and these faults leave as they are.
-/

namespace NameLint

namespace IgnorePattern

/-- Whether an entry is a body between slashes, without a line feed in it. -/
def HasBody (entry body : String) : Prop :=
  entry = "/" ++ body ++ "/" ∧ '\n' ∉ body.toList

/-- Whether an entry is a name, or the body between its slashes is a pattern. -/
def IsUsable [Stack] (entry : String) : Prop :=
  ∀ body, HasBody entry body → ∃ compiled, Pattern.compile body = .ok compiled

/-- The first of the entries that cannot be used, and why. -/
structure FirstFailure [Stack] (entries : List String) (entry body : String)
    (cause : Pattern.Fault) : Prop where
  first : ∃ front back, entries = front ++ entry :: back ∧ ∀ e ∈ front, IsUsable e
  between : HasBody entry body
  fails : Pattern.compile body = .error cause

theorem hasBody_iff_toList {entry body : String} :
    HasBody entry body ↔ entry.toList = '/' :: (body.toList ++ ['/']) ∧ '\n' ∉ body.toList := by
  unfold HasBody
  rw [← String.toList_inj, String.toList_append, String.toList_append]
  rfl

/-- The text between the slashes is found wherever there is one. -/
theorem regexBody?_eq_some_iff {entry body : String} :
    regexBody? entry = some body ↔ HasBody entry body := by
  rw [hasBody_iff_toList]
  constructor
  · intro found
    unfold regexBody? at found
    split at found
    · rename_i rest slash
      split at found
      · rename_i back ending
        split at found
        · cases found
        · rename_i plain
          obtain rfl := Option.some.inj found
          have whole : rest = back.reverse ++ ['/'] := by
            rw [← List.reverse_reverse rest, ending, List.reverse_cons]
          rw [slash, whole, String.toList_ofList]
          refine ⟨rfl, fun held => plain ?_⟩
          exact List.contains_iff_mem.mpr (List.mem_reverse.mp held)
      · cases found
    · cases found
  · rintro ⟨spelled, plain⟩
    have bare : ¬ (body.toList.reverse.contains '\n' = true) := fun held =>
      plain (List.mem_reverse.mp (List.contains_iff_mem.mp held))
    unfold regexBody?
    rw [spelled]
    simp only [List.reverse_append, List.reverse_singleton, List.singleton_append]
    rw [if_neg bare, List.reverse_reverse, String.ofList_toList]

theorem ofEntry_of_isUsable [Stack] {entry : String} (usable : IsUsable entry) :
    ∃ p, ofEntry entry = .ok p := by
  unfold ofEntry
  cases found : regexBody? entry with
  | none => exact ⟨_, rfl⟩
  | some body =>
    obtain ⟨compiled, made⟩ := usable body (regexBody?_eq_some_iff.mp found)
    refine ⟨.regex body compiled, ?_⟩
    dsimp only
    rw [made]
    rfl

theorem ofEntry_of_fails [Stack] {entry body : String} {cause : Pattern.Fault}
    (between : HasBody entry body) (fails : Pattern.compile body = .error cause) :
    ofEntry entry = .error (patternFault entry cause) := by
  unfold ofEntry
  rw [regexBody?_eq_some_iff.mpr between]
  dsimp only
  rw [fails]
  rfl

theorem ofEntries_of_isUsable [Stack] {entries : List String} (usable : ∀ e ∈ entries, IsUsable e) :
    ∃ patterns, ofEntries entries = .ok patterns := by
  induction entries with
  | nil => exact ⟨[], rfl⟩
  | cons entry rest ih =>
    obtain ⟨p, own⟩ := ofEntry_of_isUsable (usable entry List.mem_cons_self)
    obtain ⟨patterns, later⟩ := ih fun e he => usable e (List.mem_cons_of_mem _ he)
    exact ⟨p :: patterns, by rw [ofEntries, own, later]; rfl⟩

theorem ofEntries_of_firstFailure [Stack] {entries : List String} {entry body : String}
    {cause : Pattern.Fault} (failure : FirstFailure entries entry body cause) :
    ofEntries entries = .error (patternFault entry cause) := by
  obtain ⟨⟨front, back, rfl, usable⟩, between, fails⟩ := failure
  induction front with
  | nil =>
    rw [List.nil_append, ofEntries, ofEntry_of_fails between fails]
    rfl
  | cons e front ih =>
    obtain ⟨p, own⟩ := ofEntry_of_isUsable (usable e List.mem_cons_self)
    have later := ih fun e he => usable e (List.mem_cons_of_mem _ he)
    rw [List.cons_append, ofEntries, own, later]
    rfl

/-- Either all entries can be used or one of them is the first that cannot. -/
theorem isUsable_or_firstFailure [Stack] (entries : List String) :
    (∀ e ∈ entries, IsUsable e) ∨
      ∃ entry body cause, FirstFailure entries entry body cause := by
  induction entries with
  | nil => exact Or.inl fun e he => absurd he List.not_mem_nil
  | cons e rest ih =>
    by_cases own : IsUsable e
    · rcases ih with all | ⟨entry, body, cause, ⟨front, back, rfl, usable⟩, between, fails⟩
      · exact Or.inl (List.forall_mem_cons.mpr ⟨own, all⟩)
      · refine Or.inr ⟨entry, body, cause, ⟨e :: front, back, rfl, ?_⟩, between, fails⟩
        exact List.forall_mem_cons.mpr ⟨own, usable⟩
    · obtain ⟨body, own⟩ := Classical.not_forall.mp own
      obtain ⟨between, own⟩ := Classical.not_imp.mp own
      cases made : Pattern.compile body with
      | ok compiled => exact absurd ⟨compiled, made⟩ own
      | error cause =>
        exact Or.inr ⟨e, body, cause, ⟨[], rest, rfl, fun e he => absurd he List.not_mem_nil⟩,
          between, made⟩

/-- The entry is refused just where its body is rejected. -/
theorem patternFault_eq_config_iff {entry : String} {cause : Pattern.Fault} :
    (∃ reason, patternFault entry cause = .config reason) ↔
      ∃ complaint position, cause = .rejected complaint position := by
  constructor
  · rintro ⟨reason, same⟩
    cases cause with
    | rejected complaint position => exact ⟨complaint, position, rfl⟩
    | _ => cases same
  · rintro ⟨complaint, position, rfl⟩
    exact ⟨.badPattern entry complaint position, rfl⟩

end IgnorePattern

theorem Fault.refusal_eq_config_iff [Stack] {reason : ConfigFault} :
    (∃ other, Fault.refusal reason = .config other) ↔ reason.obstacle? = none := by
  unfold Fault.refusal
  cases reason.obstacle? with
  | none => exact iff_of_true ⟨reason, rfl⟩ rfl
  | some obstacle =>
    refine iff_of_false ?_ nofun
    rintro ⟨other, same⟩
    cases obstacle <;> cases same

namespace CamelcaseOptions

/-- The names that a value lists for being ignored; nothing and null list none. -/
inductive Lists : Option Value → List String → Prop
  | missing : Lists none []
  | null : Lists (some .null) []
  | list (names : List String) : Lists (some (.list (names.map .text))) names
  | tuple (names : List String) : Lists (some (.tuple (names.map .text))) names

/-- What a value says about quoted keys; nothing exempts them. -/
inductive Quotes : Option Value → Bool → Prop
  | missing : Quotes none true
  | bool (exempt : Bool) : Quotes (some (.bool exempt)) exempt

/-- Parameters of the form that is asked for, with the names and the quoting in them. -/
inductive HasForm : Value → List String → Bool → Prop
  | null : HasForm .null [] true
  | map {params : Entries} {names : List String} {exempt : Bool}
      (ignore : Lists (params.get? "ignore") names) (quote : Quotes (params.get? "quote") exempt) :
      HasForm (.map params) names exempt

/-- What is wrong with the form of parameters, at the first place where something is. -/
inductive FormFault : Value → ConfigFault → Prop
  | params {given : Value} (present : given ≠ .null) (plain : given.entries? = none) :
      FormFault given (.optionsNotAMapping given)
  | ignore {params : Entries} {given : Value} (found : params.get? "ignore" = some given)
      (bad : ∀ names, ¬ Lists (some given) names) : FormFault (.map params) (.ignoreNotTexts given)
  | quote {params : Entries} {names : List String} {given : Value}
      (ignore : Lists (params.get? "ignore") names) (found : params.get? "quote" = some given)
      (bad : ∀ exempt, ¬ Quotes (some given) exempt) : FormFault (.map params) (.quoteNotBool given)

theorem texts?_eq_some_iff {items : List Value} {names : List String} :
    texts? items = some names ↔ items = names.map .text := by
  induction items generalizing names with
  | nil =>
    cases names with
    | nil => simp [texts?]
    | cons name names => simp [texts?]
  | cons v rest ih =>
    cases v with
    | text s =>
      cases names with
      | nil => simp [texts?]
      | cons name names =>
        simp only [texts?, Option.map_eq_some_iff, ih, List.map_cons, List.cons.injEq,
          Value.text.injEq]
        constructor
        · rintro ⟨_, same, rfl, rfl⟩
          exact ⟨rfl, same⟩
        · rintro ⟨rfl, same⟩
          exact ⟨names, same, rfl, rfl⟩
    | _ =>
      cases names with
      | nil => simp [texts?]
      | cons name names => simp [texts?]

theorem ignoreEntries_of_lists [Stack] {params : Entries} {names : List String}
    (lists : Lists (params.get? "ignore") names) : ignoreEntries params = .ok names := by
  unfold ignoreEntries
  generalize params.get? "ignore" = given at lists
  cases lists with
  | missing => rfl
  | null => rfl
  | list => simp [texts?_eq_some_iff.mpr rfl]; rfl
  | tuple => simp [texts?_eq_some_iff.mpr rfl]; rfl

theorem ignoreEntries_of_bad [Stack] {params : Entries} {given : Value}
    (found : params.get? "ignore" = some given) (bad : ∀ names, ¬ Lists (some given) names) :
    ignoreEntries params = .error (.refusal (.ignoreNotTexts given)) := by
  have mixed {items : List Value} (unlisted : ∀ names, items ≠ names.map .text) :
      texts? items = none :=
    Option.eq_none_iff_forall_ne_some.mpr fun names known =>
      unlisted names (texts?_eq_some_iff.mp known)
  unfold ignoreEntries
  rw [found]
  cases given with
  | null => exact absurd Lists.null (bad [])
  | list items =>
    have none : texts? items = none := mixed fun names same => bad names (same ▸ Lists.list names)
    simp only [Option.getD_some, none]
    rfl
  | tuple items =>
    have none : texts? items = none := mixed fun names same => bad names (same ▸ Lists.tuple names)
    simp only [Option.getD_some, none]
    rfl
  | _ => rfl

theorem quoteOption_of_quotes [Stack] {params : Entries} {exempt : Bool}
    (quotes : Quotes (params.get? "quote") exempt) : quoteOption params = .ok exempt := by
  unfold quoteOption
  generalize params.get? "quote" = given at quotes
  cases quotes with
  | missing => rfl
  | bool => rfl

theorem quoteOption_of_bad [Stack] {params : Entries} {given : Value}
    (found : params.get? "quote" = some given) (bad : ∀ exempt, ¬ Quotes (some given) exempt) :
    quoteOption params = .error (.refusal (.quoteNotBool given)) := by
  unfold quoteOption
  rw [found]
  cases given with
  | bool exempt => exact absurd (Quotes.bool exempt) (bad exempt)
  | _ => rfl

/-- With the form right, the patterns decide. -/
theorem ofParams_of_hasForm [Stack] {params : Value} {names : List String} {exempt : Bool}
    (form : HasForm params names exempt) :
    ofParams params = (IgnorePattern.ofEntries names).map (⟨·, exempt⟩) := by
  cases form with
  | null => rfl
  | map ignore quote =>
    rw [ofParams, ofEntries, ignoreEntries_of_lists ignore, quoteOption_of_quotes quote]
    show (IgnorePattern.ofEntries names >>= fun ignore =>
      pure (CamelcaseOptions.mk ignore exempt)) = _
    cases IgnorePattern.ofEntries names with
    | ok patterns => rfl
    | error fault => rfl

theorem ofParams_of_formFault [Stack] {params : Value} {reason : ConfigFault}
    (wrong : FormFault params reason) : ofParams params = .error (.refusal reason) := by
  cases wrong with
  | params present plain =>
    cases params with
    | null => exact absurd rfl present
    | map entries => cases plain
    | _ => rfl
  | ignore found bad =>
    rw [ofParams, ofEntries, ignoreEntries_of_bad found bad]
    rfl
  | quote ignore found bad =>
    rw [ofParams, ofEntries, ignoreEntries_of_lists ignore, quoteOption_of_bad found bad]
    rfl

theorem hasForm_or_formFault (params : Value) :
    (∃ names exempt, HasForm params names exempt) ∨ ∃ reason, FormFault params reason := by
  have withNames (entries : Entries) {names : List String}
      (ignore : Lists (entries.get? "ignore") names) :
      (∃ names exempt, HasForm (.map entries) names exempt) ∨
        ∃ reason, FormFault (.map entries) reason := by
    by_cases quoted : ∃ exempt, Quotes (entries.get? "quote") exempt
    · obtain ⟨exempt, quote⟩ := quoted
      exact Or.inl ⟨names, exempt, .map ignore quote⟩
    · cases found : entries.get? "quote" with
      | none => exact absurd ⟨true, found ▸ Quotes.missing⟩ quoted
      | some given =>
        rw [found] at quoted
        exact Or.inr ⟨_, .quote ignore found (not_exists.mp quoted)⟩
  cases mapping : params.entries? with
  | none =>
    by_cases absent : params = .null
    · exact Or.inl ⟨[], true, absent ▸ HasForm.null⟩
    · exact Or.inr ⟨_, .params absent mapping⟩
  | some entries =>
    obtain rfl := Value.entries?_eq_some.mp mapping
    by_cases lists : ∃ names, Lists (entries.get? "ignore") names
    · obtain ⟨names, ignore⟩ := lists
      exact withNames entries ignore
    · cases found : entries.get? "ignore" with
      | none => exact absurd ⟨[], found ▸ Lists.missing⟩ lists
      | some given =>
        rw [found] at lists
        exact Or.inr ⟨_, .ignore found (not_exists.mp lists)⟩

/-- What happens to parameters: they are accepted, they have a wrong form, or one of the names in
them is the first that cannot be used. -/
theorem ofParams_cases [Stack] (params : Value) :
    (∃ names exempt options, HasForm params names exempt ∧
      (∀ name ∈ names, IgnorePattern.IsUsable name) ∧ ofParams params = .ok options) ∨
    (∃ reason, FormFault params reason ∧ ofParams params = .error (.refusal reason)) ∨
    ∃ names exempt entry body cause, HasForm params names exempt ∧
      IgnorePattern.FirstFailure names entry body cause ∧
      ofParams params = .error (IgnorePattern.patternFault entry cause) := by
  rcases hasForm_or_formFault params with ⟨names, exempt, form⟩ | ⟨reason, wrong⟩
  · rcases IgnorePattern.isUsable_or_firstFailure names with
      usable | ⟨entry, body, cause, failure⟩
    · obtain ⟨patterns, compiled⟩ := IgnorePattern.ofEntries_of_isUsable usable
      refine Or.inl ⟨names, exempt, ⟨patterns, exempt⟩, form, usable, ?_⟩
      rw [ofParams_of_hasForm form, compiled]
      rfl
    · refine Or.inr (Or.inr ⟨names, exempt, entry, body, cause, form, failure, ?_⟩)
      rw [ofParams_of_hasForm form, IgnorePattern.ofEntries_of_firstFailure failure]
      rfl
  · exact Or.inr (Or.inl ⟨reason, wrong, ofParams_of_formFault wrong⟩)

theorem ofParams_isOk_iff [Stack] {params : Value} :
    (∃ options, ofParams params = .ok options) ↔
      ∃ names exempt, HasForm params names exempt ∧
        ∀ name ∈ names, IgnorePattern.IsUsable name := by
  constructor
  · rintro ⟨options, accepted⟩
    rcases ofParams_cases params with
      ⟨names, exempt, _, form, usable, _⟩ | ⟨reason, _, refused⟩ | ⟨_, _, _, _, _, _, _, refused⟩
    · exact ⟨names, exempt, form, usable⟩
    · rw [accepted] at refused
      cases refused
    · rw [accepted] at refused
      cases refused
  · rintro ⟨names, exempt, form, usable⟩
    obtain ⟨patterns, compiled⟩ := IgnorePattern.ofEntries_of_isUsable usable
    rw [ofParams_of_hasForm form, compiled]
    exact ⟨⟨patterns, exempt⟩, rfl⟩

theorem ofParams_eq_error_iff [Stack] {params : Value} {fault : Fault} :
    ofParams params = .error fault ↔
      (∃ reason, FormFault params reason ∧ fault = .refusal reason) ∨
      ∃ names exempt entry body cause, HasForm params names exempt ∧
        IgnorePattern.FirstFailure names entry body cause ∧
        fault = IgnorePattern.patternFault entry cause := by
  constructor
  · intro given
    rcases ofParams_cases params with
      ⟨_, _, _, _, _, accepted⟩ | ⟨reason, wrong, refused⟩ |
        ⟨names, exempt, entry, body, cause, form, failure, refused⟩
    · rw [accepted] at given
      cases given
    · rw [refused] at given
      cases given
      exact Or.inl ⟨reason, wrong, rfl⟩
    · rw [refused] at given
      cases given
      exact Or.inr ⟨names, exempt, entry, body, cause, form, failure, rfl⟩
  · rintro (⟨reason, wrong, rfl⟩ | ⟨names, exempt, entry, body, cause, form, failure, rfl⟩)
    · exact ofParams_of_formFault wrong
    · rw [ofParams_of_hasForm form, IgnorePattern.ofEntries_of_firstFailure failure]
      rfl

end CamelcaseOptions

open CamelcaseOptions IgnorePattern in
/-- Parameters are accepted if and only if they have the form asked for and every name in them can
be used. They fail for what is first wrong with their form, or else for the first name that cannot
be used. The failure is a refusal of the configuration where the value to quote has a text and where
the body of the name is rejected, and nowhere else: a body that fails in another way fails with its
own fault. -/
theorem ofParams_checks_iff [Stack] (params : Value) :
    ((∃ options, ofParams params = .ok options) ↔
      ∃ names exempt, HasForm params names exempt ∧ ∀ name ∈ names, IsUsable name) ∧
    (∀ fault, ofParams params = .error fault ↔
      (∃ reason, FormFault params reason ∧ fault = .refusal reason) ∨
      ∃ names exempt entry body cause, HasForm params names exempt ∧
        FirstFailure names entry body cause ∧ fault = patternFault entry cause) ∧
    ((∃ reason, ofParams params = .error (.config reason)) ↔
      (∃ reason, FormFault params reason ∧ reason.obstacle? = none) ∨
      ∃ names exempt entry body complaint position, HasForm params names exempt ∧
        FirstFailure names entry body (.rejected complaint position)) := by
  refine ⟨ofParams_isOk_iff, fun _ => ofParams_eq_error_iff, ?_, ?_⟩
  · rintro ⟨reason, given⟩
    rcases ofParams_eq_error_iff.mp given with
      ⟨other, wrong, same⟩ | ⟨names, exempt, entry, body, cause, form, failure, same⟩
    · exact Or.inl ⟨other, wrong, Fault.refusal_eq_config_iff.mp ⟨reason, same.symm⟩⟩
    · obtain ⟨complaint, position, rfl⟩ := patternFault_eq_config_iff.mp ⟨reason, same.symm⟩
      exact Or.inr ⟨names, exempt, entry, body, complaint, position, form, failure⟩
  · rintro (⟨reason, wrong, worded⟩ |
      ⟨names, exempt, entry, body, complaint, position, form, failure⟩)
    · obtain ⟨other, same⟩ := Fault.refusal_eq_config_iff.mpr worded
      exact ⟨other, ofParams_eq_error_iff.mpr (Or.inl ⟨reason, wrong, same.symm⟩)⟩
    · exact ⟨.badPattern entry complaint position, ofParams_eq_error_iff.mpr
        (Or.inr ⟨names, exempt, entry, body, _, form, failure, rfl⟩)⟩

/-- A body that repeats a character more often than can be counted. -/
def hugeRepeat : String := "x\x7b4294967295\x7d"

def deepGroups : List Char :=
  List.replicate 500 '(' ++ ['a'] ++ List.replicate 500 ')'

theorem bracketDepth_deepGroups : 490 ≤ Stack.bracketDepth deepGroups := by
  decide +kernel

/-- Why a text is no pattern, if it is none. -/
def Pattern.failure? [Stack] (text : String) : Option Pattern.Fault :=
  match compile text with
  | .ok _ => none
  | .error cause => some cause

theorem Pattern.failure?_eq_some_iff [Stack] {text : String} {cause : Pattern.Fault} :
    failure? text = some cause ↔ compile text = .error cause := by
  unfold failure?
  cases compile text with
  | ok compiled => simp
  | error other => simp

open scoped Stack in
open CamelcaseOptions IgnorePattern in
/-- Parameters whose names to ignore are a name, a body that repeats too often and one that is
rejected fail for the second of them, and the configuration is not refused. Without it they are
refused for the third. Groups that are nested too deep are not refused either. -/
theorem ofParams_checks_hugeRepeat :
    let names := ["a", "/" ++ hugeRepeat ++ "/", "/[/"]
    let params (names : List String) : Value :=
      .map [(.text "quote", .bool false), (.text "ignore", .list (names.map .text))]
    FirstFailure names ("/" ++ hugeRepeat ++ "/") hugeRepeat .countTooLarge ∧
    ofParams (params names) = .error .tooLarge ∧
    (¬ ∃ reason, ofParams (params names) = .error (.config reason)) ∧
    ofParams (params ["a", "/[/"]) =
      .error (.config (.badPattern "/[/" .unterminatedSet (some 0))) ∧
    ofParams (params ["a", "/" ++ String.ofList deepGroups ++ "/"]) = .error .stackExhausted := by
  intro names params
  have exhausted : Stack.exhausts (String.ofList deepGroups) = true := by
    refine decide_eq_true ?_
    rw [String.toList_ofList]
    exact bracketDepth_deepGroups
  have unbroken : '\n' ∉ (String.ofList deepGroups).toList := by
    have absent : '\n' ∉ deepGroups := by decide +kernel
    rw [String.toList_ofList]
    exact absent
  generalize String.ofList deepGroups = groups at exhausted unbroken
  have plain : ∀ e ∈ ["a"], IsUsable e := by
    intro e he body between
    obtain rfl := List.mem_singleton.mp he
    cases regexBody?_eq_some_iff.mpr between
  have form (names : List String) : HasForm (params names) names false := by
    have ignore : Entries.get? [(.text "quote", .bool false),
        (.text "ignore", .list (names.map .text))] "ignore" =
          some (.list (names.map .text)) := by simp
    have quote : Entries.get? [(.text "quote", .bool false),
        (.text "ignore", .list (names.map .text))] "quote" = some (.bool false) := by simp
    exact .map (ignore ▸ .list names) (quote ▸ .bool false)
  have failure : FirstFailure names ("/" ++ hugeRepeat ++ "/") hugeRepeat .countTooLarge :=
    ⟨⟨["a"], ["/[/"], rfl, plain⟩, ⟨rfl, by decide +kernel⟩,
      Pattern.failure?_eq_some_iff.mp (by decide +kernel)⟩
  have rejected : FirstFailure ["a", "/[/"] "/[/" "[" (.rejected .unterminatedSet (some 0)) :=
    ⟨⟨["a"], [], rfl, plain⟩, ⟨rfl, by decide +kernel⟩,
      Pattern.failure?_eq_some_iff.mp (by decide +kernel)⟩
  have deep : FirstFailure ["a", "/" ++ groups ++ "/"] ("/" ++ groups ++ "/") groups
      .stackExhausted :=
    ⟨⟨["a"], [], rfl, plain⟩, ⟨rfl, unbroken⟩, Pattern.compile_of_exhausts exhausted⟩
  obtain ⟨_, fails, _⟩ := ofParams_checks_iff (params names)
  have tooLarge : ofParams (params names) = .error .tooLarge :=
    (fails .tooLarge).mpr (Or.inr ⟨_, _, _, _, _, form names, failure, rfl⟩)
  refine ⟨failure, tooLarge, ?_, ?_, ?_⟩
  · rintro ⟨reason, refused⟩
    rw [tooLarge] at refused
    cases refused
  · exact ((ofParams_checks_iff (params ["a", "/[/"])).2.1 _).mpr
      (Or.inr ⟨_, _, _, _, _, form _, rejected, rfl⟩)
  · exact ((ofParams_checks_iff (params ["a", "/" ++ groups ++ "/"])).2.1 _).mpr
      (Or.inr ⟨_, _, _, _, _, form _, deep, rfl⟩)

end NameLint
