import Mathlib.Data.List.Nodup
import Std.Data.String.ToInt
import NameLint.Proofs.TreeFindings

/-!
# What identifiers of violations tell apart

The identifier of a violation is a digest of the file, the rule, the sub type and
the place. The text that goes into the digest can be read back from its end, even
where the name of the file has colons in it. So within a run it tells violations
apart as far as their sub types and places do. Reports are told apart by nodes
instead, and two nodes can begin at one place.
-/

namespace NameLint

/-- The last colon of a text separates what is before it from what is behind it. -/
theorem append_colon_inj {a a' b b' : String} (hb : ':' ∉ b.toList) (hb' : ':' ∉ b'.toList)
    (h : a ++ ":" ++ b = a' ++ ":" ++ b') : a = a' ∧ b = b' := by
  have chars : a.toList ++ ':' :: b.toList = a'.toList ++ ':' :: b'.toList := by
    have lists := congrArg String.toList h
    simpa using lists
  rcases List.append_eq_append_iff.mp chars with ⟨between, first, second⟩ | ⟨between, first, second⟩
  · cases between with
    | nil =>
      refine ⟨?_, ?_⟩
      · exact String.toList_inj.mp (first.trans (List.append_nil _)).symm
      · exact String.toList_inj.mp (List.cons.inj second).2
    | cons c between =>
      have colon : ':' ∈ b.toList := by
        rw [(List.cons.inj second).2]
        exact List.mem_append_right _ List.mem_cons_self
      exact absurd colon hb
  · cases between with
    | nil =>
      refine ⟨?_, ?_⟩
      · exact String.toList_inj.mp (first.trans (List.append_nil _))
      · exact (String.toList_inj.mp (List.cons.inj second).2).symm
    | cons c between =>
      have colon : ':' ∈ b'.toList := by
        rw [(List.cons.inj second).2]
        exact List.mem_append_right _ List.mem_cons_self
      exact absurd colon hb'

theorem colon_not_mem_shown_int (n : Int) : ':' ∉ (Value.shown (.int n)).toList := by
  have digits : ∀ m : Nat, ':' ∉ m.repr.toList := by
    intro m member
    rw [Nat.toList_repr] at member
    have digit := Nat.isDigit_of_mem_toDigits (by decide) (by decide) member
    revert digit
    decide
  show ':' ∉ (toString n).toList
  rw [Int.toString_eq_repr, Int.repr_eq_if]
  split
  · exact digits _
  · intro member
    rw [String.toList_append, List.mem_append] at member
    rcases member with sign | digit
    · revert sign
      decide
    · exact digits _ digit

theorem shown_int_inj {m n : Int} (h : Value.shown (.int m) = Value.shown (.int n)) : m = n := by
  have same : toString m = toString n := h
  rw [Int.toString_eq_repr, Int.toString_eq_repr] at same
  exact Int.repr_inj.mp same

/-- The parts of a digested text can be read back from its end, if those behind the file hold no
colon: the column, the line, the sub type and the rule, and what is left is the file. -/
theorem joined_parts_inj {file file' rule rule' subType subType' : String}
    {line line' column column' : Int} (hrule : ':' ∉ rule.toList) (hrule' : ':' ∉ rule'.toList)
    (hsub : ':' ∉ subType.toList) (hsub' : ':' ∉ subType'.toList)
    (h : file ++ ":" ++ rule ++ ":" ++ subType ++ ":" ++ Value.shown (.int line) ++ ":" ++
        Value.shown (.int column) =
      file' ++ ":" ++ rule' ++ ":" ++ subType' ++ ":" ++ Value.shown (.int line') ++ ":" ++
        Value.shown (.int column')) :
    file = file' ∧ rule = rule' ∧ subType = subType' ∧ line = line' ∧ column = column' := by
  obtain ⟨h, columns⟩ := append_colon_inj (colon_not_mem_shown_int _) (colon_not_mem_shown_int _) h
  obtain ⟨h, lines⟩ := append_colon_inj (colon_not_mem_shown_int _) (colon_not_mem_shown_int _) h
  obtain ⟨h, subTypes⟩ := append_colon_inj hsub hsub' h
  obtain ⟨files, rules⟩ := append_colon_inj hrule hrule' h
  exact ⟨files, rules, subTypes, shown_int_inj lines, shown_int_inj columns⟩

namespace Violation

/-- Whether the parts that are digested are of the usual kinds: the file is any text, the rule and
the sub type, if there is one, are texts without a colon, and line and column are whole. -/
structure IsPlain (v : Violation) : Prop where
  file : ∃ file, v.filePath = .text file
  rule : ∃ rule, v.ruleId = .text rule ∧ ':' ∉ rule.toList
  subType : v.subType = .null ∨ ∃ id, v.subType = .text id ∧ ':' ∉ id.toList
  placed : v.IsPlaced

/-- A missing and an empty sub type count as the default one, so there always is one to digest. -/
theorem IsPlain.effectiveSubType {v : Violation} (plain : v.IsPlain) :
    ∃ id, v.effectiveSubType = .text id ∧ ':' ∉ id.toList := by
  have standard : ':' ∉ "default".toList := by decide
  rw [Violation.effectiveSubType]
  split
  · rename_i counts
    rcases plain.subType with missing | given
    · rw [missing] at counts
      cases counts
    · exact given
  · exact ⟨"default", rfl, standard⟩

/-- The digested text of a violation whose parts are of the usual kinds. -/
theorem IsPlain.digestInput_eq {v : Violation} (plain : v.IsPlain) :
    ∃ (file rule id : String) (line column : Int), v.filePath = .text file ∧
      v.ruleId = .text rule ∧ ':' ∉ rule.toList ∧ v.effectiveSubType = .text id ∧
      ':' ∉ id.toList ∧ v.line = .int line ∧ v.column = .int column ∧
      v.digestInput = file ++ ":" ++ rule ++ ":" ++ id ++ ":" ++ Value.shown (.int line) ++ ":" ++
        Value.shown (.int column) := by
  obtain ⟨file, hfile⟩ := plain.file
  obtain ⟨rule, hrule, spelled⟩ := plain.rule
  obtain ⟨id, hid, spelled'⟩ := plain.effectiveSubType
  obtain ⟨line, column, hline, hcolumn⟩ := plain.placed
  refine ⟨file, rule, id, line, column, hfile, hrule, spelled, hid, spelled', hline, hcolumn, ?_⟩
  rw [digestInput, hfile, hrule, hid, hline, hcolumn]
  rfl

end Violation

/-- The digested texts of two violations are the same if and only if their files, rules, sub types,
lines and columns are, however many colons the files have in them. -/
theorem digestInput_tells_parts (v w : Violation) (hv : v.IsPlain) (hw : w.IsPlain) :
    v.digestInput = w.digestInput ↔
      v.filePath = w.filePath ∧ v.ruleId = w.ruleId ∧
        v.effectiveSubType = w.effectiveSubType ∧ v.line = w.line ∧ v.column = w.column := by
  constructor
  · intro same
    obtain ⟨file, rule, id, line, column, hfile, hrule, spelled, hid, spelled', hline, hcolumn,
      text⟩ := hv.digestInput_eq
    obtain ⟨file', rule', id', line', column', hfile', hrule', spelledw, hid', spelledw', hline',
      hcolumn', text'⟩ := hw.digestInput_eq
    rw [text, text'] at same
    obtain ⟨rfl, rfl, rfl, rfl, rfl⟩ := joined_parts_inj spelled spelledw spelled' spelledw' same
    rw [hfile, hfile', hrule, hrule', hid, hid', hline, hline', hcolumn, hcolumn']
    exact ⟨rfl, rfl, rfl, rfl, rfl⟩
  · rintro ⟨file, rule, subType, line, column⟩
    rw [Violation.digestInput, Violation.digestInput, file, rule, subType, line, column]

/-- A violation in a file whose name ends like the text that is digested. -/
def colonedViolation (file : String) (subType : Value) (line : Int) : Violation :=
  { filePath := .text file
    line := .int line
    column := .int 5
    severity := .known .warning
    message := .text ""
    ruleId := .text "camelcase"
    subType := subType }

theorem colonedViolation_isPlain (file : String) {subType : Value} (line : Int)
    (plain : subType = .null ∨ ∃ id, subType = .text id ∧ ':' ∉ id.toList) :
    (colonedViolation file subType line).IsPlain :=
  ⟨⟨file, rfl⟩, ⟨"camelcase", rfl, by decide⟩, plain, ⟨line, 5, rfl, rfl⟩⟩

/-- A file named after a digested text is not taken for the file in it, and a missing sub type is
the same as an empty one. -/
theorem digestInput_tells_coloned :
    let near := colonedViolation "C:a.js" .null (-1)
    let far := colonedViolation "C:a.js:camelcase:default:-1:5" (.text "baidu025") (-1)
    let empty := colonedViolation "C:a.js" (.text "") (-1)
    near.IsPlain ∧ far.IsPlain ∧ empty.IsPlain ∧
      near.digestInput ≠ far.digestInput ∧ near.digestInput = empty.digestInput := by
  intro near far empty
  have hnear : near.IsPlain := colonedViolation_isPlain _ _ (Or.inl rfl)
  have hfar : far.IsPlain := colonedViolation_isPlain _ _ (Or.inr ⟨_, rfl, by decide⟩)
  have hempty : empty.IsPlain := colonedViolation_isPlain _ _ (Or.inr ⟨_, rfl, by decide⟩)
  refine ⟨hnear, hfar, hempty, ?_, ?_⟩
  · intro same
    have files := ((digestInput_tells_parts near far hnear hfar).mp same).1
    exact absurd (Value.text.inj files) (by decide)
  · exact (digestInput_tells_parts near empty hnear hempty).mpr ⟨rfl, rfl, rfl, rfl, rfl⟩

namespace Camelcase

/-- The text that is digested for a finding. -/
theorem Finding.digestInput_violation {f : Finding} (file : String) (severity : Severity)
    (known : f.subType = identifierType ∨ f.subType = propertyType) :
    (f.violation file severity).digestInput =
      file ++ ":" ++ identifier ++ ":" ++ f.subType.id ++ ":" ++
        Value.shown (.int f.node.place.1) ++ ":" ++ Value.shown (.int f.node.place.2) := by
  have spelled : (Value.text f.subType.id).truthy = true := by
    rcases known with known | known <;> rw [known] <;> decide
  have named : (f.violation file severity).effectiveSubType = .text f.subType.id := if_pos spelled
  rw [Violation.digestInput, named]
  rfl

/-- In one file, the text that is digested tells sub types and places apart, and nothing else. -/
theorem Finding.digestInput_eq_iff {f g : Finding} (file : String) (severity : Severity)
    (hf : f.subType = identifierType ∨ f.subType = propertyType)
    (hg : g.subType = identifierType ∨ g.subType = propertyType) :
    (f.violation file severity).digestInput = (g.violation file severity).digestInput ↔
      f.subType = g.subType ∧ f.node.place = g.node.place := by
  rw [digestInput_violation file severity hf, digestInput_violation file severity hg]
  constructor
  · intro same
    obtain ⟨same, column⟩ :=
      append_colon_inj (colon_not_mem_shown_int _) (colon_not_mem_shown_int _) same
    obtain ⟨same, line⟩ :=
      append_colon_inj (colon_not_mem_shown_int _) (colon_not_mem_shown_int _) same
    have ids : f.subType.id = g.subType.id := (String.append_right_inj _).mp same
    refine ⟨?_, Prod.ext (shown_int_inj line) (shown_int_inj column)⟩
    rcases hf with hf | hf <;> rcases hg with hg | hg <;> rw [hf, hg] at ids ⊢
    · exact absurd ids (by decide)
    · exact absurd ids (by decide)
  · rintro ⟨subType, place⟩
    rw [subType, place]

/-- What is found on a visit, if its message can be made. -/
def reportedOn? [Stack] (options : CamelcaseOptions) (v : Visit) : Option Finding :=
  (findingOn options v).filter Finding.isTold

theorem reportedOn?_eq_some_iff [Stack] {options : CamelcaseOptions} {v : Visit} {f : Finding} :
    reportedOn? options v = some f ↔ findingOn options v = some f ∧ f.isTold = true :=
  Option.filter_eq_some_iff

/-- Whether the nodes of one type that are reported begin at different places. -/
def PlacesTell [Stack] (options : CamelcaseOptions) (root : Node) : Prop :=
  ∀ v ∈ root.preorder, ∀ w ∈ root.preorder, (reportedOn? options v).isSome = true →
    (reportedOn? options w).isSome = true → v.node.type = w.node.type →
    v.node.place = w.node.place → v.node.id = w.node.id

/-- Findings are of one sub type if and only if their nodes are of one type. -/
theorem subType_eq_iff [Stack] {options : CamelcaseOptions} {v w : Visit} {f g : Finding}
    (hf : findingOn options v = some f) (hg : findingOn options w = some g) :
    f.subType = g.subType ↔ v.node.type = w.node.type := by
  have types : ¬ "Identifier" = "Property" := by decide
  have subTypes : ¬ identifierType = propertyType := by decide
  rcases (findingOn_tells hf).2 with ⟨type, subType, _⟩ | ⟨type, subType, _⟩ <;>
    rcases (findingOn_tells hg).2 with ⟨type', subType', _⟩ | ⟨type', subType', _⟩ <;>
    rw [type, subType, type', subType']
  · exact iff_of_true rfl rfl
  · exact iff_of_false subTypes types
  · exact iff_of_false (Ne.symm subTypes) (Ne.symm types)
  · exact iff_of_true rfl rfl

/-- What is found on a visit is kept. -/
theorem mem_firstFindings [Stack] {options : CamelcaseOptions} {root : Node}
    (numbers : root.NumbersTell) {v : Visit} (hv : v ∈ root.preorder) {f : Finding}
    (hf : findingOn options v = some f) :
    f ∈ firstFindings options root.preorder := by
  have kept := firstFindings_keepsFirst options root.preorder
  obtain ⟨g, hg, same⟩ := List.mem_map.mp ((kept.complete f.key).mpr ⟨v, hv, f, hf, rfl⟩)
  obtain ⟨w, at?, gave⟩ := kept.first g hg
  obtain rfl := finding_eq_of_key numbers (List.mem_of_getElem? at?) hv gave hf same
  exact hg

/-- The digested texts of a run differ if and only if no two nodes of one type that it reports
begin at one place. -/
theorem nodup_digestInput_iff [Stack] {options : CamelcaseOptions} {root : Node}
    (numbers : root.NumbersTell) (file : String) (severity : Severity) :
    (((sortedFindings file severity options root).filter Finding.isTold).map fun f =>
        (f.violation file severity).digestInput).Nodup ↔ PlacesTell options root := by
  have kept := firstFindings_keepsFirst options root.preorder
  have perm := (List.mergeSort_perm (firstFindings options root.preorder)
    (Finding.inOrder file severity)).filter Finding.isTold
  rw [sortedFindings, (perm.map _).nodup_iff]
  constructor
  · intro distinct v hv w hw reported reported' type place
    obtain ⟨f, hf⟩ := Option.isSome_iff_exists.mp reported
    obtain ⟨g, hg⟩ := Option.isSome_iff_exists.mp reported'
    obtain ⟨hf, told⟩ := reportedOn?_eq_some_iff.mp hf
    obtain ⟨hg, told'⟩ := reportedOn?_eq_some_iff.mp hg
    have node := (findingOn_tells hf).1
    have node' := (findingOn_tells hg).1
    have same : f = g := by
      apply List.inj_on_of_nodup_map distinct
        (List.mem_filter.mpr ⟨mem_firstFindings numbers hv hf, told⟩)
        (List.mem_filter.mpr ⟨mem_firstFindings numbers hw hg, told'⟩)
      rw [Finding.digestInput_eq_iff file severity (findingOn_subType hf) (findingOn_subType hg),
        subType_eq_iff hf hg, node, node']
      exact ⟨type, place⟩
    rw [← node, ← node', same]
  · intro tell
    refine List.Nodup.map_on ?_ ((List.Nodup.of_map _ kept.keys_nodup).filter _)
    intro f hf g hg same
    obtain ⟨hf, told⟩ := List.mem_filter.mp hf
    obtain ⟨hg, told'⟩ := List.mem_filter.mp hg
    obtain ⟨v, at?, gave⟩ := kept.first f hf
    obtain ⟨w, at?', gave'⟩ := kept.first g hg
    have hv := List.mem_of_getElem? at?
    have hw := List.mem_of_getElem? at?'
    rw [Finding.digestInput_eq_iff file severity (findingOn_subType gave) (findingOn_subType gave')]
      at same
    obtain ⟨subType, place⟩ := same
    have id : f.node.id = g.node.id := by
      rw [(findingOn_tells gave).1, (findingOn_tells gave').1] at place ⊢
      exact tell v hv w hw
        (Option.isSome_iff_exists.mpr ⟨f, reportedOn?_eq_some_iff.mpr ⟨gave, told⟩⟩)
        (Option.isSome_iff_exists.mpr ⟨g, reportedOn?_eq_some_iff.mpr ⟨gave', told'⟩⟩)
        ((subType_eq_iff gave gave').mp subType) place
    apply finding_eq_of_key numbers hv hw gave gave'
    exact Prod.ext id (congrArg SubType.id subType)

end Camelcase

open Camelcase in
/-- Within the result of a run the digested texts of violations are distinct if and only if no two
nodes of one type that are reported begin at one place. There is a result unless the severity keeps
the rule from being loaded. -/
theorem violation_ids_distinct_iff [Stack] (input : NumberedInput) (config : LintConfig)
    (file : String) (root : Node) (settings : RuleSettings) (options : CamelcaseOptions)
    (converted : input.tree.root = .ok root)
    (chosen : (config.find? Camelcase.identifier).getD {} = settings)
    (accepted : settings.enabled.truthy = true →
      CamelcaseOptions.ofParams settings.params = .ok options)
    (placed : ∀ v ∈ root.preorder, v.node.HasPlace) :
    (∀ fault, severityFault? settings = some fault →
      (lintWith input.tree config file).2 = .error fault) ∧
    (severityFault? settings = none → ∃ vs, (lintWith input.tree config file).2 = .ok vs ∧
      ((vs.map Violation.digestInput).Nodup ↔
        (settings.enabled.truthy = true → PlacesTell options root))) := by
  rw [lintWith, chosen]
  cases enabled : settings.enabled.truthy with
  | false =>
    have free := severityFault?_of_disabled enabled
    refine ⟨fun fault keeps => ?_, fun _ => ⟨[], lint_of_disabled file converted enabled, ?_⟩⟩
    · rw [free] at keeps
      cases keeps
    · simp
  | true =>
    have reported : ∀ v ∈ root.preorder, ∀ f, findingOn options v = some f → f.node.HasPlace :=
      fun v hv f hf => hasPlace_of_findingOn hf (placed v hv)
    have result := lint_of_placed settings file converted enabled (accepted enabled) reported
    dsimp only at result
    refine ⟨fun fault keeps => by rw [result, keeps]; rfl, fun free => ?_⟩
    rw [free] at result
    refine ⟨_, result, ?_⟩
    rw [List.map_map]
    exact (nodup_digestInput_iff (input.root_numbersTell converted) file _).trans
      (by simp)

def importedName : Node :=
  ⟨1, "Identifier", [("name", .plain (.text "foo_bar"))],
    some ⟨.int 1, .int 9, .int 1, .int 16⟩, []⟩

/-- The name that it has where it is imported, spelled once for both. -/
def localName : Node :=
  { importedName with id := 2 }

/-- An import of a name under the same name. -/
def plainImport : Node :=
  ⟨0, "ImportSpecifier", [("imported", .ofNode importedName), ("local", .ofNode localName)],
    some ⟨.int 1, .int 9, .int 1, .int 16⟩, []⟩

theorem preorder_plainImport :
    plainImport.preorder =
      [⟨plainImport, []⟩, ⟨importedName, [plainImport]⟩, ⟨localName, [plainImport]⟩] := by
  rw [← Node.walk_eq_preorder]
  simp [plainImport, Node.walk, Visit.walk, Visit.children, Visit.visitsTo, Node.children,
    Node.childrenIn, importedName, localName, Item.ofNode]

theorem plainImport_numbersTell : plainImport.NumbersTell := by
  rw [Node.NumbersTell, preorder_plainImport]
  intro v hv w hw same
  simp only [List.mem_cons, List.not_mem_nil, or_false] at hv hw
  rcases hv with rfl | rfl | rfl <;> rcases hw with rfl | rfl | rfl <;> first | rfl | cases same

theorem plainImport_placed : ∀ v ∈ plainImport.preorder, v.node.HasPlace := by
  rw [preorder_plainImport]
  intro v hv loc hloc
  simp only [List.mem_cons, List.not_mem_nil, or_false] at hv
  rcases hv with rfl | rfl | rfl <;> cases hloc <;> exact ⟨1, 9, rfl, rfl⟩

open Camelcase in
theorem plainImport_not_placesTell [Stack] : ¬ PlacesTell {} plainImport := by
  intro tell
  have checked : (Name.isUnderscored (Name.stripUnderscores "foo_bar") &&
      isChecked "foo_bar" [plainImport]) = true := by decide +kernel
  have first : findingOn {} ⟨importedName, [plainImport]⟩ =
      some ⟨importedName, identifierType, importedName.name⟩ := if_pos (e := none) checked
  have second : findingOn {} ⟨localName, [plainImport]⟩ =
      some ⟨localName, identifierType, localName.name⟩ := if_pos (e := none) checked
  have same := tell ⟨importedName, [plainImport]⟩ (by simp [preorder_plainImport])
    ⟨localName, [plainImport]⟩ (by simp [preorder_plainImport])
    (by rw [reportedOn?, first]; rfl) (by rw [reportedOn?, second]; rfl) rfl rfl
  cases same

open scoped Stack in
/-- Both names are reported, with one identifier. -/
theorem violation_ids_of_plainImport :
    (∀ v ∈ plainImport.preorder, v.node.HasPlace) ∧
    ∃ vs, (lintWith (.node plainImport) [] "a.js").2 = .ok vs ∧
      ¬ (vs.map Violation.digestInput).Nodup := by
  have free : Camelcase.severityFault? {} = none := Camelcase.severityFault?_of_null rfl (by decide)
  obtain ⟨vs, result, distinct⟩ := (violation_ids_distinct_iff
    ⟨.node plainImport, plainImport_numbersTell⟩ [] "a.js" plainImport {} {}
      rfl rfl (fun _ => rfl) plainImport_placed).2 free
  refine ⟨plainImport_placed, vs, result, ?_⟩
  intro nodup
  exact plainImport_not_placesTell (distinct.mp nodup rfl)

end NameLint
