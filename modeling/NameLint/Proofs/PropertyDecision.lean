import NameLint.Proofs.QuietRuns
import NameLint.Proofs.Spellings

/-!
# What decides about a property

The tests of a property come one after the other, but for a key whose name is a
text they amount to a short table. A private name is in no admitted spelling, so
only the tag and the names to ignore can exempt it. For any other name the comments
do not count, and it is the spelling, the quotes and the names to ignore that
decide. A dash needs no test of its own.
-/

namespace NameLint

namespace Camelcase

/-- A text is in the wrong spelling if it is in neither of the admitted ones; the test for a dash
changes nothing. -/
theorem isMisspelled_text (name : String) :
    isMisspelled (.plain (.text name)) = .ok (!Name.isCamelOrConst name) := by
  show Except.ok (Name.isDashed name || !Name.isCamelOrConst name) = _
  cases dashed : Name.isDashed name with
  | false => rw [Bool.false_or]
  | true =>
    rw [Name.isCamelOrConst_of_isDashed dashed]
    rfl

theorem isPrivateName_text (name : String) :
    isPrivateName (.plain (.text name)) = .ok (Name.isPrivate name) :=
  rfl

/-- A name that passes the exemptions is judged by its spelling alone. -/
theorem judge_of_passes [Stack] {options : CamelcaseOptions} {n key : Node} {name : String}
    (passes : Passes options n key (.plain (.text name)) (Name.isPrivate name)) :
    judge options n key (.plain (.text name)) =
      .ok (if Name.isCamelOrConst name then none
        else some ⟨n, propertyType, .plain (.text name)⟩) := by
  rw [judge, isPrivateName_text]
  show (if _ then _ else _) = _
  rw [passes.unquoted, if_neg (by decide), passes.unmarked, passes.unignored, isMisspelled_text]
  cases Name.isCamelOrConst name with
  | true => rfl
  | false => rfl

section

variable [Stack] {n key : Node} {name : String} (hkey : n.child? "key" = some key)
  (hname : key.keyName? = .ok (some (.plain (.text name))))

include hkey hname

/-- A property whose key is named by a text is reported if and only if the name passes the
exemptions and is in neither of the admitted spellings. -/
theorem checkProperty_text_iff (options : CamelcaseOptions) (f : Finding) :
    checkProperty n options = .ok (some f) ↔
      Passes options n key (.plain (.text name)) (Name.isPrivate name) ∧
        Name.isCamelOrConst name = false ∧ f = ⟨n, propertyType, .plain (.text name)⟩ := by
  rw [checkProperty_eq_some_iff]
  constructor
  · rintro ⟨key', name', isPrivate, hkey', hname', hprivate, passes, spelled, rfl⟩
    obtain rfl := Option.some.inj (hkey.symm.trans hkey')
    obtain rfl := Option.some.inj (Except.ok.inj (hname.symm.trans hname'))
    obtain rfl := Except.ok.inj ((isPrivateName_text name).symm.trans hprivate)
    have spelled := Except.ok.inj ((isMisspelled_text name).symm.trans spelled)
    exact ⟨passes, by simpa using spelled, rfl⟩
  · rintro ⟨passes, spelled, rfl⟩
    refine ⟨key, .plain (.text name), Name.isPrivate name, hkey, hname, rfl, passes, ?_, rfl⟩
    rw [isMisspelled_text, spelled]
    rfl

/-- A private name is reported unless it is tagged or to be ignored. -/
theorem checkProperty_private_iff (hprivate : Name.isPrivate name = true)
    (options : CamelcaseOptions) (f : Finding) :
    checkProperty n options = .ok (some f) ↔
      (n.hasPrivateTag = .ok false ∧
        ∀ p ∈ options.ignore, p.holds (.plain (.text name)) = .ok false) ∧
      f = ⟨n, propertyType, .plain (.text name)⟩ := by
  rw [checkProperty_text_iff hkey hname, Name.isCamelOrConst_of_isPrivate hprivate, hprivate]
  constructor
  · rintro ⟨passes, _, rfl⟩
    exact ⟨⟨passes.unmarked, IgnorePattern.anyHolds_eq_false.mp passes.unignored⟩, rfl⟩
  · rintro ⟨⟨untagged, unignored⟩, rfl⟩
    refine ⟨⟨?_, untagged, IgnorePattern.anyHolds_eq_false.mpr unignored⟩, rfl, rfl⟩
    rw [Bool.not_true, Bool.and_false]

/-- Any other name is reported unless its key is quoted and that exempts it, or it is to be ignored,
or it is in an admitted spelling. -/
theorem checkProperty_public_iff (hpublic : Name.isPrivate name = false)
    (options : CamelcaseOptions) (f : Finding) :
    checkProperty n options = .ok (some f) ↔
      (¬ (options.exemptQuoted = true ∧ key.type = "Literal") ∧
        (∀ p ∈ options.ignore, p.holds (.plain (.text name)) = .ok false) ∧
        ¬ Name.IsCamelCase name.toList ∧ ¬ Name.IsConstant name.toList) ∧
      f = ⟨n, propertyType, .plain (.text name)⟩ := by
  have quoted : (options.exemptQuoted && key.isType "Literal" && !false) = false ↔
      ¬ (options.exemptQuoted = true ∧ key.type = "Literal") := by
    simp [Node.isType]
  rw [checkProperty_text_iff hkey hname, hpublic, ← Bool.not_eq_true, Name.isCamelOrConst_iff,
    not_or]
  constructor
  · rintro ⟨passes, spelled, rfl⟩
    exact ⟨⟨quoted.mp passes.unquoted, IgnorePattern.anyHolds_eq_false.mp passes.unignored,
      spelled⟩, rfl⟩
  · rintro ⟨⟨unquoted, unignored, spelled⟩, rfl⟩
    exact ⟨⟨quoted.mpr unquoted, rfl, IgnorePattern.anyHolds_eq_false.mpr unignored⟩, spelled, rfl⟩

/-- The comments in front of a property count only where its key is private. -/
theorem checkProperty_of_other_comments (hpublic : Name.isPrivate name = false)
    (options : CamelcaseOptions) (comments : List Comment) :
    checkProperty { n with comments := comments } options =
      (checkProperty n options).map
        (Option.map fun f => { f with node := { n with comments := comments } }) := by
  have hkey' : ({ n with comments := comments } : Node).child? "key" = some key := hkey
  rw [checkProperty_eq_judge hkey hname, checkProperty_eq_judge hkey' hname, judge, judge,
    isPrivateName_text, hpublic]
  show (if _ then _ else _) = Except.map _ (if _ then _ else _)
  split
  · rfl
  · show (IgnorePattern.anyHolds _ _ >>= fun _ => _) =
      Except.map _ (IgnorePattern.anyHolds _ _ >>= fun _ => _)
    cases IgnorePattern.anyHolds (.plain (.text name)) options.ignore with
    | error fault => rfl
    | ok ignored =>
      cases ignored with
      | true => rfl
      | false =>
        rw [isMisspelled_text]
        cases Name.isCamelOrConst name <;> rfl

/-- Where the comments can be read, the check gives a result unless a search breaks off. -/
theorem checkProperty_answers (options : CamelcaseOptions)
    (whole : ∀ l, n.loc = some l → l.startLine.isInt = true)
    (legible : ∀ c ∈ n.comments, c.IsLegible)
    (searched : ¬ IgnorePattern.Crosses options.ignore name) :
    ∃ result, checkProperty n options = .ok result := by
  cases checked : checkProperty n options with
  | ok result => exact ⟨result, rfl⟩
  | error fault =>
    rw [checkProperty_eq_judge hkey hname] at checked
    have broken := judge_fault (Node.hasPrivateTag_of_isLegible whole legible) checked
    exact absurd (IgnorePattern.anyHolds_fault broken).2 searched

end

/-- What is decided about a property whose key is named by a text. A private name is reported if and
only if no tag marks it and no pattern holds for it, whatever the options say about quotes, the type
of the key and the rest of the name. Any other name is reported if and only if it is not exempt as a
quoted one, no pattern holds for it and it is in neither of the admitted spellings, and the comments
in front of the property do not count. In both cases the test for a dash makes no difference, the
finding has the name as it is, and where lines are whole and comments are texts, there is a result
unless a search breaks off. -/
theorem checkProperty_decides [Stack] (n key : Node) (name : String) (options : CamelcaseOptions)
    (hkey : n.child? "key" = some key) (hname : key.keyName? = .ok (some (.plain (.text name)))) :
    (name.toList.head? = some '_' →
      (checkProperty n options = .ok (some ⟨n, propertyType, .plain (.text name)⟩) ↔
        n.hasPrivateTag = .ok false ∧
          ∀ p ∈ options.ignore, p.holds (.plain (.text name)) = .ok false)) ∧
    (name.toList.head? ≠ some '_' →
      (checkProperty n options = .ok (some ⟨n, propertyType, .plain (.text name)⟩) ↔
        ¬ (options.exemptQuoted = true ∧ key.type = "Literal") ∧
          (∀ p ∈ options.ignore, p.holds (.plain (.text name)) = .ok false) ∧
          ¬ Name.IsCamelCase name.toList ∧ ¬ Name.IsConstant name.toList) ∧
      ∀ comments, checkProperty { n with comments := comments } options =
        (checkProperty n options).map
          (Option.map fun f => { f with node := { n with comments := comments } })) ∧
    isMisspelled (.plain (.text name)) = .ok (!Name.isCamelOrConst name) ∧
    (∀ f, checkProperty n options = .ok (some f) → f = ⟨n, propertyType, .plain (.text name)⟩) ∧
    ((∀ l, n.loc = some l → l.startLine.isInt = true) → (∀ c ∈ n.comments, c.IsLegible) →
      ¬ IgnorePattern.Crosses options.ignore name →
      ∃ result, checkProperty n options = .ok result) := by
  refine ⟨?_, ?_, isMisspelled_text name, ?_, checkProperty_answers hkey hname options⟩
  · intro begins
    have hprivate : Name.isPrivate name = true := beq_iff_eq.mpr begins
    rw [checkProperty_private_iff hkey hname hprivate, and_iff_left rfl]
  · intro begins
    have hpublic : Name.isPrivate name = false := beq_eq_false_iff_ne.mpr begins
    refine ⟨?_, checkProperty_of_other_comments hkey hname hpublic options⟩
    rw [checkProperty_public_iff hkey hname hpublic, and_iff_left rfl]
  · intro f found
    exact ((checkProperty_text_iff hkey hname options f).mp found).2.2

def quotedPrivateKey : Node :=
  ⟨1, "Literal", [("value", .plain (.text "_ID"))], none, []⟩

/-- A comment whose tag goes on as another word. -/
def otherTag : Comment :=
  ⟨.text "Block", .text "* @privately used", some ⟨.int 3, .int 2, .int 3, .int 21⟩⟩

def untaggedProperty : Node :=
  ⟨0, "Property", [("key", .ofNode quotedPrivateKey)], some ⟨.int 4, .int 2, .int 4, .int 9⟩,
    [otherTag]⟩

theorem hasPrivateTag_untaggedProperty : untaggedProperty.hasPrivateTag = .ok false := by
  have block : (Value.text "Block").same (.text "Block") = true := by
    simp [Value.same, Value.sameScalar]
  have tag : Comment.hasTag "* @privately used".toList = false := by decide +kernel
  have marks : otherTag.marksPrivate (.int 4) = .ok false := by
    rw [Comment.marksPrivate]
    show (if !(Value.text "Block").same (.text "Block") then _ else _) = _
    rw [block]
    show Except.ok (Comment.hasTag "* @privately used".toList) = _
    rw [tag]
  show Comment.anyMarksPrivate (.int 4) [otherTag] = _
  rw [Comment.anyMarksPrivate, marks]
  rfl

open scoped Stack in
/-- The key is reported although it is quoted. -/
theorem checkProperty_decides_untagged :
    untaggedProperty.child? "key" = some quotedPrivateKey ∧
    quotedPrivateKey.keyName? = .ok (some (.plain (.text "_ID"))) ∧
    untaggedProperty.hasPrivateTag = .ok false ∧
    checkProperty untaggedProperty { ignore := [.literal "ID"] } =
      .ok (some ⟨untaggedProperty, propertyType, .plain (.text "_ID")⟩) := by
  have hkey : untaggedProperty.child? "key" = some quotedPrivateKey := rfl
  have hname : quotedPrivateKey.keyName? = .ok (some (.plain (.text "_ID"))) := rfl
  have unignored : ∀ p ∈ [IgnorePattern.literal "ID"],
      p.holds (.plain (.text "_ID")) = .ok false := by
    intro p hp
    rw [List.mem_singleton.mp hp]
    rfl
  obtain ⟨decided, _⟩ := checkProperty_decides untaggedProperty quotedPrivateKey "_ID"
    { ignore := [.literal "ID"] } hkey hname
  exact ⟨hkey, hname, hasPrivateTag_untaggedProperty,
    (decided rfl).mpr ⟨hasPrivateTag_untaggedProperty, unignored⟩⟩

end Camelcase

end NameLint
