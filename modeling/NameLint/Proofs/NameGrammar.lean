import NameLint.Proofs.Spellings

/-!
# Names cut at their underscores

The two admitted spellings, told from the characters alone. A name in camel case is
made of letters, digits and dollar signs of ASCII and does not begin with a digit. A
constant is cut at every underscore into parts, none of them empty, of capitals and
digits; dollar signs may stand in the first part only. An underscore at an edge or next
to another one would leave an empty part.
-/

namespace NameLint

namespace Name

/-- Letters, digits and dollar signs of ASCII, at least one of them, and no digit in front. -/
def IsOneWord (cs : List Char) : Prop :=
  cs ≠ [] ∧ (∀ c ∈ cs, c.isAlphanum = true ∨ c = '$') ∧ ∀ c ∈ cs.head?, c.isDigit = false

/-- The underscores cut the characters into parts, none of them empty: a first one of capitals,
digits and dollar signs, and further ones of capitals and digits. -/
def IsCutIntoParts (cs : List Char) : Prop :=
  ∃ first others, cs.splitOn '_' = first :: others ∧
    (first ≠ [] ∧ ∀ c ∈ first, c.isUpper = true ∨ c.isDigit = true ∨ c = '$') ∧
    ∀ part ∈ others, part ≠ [] ∧ ∀ c ∈ part, c.isUpper = true ∨ c.isDigit = true

theorem isUpper_eq (c : Char) : c.isUpper = isCapital c :=
  Bool.decide_and ('A' ≤ c) (c ≤ 'Z')

/-- The letters of ASCII are the capitals and the small letters. -/
theorem isAlpha_eq (c : Char) : c.isAlpha = (isCapital c || ('a' ≤ c && c ≤ 'z')) := by
  rw [← isUpper_eq]
  rfl

theorem isCamelStart_iff {c : Char} : isCamelStart c = true ↔ c.isAlpha = true ∨ c = '$' := by
  simp only [isCamelStart, isAlpha_eq, Bool.or_eq_true, beq_iff_eq]
  grind

theorem isCamelPart_iff {c : Char} : isCamelPart c = true ↔ c.isAlphanum = true ∨ c = '$' := by
  simp only [isCamelPart, Bool.or_eq_true, isCamelStart_iff, Char.isAlphanum]
  grind

theorem isConstPart_iff {c : Char} :
    isConstPart c = true ↔ c.isUpper = true ∨ c.isDigit = true := by
  simp only [isConstPart, Bool.or_eq_true, isUpper_eq]

theorem isConstStart_iff {c : Char} :
    isConstStart c = true ↔ c.isUpper = true ∨ c.isDigit = true ∨ c = '$' := by
  simp only [isConstStart, Bool.or_eq_true, isConstPart_iff, beq_iff_eq, or_assoc]

theorem toNat_of_isAlpha {c : Char} (h : c.isAlpha = true) :
    65 ≤ c.toNat ∧ c.toNat ≤ 90 ∨ 97 ≤ c.toNat ∧ c.toNat ≤ 122 := by
  rw [isAlpha_eq, Bool.or_eq_true, Bool.and_eq_true, decide_eq_true_eq, decide_eq_true_eq] at h
  exact h.imp_left toNat_of_isCapital

/-- A first character is any that may follow, less the digits. -/
theorem isCamelStart_iff_isCamelPart {c : Char} :
    isCamelStart c = true ↔ isCamelPart c = true ∧ c.isDigit = false := by
  constructor
  · intro start
    refine ⟨by rw [isCamelPart, start, Bool.true_or], ?_⟩
    rw [← Bool.not_eq_true]
    intro digit
    have bounds := toNat_of_isDigit digit
    rcases isCamelStart_iff.mp start with alpha | rfl
    · have := toNat_of_isAlpha alpha
      omega
    · exact absurd digit (by decide)
  · rintro ⟨part, digit⟩
    simpa [isCamelPart, digit] using part

theorem isCamelCase_iff_isOneWord (cs : List Char) : IsCamelCase cs ↔ IsOneWord cs := by
  cases cs with
  | nil => simp [IsCamelCase, IsOneWord]
  | cons c rest =>
    simp only [IsCamelCase, IsOneWord, List.cons.injEq, List.forall_mem_cons, ← isCamelPart_iff,
      isCamelStart_iff_isCamelPart]
    grind

theorem intercalate_underscore (first : List Char) (words : List (List Char)) :
    ['_'].intercalate (first :: words) = first ++ behindUnderscores words := by
  induction words generalizing first with
  | nil => simp [behindUnderscores]
  | cons word words ih => simp [List.intercalate_cons_cons, ih, behindUnderscores]

/-- The words of a constant are the parts that its underscores cut it into. -/
theorem isConstant_iff_isCutIntoParts (cs : List Char) : IsConstant cs ↔ IsCutIntoParts cs := by
  simp only [IsCutIntoParts, ← isConstStart_iff, ← isConstPart_iff]
  constructor
  · rintro ⟨first, words, rfl, some, starts, later⟩
    have apart : ∀ word ∈ first :: words, '_' ∉ word := by
      refine List.forall_mem_cons.mpr ⟨fun member => ?_, fun word hword member => ?_⟩
      · exact absurd (starts '_' member) (by decide)
      · exact absurd ((later word hword).2 '_' member) (by decide)
    refine ⟨first, words, ?_, ⟨some, starts⟩, later⟩
    rw [← intercalate_underscore]
    exact List.splitOn_intercalate '_' apart (by simp)
  · rintro ⟨first, words, cut, ⟨some, starts⟩, later⟩
    refine ⟨first, words, ?_, some, starts, later⟩
    rw [← intercalate_underscore, ← cut, List.intercalate_splitOn]

theorem IsCutIntoParts.ne_nil {cs : List Char} (h : IsCutIntoParts cs) {part : List Char}
    (member : part ∈ cs.splitOn '_') : part ≠ [] := by
  obtain ⟨first, others, cut, ⟨some, _⟩, later⟩ := h
  rw [cut] at member
  rcases List.mem_cons.mp member with rfl | member
  · exact some
  · exact (later part member).1

/-- Something stands on both sides of an underscore, and behind it no other one. -/
theorem IsCutIntoParts.beside_underscore {before after : List Char}
    (h : IsCutIntoParts (before ++ '_' :: after)) :
    before ≠ [] ∧ after ≠ [] ∧ after.head? ≠ some '_' := by
  have parts : (before ++ '_' :: after).splitOn '_' = before.splitOn '_' ++ after.splitOn '_' :=
    List.splitOn_append_cons_self before after
  have whole : ∀ part ∈ before.splitOn '_' ++ after.splitOn '_', part ≠ [] := fun part member =>
    h.ne_nil (parts ▸ member)
  refine ⟨?_, ?_, ?_⟩
  · rintro rfl
    exact whole [] (by simp) rfl
  · rintro rfl
    exact whole [] (by simp) rfl
  · intro next
    obtain ⟨rest, rfl⟩ := List.head?_eq_some_iff.mp next
    exact whole [] (by simp [List.splitOn_cons_eq_if_modifyHead]) rfl

/-- A character of an admitted name is one of a name in camel case, or an underscore. -/
theorem isCamelPart_of_mem {name : String} (admitted : isCamelOrConst name = true) {c : Char}
    (member : c ∈ name.toList) : isCamelPart c = true ∨ c = '_' := by
  rcases (isCamelOrConst_iff name).mp admitted with camel | const
  · exact Or.inl (camel.characters c member)
  · refine (const.characters c member).imp_left fun start => ?_
    rw [isCamelPart_iff]
    rcases isConstStart_iff.mp start with upper | digit | dollar
    · rw [isUpper_eq] at upper
      simp [Char.isAlphanum, isAlpha_eq, upper]
    · simp [Char.isAlphanum, digit]
    · exact Or.inr dollar

theorem toNat_of_isCamelPart {c : Char} (h : isCamelPart c = true) :
    36 ≤ c.toNat ∧ c.toNat < 128 := by
  rw [isCamelPart, Bool.or_eq_true, isCamelStart_iff] at h
  rcases h with (alpha | rfl) | digit
  · have := toNat_of_isAlpha alpha
    omega
  · decide
  · have := toNat_of_isDigit digit
    omega

end Name

/-- A name is in an admitted spelling if and only if it is one word of letters, digits and dollar
signs that begins with no digit, or its underscores cut it into parts of capitals and digits, none
of them empty, with dollar signs in the first part at most. So an admitted name with an underscore
has no line end and no character outside ASCII, and no underscore in front, at the end or next to
another one. -/
theorem isCamelOrConst_iff_parts (name : String) :
    (Name.isCamelOrConst name = true ↔
      Name.IsOneWord name.toList ∨ Name.IsCutIntoParts name.toList) ∧
    (Name.isCamelOrConst name = true → '_' ∈ name.toList →
      (∀ c ∈ name.toList, c ≠ '\n' ∧ c.toNat < 128) ∧ name.toList.head? ≠ some '_' ∧
        name.toList.getLast? ≠ some '_' ∧ ¬ ['_', '_'] <:+: name.toList) := by
  have grammar : Name.isCamelOrConst name = true ↔
      Name.IsOneWord name.toList ∨ Name.IsCutIntoParts name.toList := by
    rw [Name.isCamelOrConst_iff, Name.isCamelCase_iff_isOneWord,
      Name.isConstant_iff_isCutIntoParts]
  refine ⟨grammar, ?_⟩
  intro admitted underscore
  -- One word has no underscore, so the name is cut into parts.
  have cut : Name.IsCutIntoParts name.toList := by
    refine (grammar.mp admitted).resolve_left fun word => ?_
    exact absurd (word.2.1 '_' underscore) (by decide)
  refine ⟨fun c member => ?_, fun front => ?_, fun back => ?_, ?_⟩
  · rcases Name.isCamelPart_of_mem admitted member with part | rfl
    · obtain ⟨low, high⟩ := Name.toNat_of_isCamelPart part
      refine ⟨?_, high⟩
      rintro rfl
      exact absurd low (by decide)
    · decide
  · obtain ⟨rest, split⟩ := List.head?_eq_some_iff.mp front
    have cut : Name.IsCutIntoParts ([] ++ '_' :: rest) := split ▸ cut
    exact cut.beside_underscore.1 rfl
  · obtain ⟨rest, split⟩ := List.getLast?_eq_some_iff.mp back
    have cut : Name.IsCutIntoParts (rest ++ ['_']) := split ▸ cut
    exact cut.beside_underscore.2.1 rfl
  · rintro ⟨before, after, split⟩
    have cut : Name.IsCutIntoParts (before ++ '_' :: ('_' :: after)) := by
      simpa [← split] using cut
    exact cut.beside_underscore.2.2 rfl

/-- A constant with a dollar sign in its first part, and one with an empty part. -/
theorem isCamelOrConst_iff_parts_dollar :
    Name.isCamelOrConst "$A_1B" = true ∧ '_' ∈ "$A_1B".toList ∧
    Name.IsCutIntoParts "$A_1B".toList ∧ "$A_1B".toList.getLast? ≠ some '_' ∧
    ['_', '_'] <:+: "A__B".toList ∧ Name.isCamelOrConst "A__B" = false := by
  have admitted : Name.isCamelOrConst "$A_1B" = true := by decide
  have underscore : '_' ∈ "$A_1B".toList := by decide
  have doubled : ['_', '_'] <:+: "A__B".toList := by decide
  obtain ⟨grammar, edges⟩ := isCamelOrConst_iff_parts "$A_1B"
  have cut : Name.IsCutIntoParts "$A_1B".toList :=
    (grammar.mp admitted).resolve_left fun word => absurd (word.2.1 '_' underscore) (by decide)
  refine ⟨admitted, underscore, cut, (edges admitted underscore).2.2.1, doubled, ?_⟩
  rw [← Bool.not_eq_true]
  intro taken
  exact ((isCamelOrConst_iff_parts "A__B").2 taken (by decide)).2.2.2 doubled

end NameLint
