import NameLint.Rule.Camelcase

/-!
# Spellings

The two admitted spellings as grammars. A name in camel case is one word; a
constant is a row of words with single underscores between them. Neither begins
with an underscore or holds a dash. Every character of a constant is its own upper
case and no name in camel case has an underscore, so that a name in an admitted
spelling never counts as underscored. An identifier with such a name is passed
over wherever it stands.
-/

namespace NameLint

namespace Name

/-- A letter or a dollar sign, and then letters, digits and dollar signs. -/
def IsCamelCase (cs : List Char) : Prop :=
  ∃ first rest, cs = first :: rest ∧ isCamelStart first = true ∧ ∀ c ∈ rest, isCamelPart c = true

/-- The words, each with an underscore in front. -/
def behindUnderscores (words : List (List Char)) : List Char :=
  words.flatMap fun word => '_' :: word

/-- Whether the words may follow in a constant: none is empty, and all are in capitals and
digits. -/
def AreLaterWords (words : List (List Char)) : Prop :=
  ∀ word ∈ words, word ≠ [] ∧ ∀ c ∈ word, isConstPart c = true

/-- A word of capitals, digits and dollar signs, and then words of capitals and digits. -/
def IsConstant (cs : List Char) : Prop :=
  ∃ first words, cs = first ++ behindUnderscores words ∧ first ≠ [] ∧
    (∀ c ∈ first, isConstStart c = true) ∧ AreLaterWords words

theorem isCamel_iff (cs : List Char) : isCamel cs = true ↔ IsCamelCase cs := by
  cases cs with
  | nil =>
    constructor
    · intro h
      cases h
    · rintro ⟨first, rest, h, _⟩
      cases h
  | cons first rest =>
    rw [isCamel, Bool.and_eq_true, List.all_eq_true]
    constructor
    · rintro ⟨start, parts⟩
      exact ⟨first, rest, rfl, start, parts⟩
    · rintro ⟨first', rest', h, start, parts⟩
      cases h
      exact ⟨start, parts⟩

theorem isConstPart_underscore : isConstPart '_' = false := by
  decide

theorem isConstStart_underscore : isConstStart '_' = false := by
  decide

theorem isConstStart_of_isConstPart {c : Char} (h : isConstPart c = true) :
    isConstStart c = true := by
  rw [isConstStart, h, Bool.true_or]

theorem AreLaterWords.nil : AreLaterWords [] := by
  intro word hword
  cases hword

theorem AreLaterWords.cons {word : List Char} {words : List (List Char)} (some : word ≠ [])
    (parts : ∀ c ∈ word, isConstPart c = true) (later : AreLaterWords words) :
    AreLaterWords (word :: words) := by
  intro w hw
  rcases List.mem_cons.mp hw with rfl | hw
  · exact ⟨some, parts⟩
  · exact later w hw

/-- What is read behind the first word is the rest of a word and then further words. The rest may be
empty only where the word has begun. -/
theorem isConstRest_iff (inWord : Bool) (cs : List Char) :
    isConstRest inWord cs = true ↔
      ∃ word words, cs = word ++ behindUnderscores words ∧ (inWord = true ∨ word ≠ []) ∧
        (∀ c ∈ word, isConstPart c = true) ∧ AreLaterWords words := by
  induction cs generalizing inWord with
  | nil =>
    rw [isConstRest]
    constructor
    · intro begun
      exact ⟨[], [], rfl, Or.inl begun, by simp, .nil⟩
    · rintro ⟨word, words, split, begun | some, _, _⟩
      · exact begun
      · exact absurd (List.append_eq_nil_iff.mp split.symm).1 some
  | cons c rest ih =>
    rw [isConstRest]
    by_cases underscore : c = '_'
    · subst underscore
      rw [if_pos (beq_self_eq_true _), Bool.and_eq_true, ih]
      constructor
      · rintro ⟨begun, word, words, rfl, ended | some, parts, later⟩
        · cases ended
        · exact ⟨[], word :: words, rfl, Or.inl begun, by simp, .cons some parts later⟩
      · rintro ⟨word, words, split, begun, parts, later⟩
        cases word with
        | cons d word =>
          -- An underscore is no part of a word.
          have same := (List.cons.inj split).1
          have part := parts d List.mem_cons_self
          rw [← same, isConstPart_underscore] at part
          cases part
        | nil =>
          cases words with
          | nil => cases split
          | cons word words =>
            obtain ⟨some, own⟩ := later word List.mem_cons_self
            refine ⟨begun.resolve_right (by simp), word, words, (List.cons.inj split).2,
              Or.inr some, own, fun w hw => later w (List.mem_cons_of_mem _ hw)⟩
    · have other : ¬ (c == '_') = true := by simpa using underscore
      rw [if_neg other, Bool.and_eq_true, ih]
      constructor
      · rintro ⟨part, word, words, rfl, _, parts, later⟩
        refine ⟨c :: word, words, rfl, Or.inr (by simp), ?_, later⟩
        exact List.forall_mem_cons.mpr ⟨part, parts⟩
      · rintro ⟨word, words, split, _, parts, later⟩
        cases word with
        | cons d word =>
          obtain ⟨rfl, tail⟩ := List.cons.inj split
          obtain ⟨part, parts⟩ := List.forall_mem_cons.mp parts
          exact ⟨part, word, words, tail, Or.inl rfl, parts, later⟩
        | nil =>
          cases words with
          | nil => cases split
          | cons word words => exact absurd (List.cons.inj split).1 underscore

/-- Nothing behind the first word continues it. -/
theorem dropWhile_behindUnderscores (words : List (List Char)) :
    (behindUnderscores words).dropWhile isConstStart = behindUnderscores words := by
  cases words with
  | nil => rfl
  | cons word words => exact List.dropWhile_cons_of_neg (by rw [isConstStart_underscore]; decide)

theorem isConst_iff (cs : List Char) : isConst cs = true ↔ IsConstant cs := by
  constructor
  · intro h
    have front : ∀ c ∈ cs.takeWhile isConstStart, isConstStart c = true :=
      List.all_eq_true.mp List.all_takeWhile
    have whole := List.takeWhile_append_dropWhile (p := isConstStart) (l := cs)
    unfold isConst at h
    split at h
    · rename_i all
      rw [all, List.append_nil] at whole
      refine ⟨cs, [], (List.append_nil cs).symm, by simpa using h, ?_, .nil⟩
      rwa [whole] at front
    · rename_i rest _
      rw [Bool.and_eq_true] at h
      obtain ⟨begins, goesOn⟩ := h
      obtain ⟨word, words, split, _, parts, later⟩ := (isConstRest_iff _ _).mp goesOn
      refine ⟨cs.takeWhile isConstStart ++ word, words, ?_, ?_, ?_, later⟩
      · rw [List.append_assoc, ← split, whole]
      · cases cs with
        | nil => cases begins
        | cons c cs =>
          rw [List.takeWhile_cons_of_pos (by simpa using begins)]
          simp
      · intro c hc
        rcases List.mem_append.mp hc with own | added
        · exact front c own
        · exact isConstStart_of_isConstPart (parts c added)
  · rintro ⟨first, words, rfl, some, starts, later⟩
    have rest : (first ++ behindUnderscores words).dropWhile isConstStart =
        behindUnderscores words := by
      rw [List.dropWhile_append_of_pos starts, dropWhile_behindUnderscores]
    unfold isConst
    rw [rest]
    split
    · simp [some]
    · have begins : (first ++ behindUnderscores words).head?.any isConstStart = true := by
        cases first with
        | nil => exact absurd rfl some
        | cons c first => exact starts c List.mem_cons_self
      rw [begins, Bool.true_and, isConstRest_iff]
      exact ⟨[], words, rfl, Or.inl rfl, by simp, later⟩

/-- A name is admitted if it is in one of the two spellings. -/
theorem isCamelOrConst_iff (name : String) :
    isCamelOrConst name = true ↔ IsCamelCase name.toList ∨ IsConstant name.toList := by
  rw [isCamelOrConst, Bool.or_eq_true, isCamel_iff, isConst_iff]

theorem IsCamelCase.characters {cs : List Char} (h : IsCamelCase cs) :
    ∀ c ∈ cs, isCamelPart c = true := by
  obtain ⟨first, rest, rfl, start, parts⟩ := h
  refine List.forall_mem_cons.mpr ⟨?_, parts⟩
  rw [isCamelPart, start, Bool.true_or]

theorem IsConstant.characters {cs : List Char} (h : IsConstant cs) :
    ∀ c ∈ cs, isConstStart c = true ∨ c = '_' := by
  obtain ⟨first, words, rfl, _, starts, later⟩ := h
  intro c hc
  rcases List.mem_append.mp hc with own | behind
  · exact Or.inl (starts c own)
  · obtain ⟨word, hword, hc⟩ := List.mem_flatMap.mp behind
    rcases List.mem_cons.mp hc with rfl | hc
    · exact Or.inr rfl
    · exact Or.inl (isConstStart_of_isConstPart ((later word hword).2 c hc))

/-- A character that has no place in either spelling is in no admitted name. -/
theorem not_mem_of_isCamelOrConst {name : String} (admitted : isCamelOrConst name = true) {c : Char}
    (camel : isCamelPart c = false) (const : isConstStart c = false) (other : c ≠ '_') :
    c ∉ name.toList := by
  intro member
  rcases (isCamelOrConst_iff name).mp admitted with h | h
  · have part := h.characters c member
    rw [camel] at part
    cases part
  · rcases h.characters c member with start | underscore
    · rw [const] at start
      cases start
    · exact other underscore

/-- No admitted name begins with an underscore. -/
theorem isCamelOrConst_of_isPrivate {name : String} (h : isPrivate name = true) :
    isCamelOrConst name = false := by
  have begins : name.toList.head? = some '_' := beq_iff_eq.mp h
  rw [← Bool.not_eq_true, isCamelOrConst_iff]
  rintro (⟨first, rest, split, start, _⟩ | ⟨first, words, split, some, starts, _⟩)
  · rw [split, List.head?_cons, Option.some.injEq] at begins
    rw [begins] at start
    cases start
  · cases first with
    | nil => exact some rfl
    | cons c first =>
      rw [split, List.cons_append, List.head?_cons, Option.some.injEq] at begins
      have start := starts c List.mem_cons_self
      rw [begins, isConstStart_underscore] at start
      cases start

/-- No admitted name holds a dash. -/
theorem isCamelOrConst_of_isDashed {name : String} (h : isDashed name = true) :
    isCamelOrConst name = false := by
  rw [← Bool.not_eq_true]
  intro admitted
  exact not_mem_of_isCamelOrConst admitted (by decide) (by decide) (by decide)
    (List.contains_iff_mem.mp h)

theorem toNat_of_isCapital {c : Char} (h : isCapital c = true) : 65 ≤ c.toNat ∧ c.toNat ≤ 90 := by
  rw [isCapital, Bool.and_eq_true, decide_eq_true_eq, decide_eq_true_eq] at h
  exact h

theorem toNat_of_isDigit {c : Char} (h : c.isDigit = true) : 48 ≤ c.toNat ∧ c.toNat ≤ 57 := by
  rw [Char.isDigit, Bool.and_eq_true, decide_eq_true_eq, decide_eq_true_eq] at h
  exact h

/-- The characters of a constant are their own upper case. -/
theorem isUpperFixed_of_isConstStart {c : Char} (h : isConstStart c = true) :
    Text.isUpperFixed c = true := by
  have fixed : c.toNat < 97 → Text.isUpperFixed c = true := by
    intro small
    rw [Text.isUpperFixed, Text.upper, if_pos (by omega), if_neg (by simp; omega)]
    exact beq_self_eq_true _
  rw [isConstStart, isConstPart, Bool.or_eq_true, Bool.or_eq_true] at h
  rcases h with (capital | digit) | dollar
  · exact fixed (by have := toNat_of_isCapital capital; omega)
  · exact fixed (by have := toNat_of_isDigit digit; omega)
  · rw [beq_iff_eq.mp dollar]
    decide

theorem isUpperFixed_underscore : Text.isUpperFixed '_' = true := by
  decide

/-- Setting a line end apart loses nothing. -/
theorem splitLineEnd_append (cs : List Char) : (splitLineEnd cs).1 ++ (splitLineEnd cs).2 = cs := by
  unfold splitLineEnd
  split
  · rename_i body reversed
    rw [← List.reverse_cons, ← reversed, List.reverse_reverse]
  · exact List.append_nil cs

/-- Taking underscores off the edges adds no characters. -/
theorem stripUnderscores_subset (name : String) :
    (stripUnderscores name).toList ⊆ name.toList := by
  intro c hc
  unfold stripUnderscores at hc
  dsimp only at hc
  rw [String.toList_ofList] at hc
  rw [← splitLineEnd_append name.toList, List.mem_append]
  rcases List.mem_append.mp hc with body | lineEnd
  · left
    have behind := (List.dropWhile_sublist _).subset (List.mem_reverse.mp body)
    exact (List.dropWhile_sublist _).subset (List.mem_reverse.mp behind)
  · exact Or.inr lineEnd

/-- No admitted name is underscored, even without the underscores at its edges. -/
theorem isUnderscored_stripUnderscores {name : String} (admitted : isCamelOrConst name = true) :
    isUnderscored (stripUnderscores name) = false := by
  have within := stripUnderscores_subset name
  rw [isUnderscored]
  rcases (isCamelOrConst_iff name).mp admitted with camel | const
  · have none : (stripUnderscores name).toList.contains '_' = false := by
      rw [← Bool.not_eq_true, List.contains_iff_mem]
      intro member
      have part := camel.characters '_' (within member)
      cases part
    rw [none, Bool.false_and]
  · have upper : Text.isUpperCase (stripUnderscores name).toList = true := by
      rw [Text.isUpperCase, List.all_eq_true]
      intro c hc
      rcases const.characters c (within hc) with start | underscore
      · exact isUpperFixed_of_isConstStart start
      · rw [underscore]
        exact isUpperFixed_underscore
    rw [upper, Bool.not_true, Bool.and_false]

end Name

namespace Camelcase

/-- What the check of a property's key admits as a spelling never counts as underscored, so the
check of an identifier reports no such name, whatever the tree around it. -/
theorem checkIdentifier_of_admitted (name : String) (admitted : Name.isCamelOrConst name = true) :
    Name.isUnderscored (Name.stripUnderscores name) = false ∧
    ∀ (n : Node) (ancestors : List Node), n.name = .plain (.text name) →
      checkIdentifier n ancestors = none := by
  have passed := Name.isUnderscored_stripUnderscores admitted
  refine ⟨passed, ?_⟩
  intro n ancestors named
  have text : n.name.text? = some name := by
    rw [named]
    rfl
  rw [checkIdentifier, text]
  dsimp only
  rw [passed, Bool.false_and, if_neg (by decide)]

/-- A constant with a dollar sign and digits, and an identifier of that name on the left of an
assignment. -/
theorem checkIdentifier_of_dollarConstant :
    Name.isCamelOrConst "$0_A1_9" = true ∧
    Name.isUnderscored (Name.stripUnderscores "$0_A1_9") = false ∧
    checkIdentifier ⟨1, "Identifier", [("name", .plain (.text "$0_A1_9"))], none, []⟩
      [⟨0, "AssignmentExpression", [], none, []⟩] = none := by
  have admitted : Name.isCamelOrConst "$0_A1_9" = true := by decide
  obtain ⟨passed, silent⟩ := checkIdentifier_of_admitted "$0_A1_9" admitted
  exact ⟨admitted, passed, silent _ _ rfl⟩

end Camelcase

end NameLint
