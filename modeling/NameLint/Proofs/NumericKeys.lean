import NameLint.Proofs.PropertyDecision
import NameLint.Proofs.ShortestDecimals

/-!
# Keys that are numbers

A key without a name is judged by the text of its number. A sign, a point or an
exponent is in no admitted spelling, and digits alone are a constant. So it is the
whole numbers from zero on that pass, as long as they are written without an
exponent, and the two words that count as numbers and have no sign.
-/

namespace NameLint

theorem Name.isCamelOrConst_of_isDigit {cs : List Char} (some : cs ≠ [])
    (digits : ∀ c ∈ cs, c.isDigit = true) : isCamelOrConst (String.ofList cs) = true := by
  rw [isCamelOrConst_iff, String.toList_ofList]
  refine Or.inr ⟨cs, [], (List.append_nil cs).symm, some, ?_, .nil⟩
  intro c hc
  apply isConstStart_of_isConstPart
  rw [isConstPart, digits c hc, Bool.or_true]

namespace Numeral

/-- A numeral is in an admitted spelling if and only if it is digits alone. -/
theorem text_admitted_iff {x : Numeral} (wellFormed : x.IsWellFormed) :
    Name.isCamelOrConst (String.ofList x.text) = true ↔ x.fraction = [] ∧ x.exponent = none := by
  constructor
  · intro admitted
    have absent : ∀ c, Name.isCamelPart c = false → Name.isConstStart c = false → c ≠ '_' →
        c ∉ x.text := by
      intro c camel const other
      have missing := Name.not_mem_of_isCamelOrConst admitted camel const other
      rwa [String.toList_ofList] at missing
    constructor
    · by_contra point
      apply absent '.' (by decide) (by decide) (by decide)
      simp [text, point]
    · cases found : x.exponent with
      | none => rfl
      | some parts =>
        obtain ⟨negative, digits⟩ := parts
        cases negative with
        | true =>
          refine absurd ?_ (absent '-' (by decide) (by decide) (by decide))
          simp [text, exponentText, found]
        | false =>
          refine absurd ?_ (absent '+' (by decide) (by decide) (by decide))
          simp [text, exponentText, found]
  · rintro ⟨fraction, exponent⟩
    have digits : x.text = x.whole := by simp [text, exponentText, fraction, exponent]
    rw [digits]
    exact Name.isCamelOrConst_of_isDigit wellFormed.whole.1 wellFormed.whole.2

end Numeral

namespace Literal

open NumeralFormat

/-- A decimal is written as digits alone if and only if it is whole and has at most twenty-one
digits before the point. -/
theorem numeralOf_digits_iff (d : Decimal) :
    (numeralOf d).fraction = [] ∧ (numeralOf d).exponent = none ↔
      0 ≤ d.exponent ∧ d.point ≤ 21 := by
  have length : 0 < (digitsOf d.digits).length := Nat.length_toDigits_pos
  have position : d.point = d.exponent + (digitsOf d.digits).length := rfl
  rcases numeralOf_cases d with ⟨_, high, n, exponent, same⟩ | ⟨_, _, n, _, fits, exponent, same⟩ |
    ⟨_, _, n, exponent, same⟩ | ⟨free, same⟩ <;> rw [same]
  · exact ⟨fun _ => ⟨by omega, high⟩, fun _ => ⟨rfl, rfl⟩⟩
  · constructor
    · rintro ⟨none, _⟩
      have short := List.drop_eq_nil_iff.mp none
      omega
    · rintro ⟨whole, _⟩
      omega
  · constructor
    · rintro ⟨none, _⟩
      exact absurd (List.append_eq_nil_iff.mp none).2 (digitsOf_ne_nil _)
    · rintro ⟨whole, _⟩
      omega
  · constructor
    · rintro ⟨_, none⟩
      cases none
    · rintro ⟨whole, high⟩
      omega

/-- The doubles whose text is in an admitted spelling: what is no number, infinity, and the whole
numbers from zero to below the twenty-first power of ten. -/
def IsAdmitted (x : Binary64) : Prop :=
  x = .nan ∨ x = .infinity false ∨ ∃ k : Nat, k < 10 ^ 21 ∧ x.value? = some (k : ℚ)

theorem isAdmitted_finite_iff (negative : Bool) (m : Nat) (e : Int) :
    IsAdmitted (.finite negative m e) ↔
      ∃ k : Nat, k < 10 ^ 21 ∧ ((if negative then -1 else 1) * (m * 2 ^ e) : ℚ) = k := by
  constructor
  · rintro (nan | infinity | ⟨k, below, value⟩)
    · cases nan
    · cases infinity
    · exact ⟨k, below, Option.some.inj value⟩
  · rintro ⟨k, below, value⟩
    exact Or.inr (Or.inr ⟨k, below, congrArg some value⟩)

/-- Zero is written without its sign. -/
theorem doubleText_zero (negative : Bool) (e : Int) : doubleText (.finite negative 0 e) = "0" := rfl

theorem doubleText_of_finite (negative : Bool) {m : Nat} (nonzero : m ≠ 0) (e : Int) :
    doubleText (.finite negative m e) = signedText negative (Decimal.shortest m e) := by
  have counts : (m == 0) = false := by simpa using nonzero
  rw [doubleText, counts]
  rfl

/-- The text of a double is in an admitted spelling for the admitted doubles alone. -/
theorem doubleText_admitted_iff {x : Binary64} (double : x.IsDouble) :
    Name.isCamelOrConst (doubleText x) = true ↔ IsAdmitted x := by
  cases x with
  | nan => exact ⟨fun _ => Or.inl rfl, fun _ => by decide⟩
  | infinity negative =>
    cases negative with
    | false => exact ⟨fun _ => Or.inr (Or.inl rfl), fun _ => by decide⟩
    | true =>
      constructor
      · intro admitted
        have rejected : Name.isCamelOrConst "-Infinity" = false := by decide
        rw [show doubleText (.infinity true) = "-Infinity" from rfl, rejected] at admitted
        cases admitted
      · rintro (nan | infinity | ⟨k, _, value⟩)
        · cases nan
        · cases infinity
        · cases value
  | finite negative m e =>
    rw [isAdmitted_finite_iff]
    by_cases zero : m = 0
    · subst zero
      constructor
      · intro _
        exact ⟨0, by decide, by simp⟩
      · intro _
        rw [doubleText_zero]
        decide
    · rw [doubleText_of_finite negative zero]
      cases negative with
      | true =>
        constructor
        · intro admitted
          have dash := Name.not_mem_of_isCamelOrConst admitted (c := '-') (by decide) (by decide)
            (by decide)
          refine absurd ?_ dash
          rw [signedText, String.toList_append]
          exact List.mem_append_left _ (by decide)
        · rintro ⟨k, _, value⟩
          have positive : (0 : ℚ) < m * 2 ^ e := by
            have counts : (0 : ℚ) < m := by exact_mod_cast Nat.pos_of_ne_zero zero
            positivity
          have least : (0 : ℚ) ≤ k := by exact_mod_cast Nat.zero_le k
          rw [if_pos rfl] at value
          linarith
      | false =>
        have text : signedText false (Decimal.shortest m e) =
            String.ofList (numeralOf (Decimal.shortest m e)).text := by
          rw [signedText, if_neg (by decide), String.empty_append, write_eq_text]
        rw [text, Numeral.text_admitted_iff (numeralOf_isWellFormed _), numeralOf_digits_iff,
          Decimal.shortest_whole_iff zero double, if_neg (by decide), one_mul]

/-- No text of a double begins with an underscore. -/
theorem isPrivate_doubleText (x : Binary64) : Name.isPrivate (doubleText x) = false := by
  cases x with
  | nan => decide
  | infinity negative => cases negative <;> decide
  | finite negative m e =>
    by_cases zero : m = 0
    · subst zero
      rw [doubleText_zero]
      decide
    · rw [doubleText_of_finite negative zero, Name.isPrivate, beq_eq_false_iff_ne, signedText,
        String.toList_append, String.toList_ofList]
      cases negative with
      | true =>
        intro underscore
        cases underscore
      | false =>
        intro underscore
        have digit := isDigit_of_head?_write _ '_' underscore
        cases digit

theorem numberText_eq (x : Number) : numberText x = doubleText x.rounded := by
  cases x with
  | whole n => rfl
  | double y => rfl

end Literal

namespace Camelcase

open Literal

/-- The name of a key without a name of its own is the text of its number. -/
theorem keyName?_of_number [Stack] {key : Node} {x : Number} (unnamed : key.name.truthy = false)
    (hvalue : key.get? "value" = some (.plain (Value.ofNumber x))) :
    key.keyName? = .ok (some (.plain (.text (numberText x)))) := by
  rw [Node.keyName?, unnamed, if_neg (by decide), hvalue]
  cases x with
  | whole n => rfl
  | double y => rfl

/-- Where nothing is exempt, a property whose key is a number without a name is accepted if and only
if the number, rounded to a double, is no number, infinity, or a whole number from zero to below the
twenty-first power of ten. Any other number is reported under its text. -/
theorem checkProperty_numericKey [Stack] (n key : Node) (x : Number)
    (hkey : n.child? "key" = some key)
    (unnamed : key.name.truthy = false)
    (hvalue : key.get? "value" = some (.plain (Value.ofNumber x)))
    (double : ∀ y, x = .double y → y.IsDouble) :
    (checkProperty n { ignore := [], exemptQuoted := false } = .ok none ↔ IsAdmitted x.rounded) ∧
    (¬ IsAdmitted x.rounded → checkProperty n { ignore := [], exemptQuoted := false } =
      .ok (some ⟨n, propertyType, .plain (.text (numberText x))⟩)) := by
  have rounded : x.rounded.IsDouble := by
    cases x with
    | whole n => exact Binary64.isDouble_ofInt n
    | double y => exact double y rfl
  have hpublic : Name.isPrivate (numberText x) = false := by
    rw [numberText_eq]
    exact isPrivate_doubleText _
  have admitted : Name.isCamelOrConst (numberText x) = true ↔ IsAdmitted x.rounded := by
    rw [numberText_eq]
    exact doubleText_admitted_iff rounded
  have passes : Passes { ignore := [], exemptQuoted := false } n key
      (.plain (.text (numberText x))) (Name.isPrivate (numberText x)) := by
    rw [hpublic]
    exact ⟨rfl, rfl, rfl⟩
  rw [checkProperty_eq_judge hkey (keyName?_of_number unnamed hvalue), judge_of_passes passes,
    ← admitted]
  cases Name.isCamelOrConst (numberText x) with
  | true => simp
  | false => simp

/-- A key with the whole number just below the twenty-first power of ten, which no double is. -/
def hugeKey : Node :=
  ⟨1, "Literal", [("value", .plain (.int (10 ^ 21 - 1)))], none, []⟩

def hugeKeyedProperty : Node :=
  ⟨0, "Property", [("key", .ofNode hugeKey)], none, []⟩

open scoped Stack in
/-- The number is rounded up to the power of ten, and reported with an exponent. -/
theorem checkProperty_numericKey_rounded :
    hugeKeyedProperty.child? "key" = some hugeKey ∧
    hugeKey.get? "value" = some (.plain (Value.ofNumber (.whole (10 ^ 21 - 1)))) ∧
    checkProperty hugeKeyedProperty { ignore := [], exemptQuoted := false } =
      .ok (some ⟨hugeKeyedProperty, propertyType, .plain (.text "1e+21")⟩) := by
  have hkey : hugeKeyedProperty.child? "key" = some hugeKey := rfl
  have hvalue : hugeKey.get? "value" =
      some (.plain (Value.ofNumber (.whole (10 ^ 21 - 1)))) := rfl
  have rounded : (Number.whole (10 ^ 21 - 1)).rounded = .finite false 7629394531250000 17 := by
    decide +kernel
  have text : numberText (.whole (10 ^ 21 - 1)) = "1e+21" := by decide +kernel
  have rejected : ¬ IsAdmitted (Number.whole (10 ^ 21 - 1)).rounded := by
    rw [rounded, isAdmitted_finite_iff]
    rintro ⟨k, below, value⟩
    have below : (k : ℚ) < 10 ^ 21 := by exact_mod_cast below
    norm_num at value
    linarith
  obtain ⟨_, reported⟩ := checkProperty_numericKey hugeKeyedProperty hugeKey
    (.whole (10 ^ 21 - 1)) hkey rfl hvalue (fun y same => by cases same)
  rw [text] at reported
  exact ⟨hkey, hvalue, reported rejected⟩

end Camelcase

end NameLint
