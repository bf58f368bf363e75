import NameLint.Proofs.Doubles
import NameLint.Rule.KeyName

/-!
# Numerals of literals

The text of a number is laid out from its shortest decimal. Read as a numeral, with
digits before the point, digits after it and an exponent, it stands for exactly that
decimal. The layout is chosen by the size of the number alone and has no zero too
many, so two decimals never have one text.
-/

namespace NameLint

namespace Decimal

def value (d : Decimal) : ℚ :=
  d.digits * 10 ^ d.exponent

/-- Whether the last digit is not zero; then neither is the first. -/
def IsNormal (d : Decimal) : Prop :=
  d.digits % 10 ≠ 0

/-- The position of the decimal point, counted from the front of the digits. -/
def point (d : Decimal) : Int :=
  d.exponent + (NumeralFormat.digitsOf d.digits).length

end Decimal

/-- A numeral taken apart: the digits before the point, those after it, and of an exponent whether
it is negative, and its digits. -/
structure Numeral where
  whole : List Char
  fraction : List Char
  exponent : Option (Bool × List Char)

namespace Numeral

/-- The digits at the front of a text, of which there has to be one, and what follows them. -/
def readDigits (text : List Char) : Option (List Char × List Char) :=
  match text.takeWhile Char.isDigit with
  | [] => none
  | c :: rest => some (c :: rest, text.dropWhile Char.isDigit)

/-- The digits behind a point, if there is a point, and what follows them. -/
def readFraction : List Char → Option (List Char × List Char)
  | '.' :: rest => readDigits rest
  | rest => some ([], rest)

/-- The sign and the digits of an exponent, if there is one, up to the end of the text. -/
def readExponent : List Char → Option (Option (Bool × List Char))
  | [] => some none
  | 'e' :: sign :: rest =>
    match sign == '+' || sign == '-', readDigits rest with
    | true, some (digits, []) => some (some (sign == '-', digits))
    | _, _ => none
  | _ => none

def read (text : List Char) : Option Numeral := do
  let (whole, rest) ← readDigits text
  let (fraction, rest) ← readFraction rest
  let exponent ← readExponent rest
  return ⟨whole, fraction, exponent⟩

def power : Option (Bool × List Char) → Int
  | none => 0
  | some (negative, digits) =>
    if negative then -Nat.ofDigitChars 10 digits 0 else Nat.ofDigitChars 10 digits 0

def value (x : Numeral) : ℚ :=
  Nat.ofDigitChars 10 (x.whole ++ x.fraction) 0 * 10 ^ (power x.exponent - x.fraction.length)

def exponentText : Option (Bool × List Char) → List Char
  | none => []
  | some (negative, digits) => 'e' :: (if negative then '-' else '+') :: digits

def text (x : Numeral) : List Char :=
  x.whole ++ ((if x.fraction = [] then [] else '.' :: x.fraction) ++ exponentText x.exponent)

structure IsWellFormed (x : Numeral) : Prop where
  whole : x.whole ≠ [] ∧ ∀ c ∈ x.whole, c.isDigit = true
  fraction : ∀ c ∈ x.fraction, c.isDigit = true
  exponent : ∀ negative digits, x.exponent = some (negative, digits) →
    digits ≠ [] ∧ ∀ c ∈ digits, c.isDigit = true

theorem readDigits_append {digits : List Char} (rest : List Char) (present : digits ≠ [])
    (all : ∀ c ∈ digits, c.isDigit = true) (stop : ∀ c ∈ rest.head?, c.isDigit = false) :
    readDigits (digits ++ rest) = some (digits, rest) := by
  obtain ⟨front, back⟩ := Text.cut_of_stop all stop
  unfold readDigits
  rw [front, back]
  cases digits with
  | nil => exact absurd rfl present
  | cons c rest => rfl

theorem readExponent_exponentText {exponent : Option (Bool × List Char)}
    (wellFormed : ∀ negative digits, exponent = some (negative, digits) →
      digits ≠ [] ∧ ∀ c ∈ digits, c.isDigit = true) :
    readExponent (exponentText exponent) = some exponent := by
  cases exponent with
  | none => rfl
  | some parts =>
    obtain ⟨negative, digits⟩ := parts
    obtain ⟨present, all⟩ := wellFormed negative digits rfl
    have found := readDigits_append [] present all (by simp)
    rw [List.append_nil] at found
    cases negative with
    | true => simp [exponentText, readExponent, found]
    | false => simp [exponentText, readExponent, found]

theorem head?_exponentText (exponent : Option (Bool × List Char)) :
    ∀ c ∈ (exponentText exponent).head?, c = 'e' := by
  intro c hc
  cases exponent with
  | none => cases hc
  | some parts =>
    cases hc
    rfl

theorem readFraction_of_head {rest : List Char} (h : ∀ c ∈ rest.head?, c = 'e') :
    readFraction rest = some ([], rest) := by
  unfold readFraction
  split
  · have dot := h '.' rfl
    cases dot
  · rfl

/-- Reading takes apart what writing puts together. -/
theorem read_text {x : Numeral} (wellFormed : x.IsWellFormed) : read x.text = some x := by
  have ending := head?_exponentText x.exponent
  have stop : ∀ c ∈ (exponentText x.exponent).head?, c.isDigit = false := by
    intro c hc
    rw [ending c hc]
    rfl
  have exponent := readExponent_exponentText wellFormed.exponent
  by_cases none : x.fraction = []
  · have whole := readDigits_append _ wellFormed.whole.1 wellFormed.whole.2 stop
    have text : x.text = x.whole ++ exponentText x.exponent := by simp [text, none]
    rw [text, read, whole]
    simp [readFraction_of_head ending, exponent, ← none]
  · have whole := readDigits_append ('.' :: (x.fraction ++ exponentText x.exponent))
      wellFormed.whole.1 wellFormed.whole.2 (by simp)
    have fraction := readDigits_append _ none wellFormed.fraction stop
    have text : x.text = x.whole ++ '.' :: (x.fraction ++ exponentText x.exponent) := by
      simp [text, none]
    rw [text, read, whole]
    simp [readFraction, fraction, exponent]

end Numeral

namespace NumeralFormat

theorem isDigit_digitsOf (n : Nat) : ∀ c ∈ digitsOf n, c.isDigit = true :=
  fun _ hc => Nat.isDigit_of_mem_toDigits (by decide) (by decide) hc

theorem digitsOf_ne_nil (n : Nat) : digitsOf n ≠ [] :=
  Nat.toDigits_ne_nil

theorem ofDigitChars_digitsOf (n : Nat) : Nat.ofDigitChars 10 (digitsOf n) 0 = n :=
  Nat.ofDigitChars_ten_toDigits

theorem digitsOf_of_lt {n : Nat} (small : n < 10) : digitsOf n = [n.digitChar] :=
  Nat.toDigits_of_lt_base small

theorem digitsOf_of_le {n : Nat} (large : 10 ≤ n) :
    digitsOf n = digitsOf (n / 10) ++ [(n % 10).digitChar] :=
  Nat.toDigits_of_base_le (by decide) large

theorem digitChar_ne_zero : ∀ n < 10, n ≠ 0 → n.digitChar ≠ '0' := by
  decide

/-- Digits do not begin with zero, except for zero itself. -/
theorem head?_digitsOf {n : Nat} (positive : n ≠ 0) : (digitsOf n).head? ≠ some '0' := by
  induction n using Nat.strongRecOn with
  | ind n ih =>
    by_cases small : n < 10
    · rw [digitsOf_of_lt small]
      simpa using digitChar_ne_zero n small positive
    · rw [digitsOf_of_le (by omega), List.head?_append_of_ne_nil _ (digitsOf_ne_nil _)]
      exact ih (n / 10) (by omega) (by omega)

/-- Digits end with zero only where the number is a multiple of ten. -/
theorem getLast?_digitsOf {n : Nat} (normal : n % 10 ≠ 0) : (digitsOf n).getLast? ≠ some '0' := by
  by_cases small : n < 10
  · rw [digitsOf_of_lt small]
    simpa using digitChar_ne_zero n small (by omega)
  · rw [digitsOf_of_le (by omega)]
    simpa using digitChar_ne_zero (n % 10) (by omega) normal

/-- A number has so many digits as the power of ten above it says. -/
theorem pow_length_digitsOf {n : Nat} (positive : n ≠ 0) :
    10 ^ ((digitsOf n).length - 1) ≤ n ∧ n < 10 ^ (digitsOf n).length := by
  have pos : 0 < (digitsOf n).length := Nat.length_toDigits_pos
  constructor
  · by_cases one : (digitsOf n).length = 1
    · rw [one]
      exact Nat.pos_of_ne_zero positive
    · have longer := Nat.length_toDigits_le_iff (b := 10) (n := n)
        (k := (digitsOf n).length - 1) (by decide) (by omega)
      have long : ¬ (digitsOf n).length ≤ (digitsOf n).length - 1 := by omega
      exact Nat.not_lt.mp fun less => long (longer.mpr less)
  · exact (Nat.length_toDigits_le_iff (by decide) pos).mp (Nat.le_refl _)

theorem isDigit_zeros (n : Nat) : ∀ c ∈ zeros n, c.isDigit = true := by
  intro c hc
  rw [List.eq_of_mem_replicate hc]
  rfl

/-- Zeros in front of digits count nothing. -/
theorem ofDigitChars_zeros (n init : Nat) : Nat.ofDigitChars 10 (zeros n) init = init * 10 ^ n := by
  induction n generalizing init with
  | zero => simp [zeros]
  | succ n ih =>
    have step : zeros (n + 1) = '0' :: zeros n := rfl
    rw [step, Nat.ofDigitChars_cons, ih, Nat.pow_succ]
    have zero : '0'.toNat - '0'.toNat = 0 := rfl
    rw [zero]
    ring

end NumeralFormat

namespace Decimal

open NumeralFormat

theorem IsNormal.digits_ne_zero {d : Decimal} (normal : d.IsNormal) : d.digits ≠ 0 := by
  intro zero
  apply normal
  rw [zero]

/-- The point says between which powers of ten a decimal is. -/
theorem value_bounds {d : Decimal} (positive : d.digits ≠ 0) :
    10 ^ (d.point - 1) ≤ d.value ∧ d.value < 10 ^ d.point := by
  obtain ⟨low, high⟩ := pow_length_digitsOf positive
  have pos : 0 < (digitsOf d.digits).length := Nat.length_toDigits_pos
  have scale : (0 : ℚ) < 10 ^ d.exponent := by positivity
  constructor
  · have split : d.point - 1 = ((digitsOf d.digits).length - 1 : Nat) + d.exponent := by
      unfold point
      omega
    rw [split, zpow_add₀ (by norm_num), zpow_natCast]
    exact mul_le_mul_of_nonneg_right (by exact_mod_cast low) scale.le
  · have split : d.point = ((digitsOf d.digits).length : Nat) + d.exponent := by
      unfold point
      omega
    rw [split, zpow_add₀ (by norm_num), zpow_natCast]
    exact mul_lt_mul_of_pos_right (by exact_mod_cast high) scale

theorem point_le_iff {d : Decimal} (positive : d.digits ≠ 0) (n : Int) :
    d.point ≤ n ↔ d.value < 10 ^ n := by
  obtain ⟨low, high⟩ := value_bounds positive
  constructor
  · intro h
    exact high.trans_le (zpow_le_zpow_right₀ (by norm_num) h)
  · intro h
    by_contra less
    have power : (10 : ℚ) ^ n ≤ 10 ^ (d.point - 1) := zpow_le_zpow_right₀ (by norm_num) (by omega)
    exact absurd (h.trans_le (power.trans low)) (lt_irrefl _)

/-- Two decimals without zeros at their ends are told apart by what they stand for. -/
theorem IsNormal.eq_of_value {d other : Decimal} (normal : d.IsNormal) (normal' : other.IsNormal)
    (same : d.value = other.value) : d = other := by
  -- The one with the smaller exponent would have zeros at its end.
  have aligned : ∀ {a b : Decimal}, a.IsNormal → a.value = b.value → a.exponent ≤ b.exponent →
      a.exponent = b.exponent := by
    intro a b normal same le
    obtain ⟨n, hn⟩ : ∃ n : Nat, b.exponent = n + a.exponent :=
      ⟨(b.exponent - a.exponent).toNat, by omega⟩
    have scale : (10 : ℚ) ^ a.exponent ≠ 0 := by positivity
    have digits : a.digits = b.digits * 10 ^ n := by
      unfold value at same
      rw [hn, zpow_add₀ (by norm_num), zpow_natCast, ← mul_assoc] at same
      exact_mod_cast mul_right_cancel₀ scale same
    cases n with
    | zero => simpa using hn.symm
    | succ n =>
      refine absurd ?_ normal
      rw [digits, Nat.pow_succ, ← Nat.mul_assoc, Nat.mul_mod_left]
  have exponents : d.exponent = other.exponent := by
    rcases Int.le_total d.exponent other.exponent with le | le
    · exact aligned normal same le
    · exact (aligned normal' same.symm le).symm
  have scale : (10 : ℚ) ^ other.exponent ≠ 0 := by positivity
  have digits : d.digits = other.digits := by
    unfold value at same
    rw [exponents] at same
    exact_mod_cast mul_right_cancel₀ scale same
  cases d
  cases other
  simp_all

end Decimal

namespace Literal

open NumeralFormat Numeral

def numeralOf (d : Decimal) : Numeral :=
  let ds := digitsOf d.digits
  let n := d.point
  if -6 < n ∧ n ≤ 21 then
    if (ds.length : Int) ≤ n then ⟨ds ++ zeros (n.toNat - ds.length), [], none⟩
    else if 0 < n then ⟨ds.take n.toNat, ds.drop n.toNat, none⟩
    else ⟨['0'], zeros (-n).toNat ++ ds, none⟩
  else ⟨ds.take 1, ds.drop 1, some (decide (n - 1 < 0), digitsOf (n - 1).natAbs)⟩

theorem exponentText_numerals (e : Int) :
    numerals.exponentText e = Numeral.exponentText (some (decide (e < 0), digitsOf e.natAbs)) := by
  have width : numerals.exponentWidth - (digitsOf e.natAbs).length = 0 := by
    have pos : 0 < (digitsOf e.natAbs).length := Nat.length_toDigits_pos
    show 1 - _ = 0
    omega
  unfold NumeralFormat.exponentText Numeral.exponentText
  dsimp only
  rw [width]
  by_cases negative : e < 0
  · rw [if_neg (by omega), decide_eq_true negative]
    rfl
  · rw [if_pos (by omega), decide_eq_false negative]
    rfl

theorem scientific_eq_text (ds : List Char) (n : Int) (present : ds ≠ []) :
    numerals.scientific ds n = Numeral.text
      ⟨ds.take 1, ds.drop 1, some (decide (n - 1 < 0), digitsOf (n - 1).natAbs)⟩ := by
  cases ds with
  | nil => exact absurd rfl present
  | cons first rest =>
    cases rest with
    | nil => simp [scientific, Numeral.text, exponentText_numerals]
    | cons second rest => simp [scientific, Numeral.text, exponentText_numerals]

theorem inPlace_eq_text (ds : List Char) (n : Int) (present : ds ≠ []) :
    numerals.inPlace ds n = Numeral.text
      (if (ds.length : Int) ≤ n then ⟨ds ++ zeros (n.toNat - ds.length), [], none⟩
      else if 0 < n then ⟨ds.take n.toNat, ds.drop n.toNat, none⟩
      else ⟨['0'], zeros (-n).toNat ++ ds, none⟩) := by
  have mark : numerals.wholeMark.toList = [] := rfl
  unfold inPlace
  split
  · simp [Numeral.text, Numeral.exponentText, mark]
  · split
    · have more : ds.drop n.toNat ≠ [] := by
        intro none
        have short := List.drop_eq_nil_iff.mp none
        omega
      simp only [Numeral.text, Numeral.exponentText, more, if_false, List.append_nil]
    · simp [Numeral.text, Numeral.exponentText, present]

/-- The text of a decimal is the text of its numeral. -/
theorem write_eq_text (d : Decimal) : numerals.write d = (numeralOf d).text := by
  have present := digitsOf_ne_nil d.digits
  unfold write numeralOf
  show (if (decide (-6 < d.point) && decide (d.point ≤ 21)) = true then _ else _) = _
  by_cases fixed : -6 < d.point ∧ d.point ≤ 21
  · rw [if_pos (by simpa using fixed)]
    dsimp only
    rw [if_pos fixed]
    exact inPlace_eq_text _ _ present
  · rw [if_neg (by simpa using fixed)]
    dsimp only
    rw [if_neg fixed]
    exact scientific_eq_text _ _ present

/-- A decimal is laid out in one of four ways. -/
theorem numeralOf_cases (d : Decimal) :
    let ds := digitsOf d.digits
    (-6 < d.point ∧ d.point ≤ 21 ∧ ∃ n : Nat, d.exponent = n ∧
      numeralOf d = ⟨ds ++ zeros n, [], none⟩) ∨
    (-6 < d.point ∧ d.point ≤ 21 ∧ ∃ n : Nat, 0 < n ∧ n < ds.length ∧ d.exponent = n - ds.length ∧
      numeralOf d = ⟨ds.take n, ds.drop n, none⟩) ∨
    (-6 < d.point ∧ d.point ≤ 21 ∧ ∃ n : Nat, d.exponent = -(n + ds.length) ∧
      numeralOf d = ⟨['0'], zeros n ++ ds, none⟩) ∨
    (¬ (-6 < d.point ∧ d.point ≤ 21) ∧ numeralOf d =
      ⟨ds.take 1, ds.drop 1, some (decide (d.point - 1 < 0), digitsOf (d.point - 1).natAbs)⟩) := by
  intro ds
  have position : d.point = d.exponent + ds.length := rfl
  have length : ds.length = (digitsOf d.digits).length := rfl
  unfold numeralOf
  dsimp only
  split
  · rename_i fixed
    split
    · rename_i whole
      refine Or.inl ⟨fixed.1, fixed.2, d.point.toNat - ds.length, ?_, rfl⟩
      omega
    · split
      · refine Or.inr (Or.inl ⟨fixed.1, fixed.2, d.point.toNat, ?_, ?_, ?_, rfl⟩) <;> omega
      · refine Or.inr (Or.inr (Or.inl ⟨fixed.1, fixed.2, (-d.point).toNat, ?_, rfl⟩))
        omega
  · rename_i free
    exact Or.inr (Or.inr (Or.inr ⟨free, rfl⟩))

theorem numeralOf_isWellFormed (d : Decimal) : (numeralOf d).IsWellFormed := by
  have digits := isDigit_digitsOf d.digits
  have present := digitsOf_ne_nil d.digits
  have length : 0 < (digitsOf d.digits).length := Nat.length_toDigits_pos
  rcases numeralOf_cases d with ⟨_, _, n, _, same⟩ | ⟨_, _, n, pos, _, _, same⟩ |
    ⟨_, _, n, _, same⟩ | ⟨_, same⟩ <;> rw [same]
  · refine ⟨⟨by simp [present], ?_⟩, by simp, by simp⟩
    intro c hc
    rcases List.mem_append.mp hc with own | added
    · exact digits c own
    · exact isDigit_zeros n c added
  · refine ⟨⟨?_, fun c hc => digits c (List.mem_of_mem_take hc)⟩,
      fun c hc => digits c (List.mem_of_mem_drop hc), by simp⟩
    intro none
    have empty := congrArg List.length none
    simp only [List.length_take, List.length_nil] at empty
    omega
  · refine ⟨⟨by simp, by simp⟩, ?_, by simp⟩
    intro c hc
    rcases List.mem_append.mp hc with added | own
    · exact isDigit_zeros n c added
    · exact digits c own
  · refine ⟨⟨?_, fun c hc => digits c (List.mem_of_mem_take hc)⟩,
      fun c hc => digits c (List.mem_of_mem_drop hc), ?_⟩
    · intro none
      have empty := congrArg List.length none
      simp only [List.length_take, List.length_nil] at empty
      omega
    · rintro negative es h
      cases h
      exact ⟨digitsOf_ne_nil _, isDigit_digitsOf _⟩

theorem power_digitsOf (e : Int) : power (some (decide (e < 0), digitsOf e.natAbs)) = e := by
  unfold power
  dsimp only
  rw [ofDigitChars_digitsOf]
  by_cases negative : e < 0
  · rw [decide_eq_true negative, if_pos rfl]
    omega
  · rw [decide_eq_false negative, if_neg (by decide)]
    omega

/-- The numeral of a decimal stands for it. -/
theorem value_numeralOf (d : Decimal) : (numeralOf d).value = d.value := by
  have own := ofDigitChars_digitsOf d.digits
  have length : 0 < (digitsOf d.digits).length := Nat.length_toDigits_pos
  unfold Decimal.value
  rcases numeralOf_cases d with ⟨_, _, n, exponent, same⟩ | ⟨_, _, n, _, fits, exponent, same⟩ |
    ⟨_, _, n, exponent, same⟩ | ⟨_, same⟩ <;> rw [same, Numeral.value]
  · rw [List.append_nil, Nat.ofDigitChars_append, own, ofDigitChars_zeros, exponent]
    simp [power]
  · rw [List.take_append_drop, own, exponent, List.length_drop, power]
    congr 2
    omega
  · rw [List.singleton_append, Nat.ofDigitChars_cons, Nat.ofDigitChars_append, ofDigitChars_zeros]
    have nothing : (10 * 0 + ('0'.toNat - '0'.toNat)) * 10 ^ n = 0 := by simp
    rw [nothing, own, exponent, power]
    congr 2
    simp [zeros]
  · rw [List.take_append_drop, own, power_digitsOf, List.length_drop, Decimal.point]
    congr 2
    omega

def signedText (negative : Bool) (d : Decimal) : String :=
  (if negative then "-" else "") ++ String.ofList (numerals.write d)

theorem read_write (d : Decimal) : Numeral.read (numerals.write d) = some (numeralOf d) := by
  rw [write_eq_text]
  exact read_text (numeralOf_isWellFormed d)

/-- A text without a sign begins with a digit. -/
theorem isDigit_of_head?_write (d : Decimal) :
    ∀ c ∈ (numerals.write d).head?, c.isDigit = true := by
  obtain ⟨present, digits⟩ := (numeralOf_isWellFormed d).whole
  rw [write_eq_text, Numeral.text, List.head?_append_of_ne_nil _ present]
  intro c hc
  exact digits c (List.mem_of_mem_head? hc)

theorem head?_write (d : Decimal) : (numerals.write d).head? ≠ some '-' := by
  intro minus
  have digit := isDigit_of_head?_write d '-' minus
  cases digit

/-- Texts tell signs and decimals apart. -/
theorem signedText_inj {d other : Decimal} (normal : d.IsNormal) (normal' : other.IsNormal)
    {s t : Bool} (same : signedText s d = signedText t other) : s = t ∧ d = other := by
  have chars := congrArg String.toList same
  simp only [signedText, String.toList_append, String.toList_ofList] at chars
  have unsigned : numerals.write d = numerals.write other → d = other := by
    intro text
    apply normal.eq_of_value normal'
    have read := read_write other
    rw [← text, read_write] at read
    rw [← value_numeralOf, ← value_numeralOf, Option.some.inj read]
  cases s with
  | false =>
    cases t with
    | false => exact ⟨rfl, unsigned (by simpa using chars)⟩
    | true =>
      have head := head?_write d
      rw [show numerals.write d = '-' :: numerals.write other by simpa using chars] at head
      exact absurd rfl head
  | true =>
    cases t with
    | false =>
      have head := head?_write other
      rw [show numerals.write other = '-' :: numerals.write d by simpa using chars.symm] at head
      exact absurd rfl head
    | true => exact ⟨rfl, unsigned (by simpa using chars)⟩

end Literal

/-- Whether a numeral is the one way to write a decimal. It stands for the decimal, and it has no
exponent exactly from the sixth place after the point up to the twenty-first before it. Then
nothing begins or ends with a zero that could be left out. Otherwise one digit stands before the
point and the others behind it, and the exponent does not begin with zero. -/
structure Numeral.Writes (x : Numeral) (d : Decimal) : Prop where
  value : x.value = d.value
  fixed_iff : x.exponent = none ↔ 10 ^ (-6 : ℤ) ≤ d.value ∧ d.value < 10 ^ (21 : ℤ)
  fixed_iff_point : x.exponent = none ↔ -6 < d.point ∧ d.point ≤ 21
  whole : x.exponent = none → x.whole = ['0'] ∨ x.whole.head? ≠ some '0'
  fraction : x.exponent = none → x.fraction.getLast? ≠ some '0'
  scientific : x.exponent ≠ none →
    x.whole.length = 1 ∧ x.whole ++ x.fraction = NumeralFormat.digitsOf d.digits ∧
      ∃ negative digits, x.exponent = some (negative, digits) ∧ digits.head? ≠ some '0'

namespace Literal

open NumeralFormat

theorem exponent_numeralOf (d : Decimal) :
    (numeralOf d).exponent = none ↔ -6 < d.point ∧ d.point ≤ 21 := by
  rcases numeralOf_cases d with ⟨low, high, n, _, same⟩ | ⟨low, high, n, _, _, _, same⟩ |
    ⟨low, high, n, _, same⟩ | ⟨free, same⟩ <;> rw [same]
  · exact ⟨fun _ => ⟨low, high⟩, fun _ => rfl⟩
  · exact ⟨fun _ => ⟨low, high⟩, fun _ => rfl⟩
  · exact ⟨fun _ => ⟨low, high⟩, fun _ => rfl⟩
  · refine ⟨?_, fun fixed => absurd fixed free⟩
    intro none
    cases none

/-- The numeral of a normal decimal is the one way to write it. -/
theorem numeralOf_writes {d : Decimal} (normal : d.IsNormal) : (numeralOf d).Writes d := by
  have first := head?_digitsOf normal.digits_ne_zero
  have last := getLast?_digitsOf normal
  have present := digitsOf_ne_nil d.digits
  have length : 0 < (digitsOf d.digits).length := Nat.length_toDigits_pos
  have value := value_numeralOf d
  have point := exponent_numeralOf d
  have fixed := point
  rw [Decimal.point_le_iff normal.digits_ne_zero, ← not_le,
    Decimal.point_le_iff normal.digits_ne_zero, not_lt] at fixed
  rcases numeralOf_cases d with ⟨_, _, n, _, same⟩ | ⟨_, _, n, pos, fits, _, same⟩ |
    ⟨_, _, n, _, same⟩ | ⟨free, same⟩ <;> rw [same] at value fixed point ⊢
  · refine ⟨value, fixed, point, fun _ => Or.inr ?_, fun _ => by simp, fun some => absurd rfl some⟩
    rwa [List.head?_append_of_ne_nil _ present]
  · refine ⟨value, fixed, point, fun _ => Or.inr ?_, fun _ => ?_, fun some => absurd rfl some⟩
    · rwa [List.head?_take, if_neg (by omega)]
    · rwa [List.getLast?_drop, if_neg (by omega)]
  · refine ⟨value, fixed, point, fun _ => Or.inl rfl, fun _ => ?_, fun some => absurd rfl some⟩
    rwa [List.getLast?_append_of_ne_nil _ present]
  · refine ⟨value, fixed, point, by simp, by simp, fun _ => ?_⟩
    refine ⟨?_, List.take_append_drop _ _, _, _, rfl, head?_digitsOf ?_⟩
    · rw [List.length_take]
      omega
    · omega

end Literal

namespace Decimal

open NumeralFormat

/-- Taking zeros off the end stops at a digit that is none. -/
theorem trimZeros_isNormal {fuel digits : Nat} (places : Nat) (exponent : Int)
    (positive : digits ≠ 0) (short : digits < 10 ^ places) (enough : places ≤ fuel) :
    (trimZeros fuel digits exponent).IsNormal := by
  induction fuel generalizing places digits exponent with
  | zero =>
    obtain rfl : places = 0 := by omega
    rw [Nat.pow_zero] at short
    omega
  | succ fuel ih =>
    rw [trimZeros]
    split
    · rename_i zero
      have multiple : digits % 10 = 0 := by simpa [positive] using zero
      cases places with
      | zero =>
        rw [Nat.pow_zero] at short
        omega
      | succ places =>
        rw [Nat.pow_succ] at short
        exact ih places _ (by omega) (by omega) (by omega)
    · rename_i other
      simpa [IsNormal, positive] using other

theorem tenTo_ratio (k : Int) :
    (Binary64.tenTo (-k) : ℚ) / Binary64.tenTo k = 10 ^ (-k) := by
  have power : ∀ e : Int, Binary64.tenTo e = 10 ^ e.toNat := fun _ => rfl
  rw [power, power]
  push_cast
  rw [← zpow_natCast, ← zpow_natCast, ← zpow_sub₀ (by norm_num)]
  congr 1
  omega

namespace Interval

/-- The double is between the powers of ten around its point. -/
theorem point_bounds {i : Interval} (value : i.value ≠ 0) (den : i.den ≠ 0) :
    (10 : ℚ) ^ (i.point - 1) ≤ i.value / i.den ∧ (i.value / i.den : ℚ) ≤ 10 ^ i.point := by
  have dpos : (0 : ℚ) < i.den := by exact_mod_cast Nat.pos_of_ne_zero den
  have vpos : (0 : ℚ) < i.value := by exact_mod_cast Nat.pos_of_ne_zero value
  unfold point
  split
  · rename_i large
    have quotient : i.value / i.den ≠ 0 := by
      have := Nat.div_pos large (Nat.pos_of_ne_zero den)
      omega
    obtain ⟨low, high⟩ := pow_length_digitsOf quotient
    have pos : 0 < (digitsOf (i.value / i.den)).length := Nat.length_toDigits_pos
    have length : Binary64.decimalLength (i.value / i.den) =
        (digitsOf (i.value / i.den)).length := rfl
    rw [length]
    generalize (digitsOf (i.value / i.den)).length = n at low high pos
    have shift : (n : Int) - 1 = (n - 1 : Nat) := by omega
    rw [shift, zpow_natCast, zpow_natCast, le_div_iff₀ dpos, div_le_iff₀ dpos]
    constructor
    · exact_mod_cast (Nat.le_div_iff_mul_le (Nat.pos_of_ne_zero den)).mp low
    · exact_mod_cast ((Nat.div_lt_iff_lt_mul (Nat.pos_of_ne_zero den)).mp high).le
  · rename_i small
    have quotient : i.den / i.value ≠ 0 := by
      have := Nat.div_pos (Nat.le_of_lt (Nat.not_le.mp small)) (Nat.pos_of_ne_zero value)
      omega
    obtain ⟨low, high⟩ := pow_length_digitsOf quotient
    have pos : 0 < (digitsOf (i.den / i.value)).length := Nat.length_toDigits_pos
    have length : Binary64.decimalLength (i.den / i.value) =
        (digitsOf (i.den / i.value)).length := rfl
    rw [length]
    generalize (digitsOf (i.den / i.value)).length = n at low high pos
    have shift : (1 : Int) - n - 1 = -(n : Int) := by omega
    have shift' : (1 : Int) - n = -((n - 1 : Nat) : Int) := by omega
    rw [shift, shift', zpow_neg, zpow_neg, zpow_natCast, zpow_natCast, inv_eq_one_div,
      inv_eq_one_div, div_le_div_iff₀ (by positivity) dpos, div_le_div_iff₀ dpos (by positivity),
      one_mul]
    constructor
    · have product := (Nat.div_lt_iff_lt_mul (Nat.pos_of_ne_zero value)).mp high
      rw [Nat.mul_comm] at product
      exact_mod_cast product.le
    · have product := (Nat.le_div_iff_mul_le (Nat.pos_of_ne_zero value)).mp low
      rw [Nat.mul_comm] at product
      exact_mod_cast product

theorem scaled_pos {i : Interval} (den : i.den ≠ 0) (k : Int) : 0 < (i.scaled k).2 :=
  Nat.mul_pos (Nat.pos_of_ne_zero den) (Nat.pow_pos (by decide))

theorem scaled_ratio (i : Interval) (k : Int) :
    ((i.scaled k).1 : ℚ) / (i.scaled k).2 = i.value / i.den * 10 ^ (-k) := by
  rw [← tenTo_ratio, div_mul_div_comm]
  show ((i.value * Binary64.tenTo (-k) : Nat) : ℚ) / ((i.den * Binary64.tenTo k : Nat) : ℚ) = _
  push_cast
  rfl

/-- The double on a grid has as many digits as there are places, or is the next power of ten. -/
theorem scaled_bounds {i : Interval} (value : i.value ≠ 0) (den : i.den ≠ 0) {places : Nat}
    (some : places ≠ 0) :
    let scaled := i.scaled (i.point - places)
    10 ^ (places - 1) ≤ scaled.1 / scaled.2 ∧ scaled.1 / scaled.2 ≤ 10 ^ places := by
  intro scaled
  obtain ⟨low, high⟩ := point_bounds value den
  have positive : 0 < scaled.2 := scaled_pos den _
  have positive' : (0 : ℚ) < scaled.2 := by exact_mod_cast positive
  have ratio : (scaled.1 : ℚ) / scaled.2 = i.value / i.den * 10 ^ (places - i.point) := by
    have own := scaled_ratio i (i.point - places)
    rwa [neg_sub] at own
  have scale : (0 : ℚ) < 10 ^ (places - i.point) := by positivity
  have lower : (10 : ℚ) ^ (places - 1) ≤ scaled.1 / scaled.2 := by
    rw [ratio]
    calc (10 : ℚ) ^ (places - 1) = 10 ^ ((places - 1 : Nat) : Int) := (zpow_natCast _ _).symm
      _ = 10 ^ (i.point - 1) * 10 ^ (places - i.point) := by
        rw [← zpow_add₀ (by norm_num)]
        congr 1
        omega
      _ ≤ i.value / i.den * 10 ^ (places - i.point) := mul_le_mul_of_nonneg_right low scale.le
  have upper : (scaled.1 : ℚ) / scaled.2 ≤ 10 ^ places := by
    rw [ratio]
    calc (i.value / i.den * 10 ^ (places - i.point) : ℚ)
        ≤ 10 ^ i.point * 10 ^ (places - i.point) := mul_le_mul_of_nonneg_right high scale.le
      _ = 10 ^ (places : Int) := by
        rw [← zpow_add₀ (by norm_num)]
        congr 1
        omega
      _ = 10 ^ places := zpow_natCast _ _
  rw [le_div_iff₀ positive'] at lower
  rw [div_le_iff₀ positive'] at upper
  constructor
  · exact (Nat.le_div_iff_mul_le positive).mpr (by exact_mod_cast lower)
  · apply Nat.div_le_of_le_mul
    rw [Nat.mul_comm]
    exact_mod_cast upper

theorem onGrid?_bounds {i : Interval} {k : Int} {n : Nat} (h : i.onGrid? k = some n) :
    (i.scaled k).1 / (i.scaled k).2 ≤ n ∧ n ≤ (i.scaled k).1 / (i.scaled k).2 + 1 := by
  unfold onGrid? at h
  dsimp only at h
  split at h
  · cases h
    exact Binary64.divRound_bounds _ _
  · cases h
    omega
  · cases h
    omega
  · cases h

/-- A search ends on the first grid with a hit, or on the last grid, where the double is rounded. -/
theorem search_cases (i : Interval) (fuel places : Nat) :
    ∃ p, places ≤ p ∧ p ≤ places + fuel ∧ (i.search fuel places).exponent = i.point - p ∧
      (∀ q, places ≤ q → q < p → i.onGrid? (i.point - q) = none) ∧
      (i.onGrid? (i.point - p) = some (i.search fuel places).digits ∨
        p = places + fuel ∧ (i.search fuel places).digits =
          Binary64.divRound (i.scaled (i.point - p)).1 (i.scaled (i.point - p)).2) := by
  induction fuel generalizing places with
  | zero => exact ⟨places, le_refl _, le_refl _, rfl, by omega, Or.inr ⟨rfl, rfl⟩⟩
  | succ fuel ih =>
    rw [search]
    split
    · rename_i n found
      exact ⟨places, le_refl _, by omega, rfl, by omega, Or.inl found⟩
    · rename_i missed
      obtain ⟨p, least, most, exponent, before, last⟩ := ih (places + 1)
      refine ⟨p, by omega, by omega, exponent, ?_, last.imp_right ?_⟩
      · intro q reached below
        by_cases first : q = places
        · rw [first]
          exact missed
        · exact before q (by omega) below
      · rintro ⟨rfl, rounded⟩
        exact ⟨by omega, rounded⟩

/-- Whatever grid a search ends on, it finds a neighbour of the double there. -/
theorem search_neighbour (i : Interval) (fuel places : Nat) :
    ∃ p, places ≤ p ∧ p ≤ places + fuel ∧ (i.search fuel places).exponent = i.point - p ∧
      (i.scaled (i.point - p)).1 / (i.scaled (i.point - p)).2 ≤ (i.search fuel places).digits ∧
      (i.search fuel places).digits ≤
        (i.scaled (i.point - p)).1 / (i.scaled (i.point - p)).2 + 1 := by
  obtain ⟨p, least, most, exponent, _, found | ⟨_, rounded⟩⟩ := search_cases i fuel places
  · exact ⟨p, least, most, exponent, onGrid?_bounds found⟩
  · refine ⟨p, least, most, exponent, ?_⟩
    rw [rounded]
    exact Binary64.divRound_bounds _ _

theorem search_bounds {i : Interval} (value : i.value ≠ 0) (den : i.den ≠ 0) (fuel places : Nat)
    (some : places ≠ 0) :
    (i.search fuel places).digits ≠ 0 ∧
      (i.search fuel places).digits ≤ 10 ^ (places + fuel) + 1 := by
  obtain ⟨p, least, most, _, below, above⟩ := search_neighbour i fuel places
  obtain ⟨low, high⟩ := scaled_bounds value den (show p ≠ 0 by omega)
  have positive : 0 < 10 ^ (p - 1) := Nat.pow_pos (by decide)
  have powers : 10 ^ p ≤ 10 ^ (places + fuel) := Nat.pow_le_pow_right (by decide) most
  omega

theorem around_positive {m : Nat} (nonzero : m ≠ 0) (e : Int) :
    (around m e).value ≠ 0 ∧ (around m e).den ≠ 0 := by
  have twos : ∀ k : Int, 0 < Binary64.twoTo k := fun k => Nat.pow_pos (by decide)
  constructor
  · exact Nat.ne_of_gt (Nat.mul_pos (by omega) (twos _))
  · exact Nat.ne_of_gt (twos _)

end Interval

/-- The shortest decimal of a double has no zeros at its end. -/
theorem shortest_isNormal {m : Nat} (nonzero : m ≠ 0) (e : Int) : (shortest m e).IsNormal := by
  obtain ⟨value, den⟩ := Interval.around_positive nonzero e
  obtain ⟨positive, small⟩ := Interval.search_bounds value den 17 1 (by decide)
  apply trimZeros_isNormal 19 _ positive _ (by decide)
  calc ((Interval.around m e).search 17 1).digits
      ≤ 10 ^ (1 + 17) + 1 := small
    _ < 10 ^ 19 := by decide

end Decimal

open Literal in
/-- The text of a number is the one way to write its shortest decimal. Every double but zero has a
shortest decimal without zeros at its end, and its text is the text of that decimal, behind a minus
sign where the double is negative. The text of any such decimal is read as a numeral that stands for
it and is laid out by its size, with no zero too many; and two such decimals, or one decimal under
two signs, never have the same text. -/
theorem doubleText_writes_shortest (negative : Bool) (m : Nat) (e : Int) (d : Decimal)
    (nonzero : m ≠ 0) (normal : d.IsNormal) :
    ((Decimal.shortest m e).IsNormal ∧
      doubleText (.finite negative m e) = signedText negative (Decimal.shortest m e) ∧
      doubleText (.finite true m e) = "-" ++ doubleText (.finite false m e)) ∧
    (∃ x, Numeral.read (numerals.write d) = some x ∧ x.Writes d) ∧
    signedText false d = String.ofList (numerals.write d) ∧
    signedText true d = "-" ++ signedText false d ∧
    ∀ (s t : Bool) (other : Decimal), other.IsNormal → signedText s d = signedText t other →
      s = t ∧ d = other := by
  have text : ∀ negative, doubleText (.finite negative m e) =
      signedText negative (Decimal.shortest m e) := by
    intro negative
    have counts : (m == 0) = false := by simpa using nonzero
    rw [doubleText, counts]
    rfl
  have plain : ∀ d, signedText false d = String.ofList (numerals.write d) := by
    intro d
    rw [signedText, if_neg (by decide), String.empty_append]
  have minus : ∀ d, signedText true d = "-" ++ signedText false d := by
    intro d
    rw [plain, signedText, if_pos rfl]
  refine ⟨⟨Decimal.shortest_isNormal nonzero e, text negative, ?_⟩,
    ⟨numeralOf d, read_write d, numeralOf_writes normal⟩, plain d, minus d, ?_⟩
  · rw [text, text]
    exact minus _
  · intro s t other normal' same
    exact signedText_inj normal normal' same

/-- The text of the double nearest to minus 0.0000015, and that of a decimal with an exponent. -/
theorem doubleText_writes_small :
    Decimal.shortest 7083549724304468 (-72) = ⟨15, -7⟩ ∧
    (Decimal.mk 25 20).IsNormal ∧
    Literal.doubleText (.finite true 7083549724304468 (-72)) =
      Literal.signedText true ⟨15, -7⟩ ∧
    ∃ x, Numeral.read "2.5e+21".toList = some x ∧ x.Writes ⟨25, 20⟩ := by
  have shortest : Decimal.shortest 7083549724304468 (-72) = ⟨15, -7⟩ := by decide +kernel
  have normal : (Decimal.mk 25 20).IsNormal := by
    unfold Decimal.IsNormal
    decide
  have text : Literal.numerals.write ⟨25, 20⟩ = "2.5e+21".toList := by decide +kernel
  obtain ⟨⟨_, double, _⟩, read, _⟩ :=
    doubleText_writes_shortest true 7083549724304468 (-72) ⟨25, 20⟩ (by decide) normal
  rw [shortest] at double
  rw [text] at read
  exact ⟨shortest, normal, double, read⟩

end NameLint
