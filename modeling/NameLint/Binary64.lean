/-!
# Double precision numbers

A double is kept as data: a sign, a whole mantissa and a power of two. Every
operation is exact integer arithmetic followed by one rounding to the nearest
double, ties to the even mantissa, so nothing here rests on machine floats.

Finite doubles built by `Binary64.round` have a mantissa below `2 ^ 53` and an
exponent of at least `-1074`; the mantissa is at least `2 ^ 52` unless the
exponent is the least one.
-/

namespace NameLint

inductive Binary64 where
  | nan
  | infinity (negative : Bool)
  | finite (negative : Bool) (mantissa : Nat) (exponent : Int)
  deriving DecidableEq, Repr, Inhabited

namespace Binary64

def leastExponent : Int := -1074

def greatestExponent : Int := 971

/-- Two to a power; negative powers count as the power zero. -/
def twoTo (e : Int) : Nat :=
  Nat.pow 2 e.toNat

/-- Ten to a power; negative powers count as the power zero. -/
def tenTo (e : Int) : Nat :=
  Nat.pow 10 e.toNat

/-- The least mantissa of 53 binary digits. -/
def leastMantissa : Nat := 4503599627370496

/-- The whole number nearest to `num / den`; a tie goes to the even one. -/
def divRound (num den : Nat) : Nat :=
  let q := num / den
  let r := num % den
  if 2 * r > den || (2 * r == den && q % 2 == 1) then q + 1 else q

/-- Numerator and denominator of `num / den` divided by `2 ^ e`. -/
def scaleDown (num den : Nat) (e : Int) : Nat × Nat :=
  if 0 ≤ e then (num, den * twoTo e) else (num * twoTo (-e), den)

/-- The exponent at which `num / den` has a mantissa of 53 binary digits, or the least exponent. -/
def exponentFor (num den : Nat) : Int :=
  let guess : Int := (Nat.log2 num : Int) - Nat.log2 den - 52
  let scaled := scaleDown num den guess
  let exact := if scaled.1 < leastMantissa * scaled.2 then guess - 1 else guess
  max exact leastExponent

/-- A mantissa of 54 binary digits is halved; what is too large is infinite. -/
def pack (negative : Bool) (mantissa : Nat) (exponent : Int) : Binary64 :=
  let carried := mantissa == 2 * leastMantissa
  let m := if carried then leastMantissa else mantissa
  let e := if carried then exponent + 1 else exponent
  if greatestExponent < e then .infinity negative else .finite negative m e

def zero (negative : Bool) : Binary64 :=
  .finite negative 0 leastExponent

/-- The double nearest to `num / den` with the given sign. -/
def round (negative : Bool) (num den : Nat) : Binary64 :=
  if num == 0 then zero negative
  else
    let e := exponentFor num den
    let scaled := scaleDown num den e
    pack negative (divRound scaled.1 scaled.2) e

def ofInt (n : Int) : Binary64 :=
  round (n < 0) n.natAbs 1

def decimalLength (n : Nat) : Nat :=
  (Nat.toDigits 10 n).length

/-- The double nearest to `digits * 10 ^ exponent` with the given sign. Exponents far outside the
range of doubles are settled by the number of digits alone. -/
def ofDecimal (negative : Bool) (digits : Nat) (exponent : Int) : Binary64 :=
  if digits == 0 then zero negative
  else
    let top := exponent + decimalLength digits
    if 400 < top then .infinity negative
    else if top < -400 then zero negative
    else if 0 ≤ exponent then round negative (digits * tenTo exponent) 1
    else round negative digits (tenTo (-exponent))

def isFinite : Binary64 → Bool
  | .finite _ _ _ => true
  | _ => false

def isZero : Binary64 → Bool
  | .finite _ m _ => m == 0
  | _ => false

def neg : Binary64 → Binary64
  | .nan => .nan
  | .infinity s => .infinity (!s)
  | .finite s m e => .finite (!s) m e

/-- A finite double in units of `2 ^ leastExponent`; the other doubles count nothing. -/
def units : Binary64 → Int
  | .finite s m e =>
    let size : Int := (m * twoTo (e - leastExponent) : Nat)
    if s then -size else size
  | _ => 0

def ofUnits (negativeZero : Bool) (n : Int) : Binary64 :=
  round (if n == 0 then negativeZero else n < 0) n.natAbs (twoTo (-leastExponent))

/-- Addition, rounded once. -/
def add : Binary64 → Binary64 → Binary64
  | .nan, _ => .nan
  | _, .nan => .nan
  | .infinity s, .infinity t => if s == t then .infinity s else .nan
  | .infinity s, .finite _ _ _ => .infinity s
  | .finite _ _ _, .infinity t => .infinity t
  | .finite s m e, .finite t k f =>
    ofUnits (s && t) ((finite s m e).units + (finite t k f).units)

/-- Multiplication, rounded once. -/
def mul : Binary64 → Binary64 → Binary64
  | .nan, _ => .nan
  | _, .nan => .nan
  | .infinity s, .infinity t => .infinity (s != t)
  | .infinity s, .finite t m _ => if m == 0 then .nan else .infinity (s != t)
  | .finite s m _, .infinity t => if m == 0 then .nan else .infinity (s != t)
  | .finite s m e, .finite t k f =>
    let exponent := e + f
    if 0 ≤ exponent then round (s != t) (m * k * twoTo exponent) 1
    else round (s != t) (m * k) (twoTo (-exponent))

/-- The order of two doubles; a double that is no number has no place in it. -/
def compare? : Binary64 → Binary64 → Option Ordering
  | .nan, _ => none
  | _, .nan => none
  | .infinity s, .infinity t => some (if s == t then .eq else if s then .lt else .gt)
  | .infinity s, .finite _ _ _ => some (if s then .lt else .gt)
  | .finite _ _ _, .infinity t => some (if t then .gt else .lt)
  | .finite s m e, .finite t k f =>
    some (compare (finite s m e).units (finite t k f).units)

/-- The exact order of a whole number and a double. -/
def compareInt? (n : Int) : Binary64 → Option Ordering
  | .nan => none
  | .infinity s => some (if s then .gt else .lt)
  | .finite s m e => some (compare (n * twoTo (-leastExponent)) (finite s m e).units)

end Binary64

end NameLint
