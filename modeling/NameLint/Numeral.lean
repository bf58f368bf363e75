import NameLint.Binary64

/-!
# Decimal numerals

`Decimal.shortest` finds the fewest decimal digits that read back as a given
double, and among those the ones nearest to it. A `NumeralFormat` then decides
how the digits are laid out: in which range the point is written in place, and
how an exponent looks.
-/

namespace NameLint

/-- The number `digits * 10 ^ exponent`. -/
structure Decimal where
  digits : Nat
  exponent : Int
  deriving DecidableEq, Repr, Inhabited

namespace Decimal

/-- Trailing zeros move into the exponent, at most `fuel` of them. -/
def trimZeros : Nat → Nat → Int → Decimal
  | 0, digits, exponent => ⟨digits, exponent⟩
  | fuel + 1, digits, exponent =>
    if digits != 0 && digits % 10 == 0 then trimZeros fuel (digits / 10) (exponent + 1)
    else ⟨digits, exponent⟩

/-- The reals that round to a positive double, as numerators over `den`: the double itself, the
ends of the interval, and whether the ends belong to it. -/
structure Interval where
  value : Nat
  low : Nat
  high : Nat
  den : Nat
  closed : Bool

/-- The interval around `mantissa * 2 ^ exponent`. The lower neighbour is nearer where the
mantissa is the least one and the exponent is not. -/
def Interval.around (mantissa : Nat) (exponent : Int) : Interval :=
  let below := if mantissa == Binary64.leastMantissa && exponent != Binary64.leastExponent
    then 1 else 2
  let shift := exponent - 2
  let scale := Binary64.twoTo shift
  { value := 4 * mantissa * scale
    low := (4 * mantissa - below) * scale
    high := (4 * mantissa + 2) * scale
    den := Binary64.twoTo (-shift)
    closed := mantissa % 2 == 0 }

/-- Numerator over `den` and multiplier of the interval for a comparison with `n * 10 ^ k`. -/
def Interval.onGrid (i : Interval) (n : Nat) (k : Int) : Nat × Nat :=
  (n * Binary64.tenTo k * i.den, Binary64.tenTo (-k))

/-- Whether `n * 10 ^ k` rounds to the double. -/
def Interval.holds (i : Interval) (n : Nat) (k : Int) : Bool :=
  let (point, scale) := i.onGrid n k
  if i.closed then i.low * scale ≤ point && point ≤ i.high * scale
  else i.low * scale < point && point < i.high * scale

/-- The position of the decimal point: the double is in `[10 ^ (p - 1), 10 ^ p)`. -/
def Interval.point (i : Interval) : Int :=
  if i.den ≤ i.value then Binary64.decimalLength (i.value / i.den)
  else 1 - (Binary64.decimalLength (i.den / i.value) : Int)

/-- The double divided by `10 ^ k`, as a quotient. -/
def Interval.scaled (i : Interval) (k : Int) : Nat × Nat :=
  (i.value * Binary64.tenTo (-k), i.den * Binary64.tenTo k)

/-- The nearer of the two neighbours on the grid `10 ^ k` that rounds to the double; of two at the
same distance the even one. -/
def Interval.onGrid? (i : Interval) (k : Int) : Option Nat :=
  let (num, den) := i.scaled k
  let n := num / den
  match i.holds n k, i.holds (n + 1) k with
  | true, true => some (Binary64.divRound num den)
  | true, false => some n
  | false, true => some (n + 1)
  | false, false => none

/-- The first grid with a hit, from `places` digits on, looking at `fuel` grids. -/
def Interval.search (i : Interval) : Nat → Nat → Decimal
  | 0, places =>
    let k := i.point - places
    let (num, den) := i.scaled k
    ⟨Binary64.divRound num den, k⟩
  | fuel + 1, places =>
    let k := i.point - places
    match i.onGrid? k with
    | some n => ⟨n, k⟩
    | none => i.search fuel (places + 1)

/-- The fewest digits that read back as the positive double `mantissa * 2 ^ exponent`. -/
def shortest (mantissa : Nat) (exponent : Int) : Decimal :=
  let found := (Interval.around mantissa exponent).search 17 1
  trimZeros 400 found.digits found.exponent

end Decimal

structure NumeralFormat where
  /-- The point is written in place only where its position is above this one. -/
  above : Int
  /-- The point is written in place only up to this position. -/
  upTo : Int
  /-- What follows a whole number written in place. -/
  wholeMark : String
  /-- The least number of digits of an exponent. -/
  exponentWidth : Nat

namespace NumeralFormat

def zeros (n : Nat) : List Char :=
  List.replicate n '0'

def digitsOf (n : Nat) : List Char :=
  Nat.toDigits 10 n

/-- An exponent with its sign and its least width. -/
def exponentText (f : NumeralFormat) (e : Int) : List Char :=
  let ds := digitsOf e.natAbs
  'e' :: (if 0 ≤ e then '+' else '-') :: (zeros (f.exponentWidth - ds.length) ++ ds)

def inPlace (f : NumeralFormat) (ds : List Char) (n : Int) : List Char :=
  if (ds.length : Int) ≤ n then ds ++ zeros (n.toNat - ds.length) ++ f.wholeMark.toList
  else if 0 < n then ds.take n.toNat ++ '.' :: ds.drop n.toNat
  else '0' :: '.' :: (zeros (-n).toNat ++ ds)

def scientific (f : NumeralFormat) (ds : List Char) (n : Int) : List Char :=
  match ds with
  | [] => []
  | [d] => d :: f.exponentText (n - 1)
  | d :: rest => d :: '.' :: rest ++ f.exponentText (n - 1)

def write (f : NumeralFormat) (d : Decimal) : List Char :=
  let ds := digitsOf d.digits
  let n := d.exponent + ds.length
  if f.above < n && n ≤ f.upTo then f.inPlace ds n else f.scientific ds n

end NumeralFormat

end NameLint
