import NameLint.Binary64

/-!
# Numbers

A number is a whole number of any size or a double. Whole numbers meet doubles
by rounding, which fails where the whole number is past every finite double.
Comparison never rounds.
-/

namespace NameLint

inductive Number where
  | whole (n : Int)
  | double (x : Binary64)
  deriving DecidableEq, Repr, Inhabited

namespace Number

/-- The double nearest to the number; whole numbers past the last finite double have none. -/
def toDouble? : Number → Option Binary64
  | .whole n =>
    let x := Binary64.ofInt n
    if x.isFinite then some x else none
  | .double x => some x

/-- The sum, a whole number where both are; there is none where a whole number has no double. -/
def add? : Number → Number → Option Number
  | .whole m, .whole n => some (.whole (m + n))
  | a, b =>
    match a.toDouble?, b.toDouble? with
    | some x, some y => some (.double (x.add y))
    | _, _ => none

def neg : Number → Number
  | .whole n => .whole (-n)
  | .double x => .double x.neg

/-- The difference, under the rules of the sum. -/
def sub? (a b : Number) : Option Number :=
  a.add? b.neg

def compare? : Number → Number → Option Ordering
  | .whole m, .whole n => some (compare m n)
  | .whole m, .double y => Binary64.compareInt? m y
  | .double x, .whole n => (Binary64.compareInt? n x).map Ordering.swap
  | .double x, .double y => x.compare? y

/-- Whether the two numbers have one value. -/
def same (a b : Number) : Bool :=
  a.compare? b == some .eq

def atMost (a b : Number) : Bool :=
  a.compare? b == some .lt || a.compare? b == some .eq

def isZero : Number → Bool
  | .whole n => n == 0
  | .double x => x.isZero

end Number

end NameLint
