import NameLint.Fault

/-!
# Places for arguments

A place in a message says how its argument is written: flags, a width, a precision
and a letter for the kind of text. Whole numbers are written in one of three bases,
doubles with a fixed number of places, with an exponent, or in whichever of the two
suits their size. Every digit is taken from the exact value of the double, rounded
once, a tie going to the even digit.
-/

namespace NameLint.Log

structure Directive where
  left : Bool := false
  plus : Bool := false
  space : Bool := false
  alternate : Bool := false
  zero : Bool := false
  width : Nat := 0
  precision : Option Nat := none
  letter : Char := 's'
  deriving Repr

/-- No text is longer than this. -/
def longestText : Nat := 1000000000

namespace Directive

def padText (d : Directive) (s : String) : String :=
  let fill := String.ofList (List.replicate (d.width - s.length) ' ')
  if d.left then s ++ fill else fill ++ s

def sign (d : Directive) (negative : Bool) : String :=
  if negative then "-" else if d.plus then "+" else if d.space then " " else ""

/-- A number filled up to the width, by zeros between its front and its digits where they are asked
for. -/
def padNumber (d : Directive) (front digits : String) : String :=
  if d.zero && !d.left then
    let fill := List.replicate (d.width - front.length - digits.length) '0'
    front ++ String.ofList fill ++ digits
  else d.padText (front ++ digits)

def cutText (d : Directive) (s : String) : String :=
  match d.precision with
  | some n => String.ofList (s.toList.take n)
  | none => s

/-- The whole number that a decimal place takes from a value: doubles lose what follows the
point. -/
def whole : Value → Except Fault Int
  | .bool b => return if b then 1 else 0
  | .int n => return n
  | .float (.finite s m e) =>
    let size : Nat := if 0 ≤ e then m * Binary64.twoTo e else m / Binary64.twoTo (-e)
    return if s then -(size : Int) else size
  | .float (.infinity _) => throw .tooLarge
  | .float .nan => throw .badValue
  | _ => throw .wrongKind

/-- The whole number that a place in another base takes from a value. -/
def exactWhole : Value → Except Fault Int
  | .bool b => return if b then 1 else 0
  | .int n => return n
  | _ => throw .wrongKind

def mostDigits : Nat := 2147483644

def wholeText (d : Directive) (base : Nat) (mark : String) (n : Int) : Except Fault String := do
  let asked := d.precision.getD 0
  if mostDigits < asked then throw .tooLarge
  if longestText < asked then throw .outOfMemory
  let digits := Nat.toDigits base n.natAbs
  let fill := List.replicate (asked - digits.length) '0'
  return d.padNumber (d.sign (n < 0) ++ (if d.alternate then mark else ""))
    (String.ofList (fill ++ digits))

/-- No double has more digits than this, on either side of the point. -/
def exactPlaces : Nat := 1100

/-- The first `places` digits of a double without its sign, rounded, and the position of the
point. -/
def leading (m : Nat) (e : Int) (places : Nat) : List Char × Int :=
  if m == 0 then (List.replicate places '0', 1)
  else
    let i := Decimal.Interval.around m e
    let (num, den) := i.scaled (i.point - places)
    let n := Binary64.divRound num den
    if n == Binary64.tenTo places then (Nat.toDigits 10 (n / 10), i.point + 1)
    else (Nat.toDigits 10 n, i.point)

/-- Digits with the point after the first of them and an exponent. -/
def withExponent (d : Directive) (ds : List Char) (point : Int) : List Char :=
  let marked :=
    match ds with
    | [] => []
    | [c] => if d.alternate then [c, '.'] else [c]
    | c :: rest => c :: '.' :: rest
  marked ++ NumeralFormat.exponentText Value.numerals (point - 1)

def withPoint (d : Directive) (ds : List Char) (point : Int) : List Char :=
  if point ≤ 0 then '0' :: '.' :: List.replicate (-point).toNat '0' ++ ds
  else
    let front := ds.take point.toNat
    let back := ds.drop point.toNat
    front ++ List.replicate (point.toNat - front.length) '0' ++
      (if back.isEmpty && !d.alternate then [] else '.' :: back)

def fixed (d : Directive) (m : Nat) (e : Int) (places : Nat) : List Char :=
  let exact := min places exactPlaces
  let scaled :=
    if 0 ≤ e then m * Binary64.twoTo e * Binary64.tenTo exact
    else Binary64.divRound (m * Binary64.tenTo exact) (Binary64.twoTo (-e))
  let ds := Nat.toDigits 10 scaled
  let ds := List.replicate (exact + 1 - ds.length) '0' ++ ds
  let ds := ds ++ List.replicate (places - exact) '0'
  d.withPoint ds (ds.length - places : Nat)

def scientific (d : Directive) (m : Nat) (e : Int) (places : Nat) : List Char :=
  let exact := min places exactPlaces
  let (ds, point) := leading m e (exact + 1)
  d.withExponent (ds ++ List.replicate (places - exact) '0') point

/-- Digits without the zeros at their end; the first one stays. -/
def trimmed : List Char → List Char
  | [] => []
  | c :: rest => c :: (rest.reverse.dropWhile (· == '0')).reverse

/-- A double with `places` digits in all. Very small ones, and those with more digits before the
point, have an exponent; zeros at the end are left out unless they are asked for. -/
def general (d : Directive) (m : Nat) (e : Int) (places : Nat) : List Char :=
  let places := max places 1
  let exact := min places exactPlaces
  let (ds, point) := leading m e exact
  let ds := if d.alternate then ds ++ List.replicate (places - exact) '0' else trimmed ds
  if point ≤ -4 || (places : Int) < point then d.withExponent ds point else d.withPoint ds point

/-- A double written as the lower case letter says. -/
def doubleText (d : Directive) (letter : Char) (x : Binary64) : Except Fault String := do
  match x with
  | .nan => return d.padNumber (d.sign false) "nan"
  | .infinity s => return d.padNumber (d.sign s) "inf"
  | .finite s m e =>
    let places := d.precision.getD 6
    if longestText < places && (letter != 'g' || d.alternate) then throw .outOfMemory
    let text :=
      if letter == 'e' then d.scientific m e places
      else if letter == 'f' then d.fixed m e places
      else d.general m e places
    return d.padNumber (d.sign s) (String.ofList text)

def double (v : Value) : Except Fault Binary64 :=
  match v.number? with
  | none => throw .wrongKind
  | some n => n.toDouble?.elim (throw .tooLarge) pure

/-- The character that a value stands for: a text of length one, or a code point. -/
def character : Value → Except Fault String
  | .text s => if s.length == 1 then return s else throw .wrongKind
  | v => do
    let n ← exactWhole v
    if n < 0 || 0x110000 ≤ n then throw .tooLarge
    return (Char.ofNat n.toNat).toString

def asciiText (v : Value) : String :=
  String.ofList (v.written.toList.flatMap fun c =>
    if c.toNat < 128 then [c] else Text.escapeCode c.toNat)

def filled (d : Directive) (v : Value) : Except Fault String :=
  match d.letter with
  | 's' => return d.padText (d.cutText v.shown)
  | 'r' => return d.padText (d.cutText v.written)
  | 'a' => return d.padText (d.cutText (asciiText v))
  | 'd' => do d.wholeText 10 "" (← whole v)
  | 'i' => do d.wholeText 10 "" (← whole v)
  | 'u' => do d.wholeText 10 "" (← whole v)
  | 'x' => do d.wholeText 16 "0x" (← exactWhole v)
  | 'X' => do return (← d.wholeText 16 "0x" (← exactWhole v)).toUpper
  | 'o' => do d.wholeText 8 "0o" (← exactWhole v)
  | 'e' => do d.doubleText 'e' (← double v)
  | 'f' => do d.doubleText 'f' (← double v)
  | 'g' => do d.doubleText 'g' (← double v)
  | 'E' => do return (← d.doubleText 'e' (← double v)).toUpper
  | 'F' => do return (← d.doubleText 'f' (← double v)).toUpper
  | 'G' => do return (← d.doubleText 'g' (← double v)).toUpper
  | 'c' => do return d.padText (← character v)
  | _ => throw .badValue

/-- The text of an argument. A width that no text can have is refused last. -/
def write (d : Directive) (v : Value) : Except Fault String :=
  if longestText < d.width then do
    let _ ← ({ d with width := 0 } : Directive).filled v
    throw .outOfMemory
  else d.filled v

end Directive

end NameLint.Log
