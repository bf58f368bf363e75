import NameLint.Json.Reader
import NameLint.Text.Word
import NameLint.Yaml.Fault
import NameLint.Yaml.Tag

/-!
# Values of scalars

What the text of a scalar stands for under its tag. A tag that the text does not
fit is a fault, and which one it is depends on how the text is taken apart.
-/

namespace NameLint.Yaml.Scalar

/-- The value of a digit in a base of at most sixteen; decimal digits of any script count. -/
def digitIn? (base : Nat) (c : Char) : Option Nat :=
  match (Text.digitValue? c).or (Json.hexValue? c) with
  | some d => if d < base then some d else none
  | none => none

/-- The number that digits spell in a base, at least one and each of them in the base. -/
def digitsIn? (base : Nat) (cs : List Char) : Option Nat :=
  let step (n : Option Nat) (c : Char) : Option Nat := do
    return (← n) * base + (← digitIn? base c)
  if cs.isEmpty then none else cs.foldl step (some 0)

/-- The letter that may stand between a zero and the digits of a base. -/
def baseLetter? : Nat → Option Char
  | 2 => some 'b'
  | 8 => some 'o'
  | 16 => some 'x'
  | _ => none

def withoutBaseMark (base : Nat) (cs : List Char) : List Char :=
  match cs, baseLetter? base with
  | '0' :: c :: rest, some letter => if c.toLower == letter then rest else cs
  | _, _ => cs

/-- The whole number that a text spells in a base: blanks around it, a sign and the mark of the
base are admitted. -/
def wholeNumber? (base : Nat) (cs : List Char) : Option Int :=
  let body := Text.trimBlanks cs
  let digits := withoutBaseMark base (Tag.unsigned body)
  if base == 10 && Text.digitLimit < digits.length then none
  else do
    let n ← digitsIn? base digits
    return if body.head? == some '-' then -(n : Int) else n

/-- The digits at the front in the base ten, as their values, and what follows. -/
def digitRun : List Char → List Nat × List Char
  | [] => ([], [])
  | c :: rest =>
    match Text.digitValue? c with
    | some d =>
      let (ds, after) := digitRun rest
      (d :: ds, after)
    | none => ([], c :: rest)

def ofDigits (ds : List Nat) : Nat :=
  ds.foldl (fun n d => n * 10 + d) 0

def exponent? : List Char → Option Int
  | [] => some 0
  | e :: rest =>
    if e == 'e' || e == 'E' then
      match digitRun (Tag.unsigned rest) with
      | (d :: ds, []) =>
        let n : Int := ofDigits (d :: ds)
        some (if rest.head? == some '-' then -n else n)
      | _ => none
    else none

def unsignedDouble? (negative : Bool) (cs : List Char) : Option Binary64 :=
  let word := String.ofList (cs.map Char.toLower)
  if word == "inf" || word == "infinity" then some (.infinity negative)
  else if word == "nan" then some .nan
  else
    let (whole, rest) := digitRun cs
    let (places, rest) :=
      match rest with
      | '.' :: rest => digitRun rest
      | rest => ([], rest)
    if whole.isEmpty && places.isEmpty then none
    else do
      let power ← exponent? rest
      return .ofDecimal negative (ofDigits (whole ++ places)) (power - places.length)

/-- The double that a text spells: blanks around it and a sign are admitted. -/
def double? (cs : List Char) : Option Binary64 :=
  let body := Text.trimBlanks cs
  unsignedDouble? (body.head? == some '-') (Tag.unsigned body)

/-- The text without underscores, split into whether it begins with a minus sign and what follows
its sign. -/
def signed (text : String) : Except Fault (Bool × List Char) :=
  match text.toList.filter (· != '_') with
  | [] => throw .emptyScalar
  | '-' :: rest => return (true, rest)
  | '+' :: rest => return (false, rest)
  | cs => return (false, cs)

/-- A value that has to be there. -/
def orBad {α : Type} : Option α → Except Fault α
  | some a => return a
  | none => throw .badValue

/-- A number given by its digits to base sixty, the highest first. -/
def ofSixtieths (digits : List Int) : Int :=
  digits.foldl (fun n d => n * 60 + d) 0

def int (text : String) : Except Fault Int := do
  let (negative, cs) ← signed text
  let sign : Int := if negative then -1 else 1
  match cs with
  | [] => throw .emptyScalar
  | ['0'] => return 0
  | '0' :: 'b' :: rest => return sign * (← orBad (wholeNumber? 2 rest))
  | '0' :: 'x' :: rest => return sign * (← orBad (wholeNumber? 16 rest))
  | '0' :: rest => return sign * (← orBad (wholeNumber? 8 ('0' :: rest)))
  | cs =>
    if cs.contains ':' then
      return sign * ofSixtieths (← (Tag.sixtieths cs).mapM fun part => orBad (wholeNumber? 10 part))
    else return sign * (← orBad (wholeNumber? 10 cs))

/-- A double given by its digits to base sixty, the lowest first; `scale` is the weight of the
next. -/
def sumSixtieths (scale : Nat) (sum : Binary64) : List Binary64 → Except Fault Binary64
  | [] => return sum
  | d :: rest => do
    let weight := Binary64.ofInt scale
    if !weight.isFinite then throw .tooLarge
    sumSixtieths (scale * 60) (sum.add (d.mul weight)) rest

def float (text : String) : Except Fault Binary64 := do
  let (negative, cs) ← signed text
  let withSign (x : Binary64) : Binary64 := if negative then x.neg else x
  let word := String.ofList (cs.map Char.toLower)
  if word == ".inf" then return .infinity negative
  else if word == ".nan" then return .nan
  else if cs.contains ':' then
    let digits ← (Tag.sixtieths cs).mapM fun part => orBad (double? part)
    return withSign (← sumSixtieths 1 (.zero false) digits.reverse)
  else return withSign (← orBad (double? cs))

def bool (text : String) : Except Fault Bool :=
  let word := String.ofList (text.toList.map Char.toLower)
  if ["yes", "true", "on"].contains word then return true
  else if ["no", "false", "off"].contains word then return false
  else throw .unknownWord

def count (ds : List Char) : Nat :=
  Json.digitsValue ds

/-- The first six digits of a fraction, filled up with zeros. -/
def micros (fraction : List Char) : Nat :=
  count ((fraction ++ List.replicate 6 '0').take 6)

/-- A timestamp. One that does not exist is a bad value. -/
def timestamp (text : String) : Except Fault Timestamp := do
  match Tag.timestampParts? (Tag.withoutLineFeed text.toList) with
  | none => throw .noParts
  | some p =>
    let offset : Option Int :=
      match p.zone with
      | none => none
      | some none => some 0
      | some (some (sign, hours, minutes)) =>
        let o : Int := count hours * 60 + count minutes
        some (if sign == '-' then -o else o)
    let t : Timestamp :=
      { year := count p.year
        month := count p.month
        day := count p.day
        time := p.clock.map fun (hour, minute, second, fraction) =>
          ⟨count hour, count minute, count second, micros fraction, offset⟩ }
    if t.isValid then return t else throw .badValue

/-- The value of a character in the alphabet of sixty-four. -/
def sextet? (c : Char) : Option Nat :=
  if 'A' ≤ c && c ≤ 'Z' then some (c.toNat - 65)
  else if 'a' ≤ c && c ≤ 'z' then some (c.toNat - 71)
  else if c.isDigit then some (c.toNat + 4)
  else if c == '+' then some 62
  else if c == '/' then some 63
  else none

/-- Bytes from groups of four characters. `held` are the values of the current group in reverse,
`pads` the padding since the last of them. A full group or enough padding completes bytes; a group
that stays open is malformed, and other characters are passed over. -/
def sextetBytes (done : List UInt8) (held : List Nat) (pads : Nat) :
    List Char → Except Fault (List UInt8)
  | [] => if held.isEmpty then return done.reverse else throw .malformed
  | c :: rest =>
    if c == '=' then
      if 2 ≤ held.length && 4 ≤ held.length + pads + 1 then return done.reverse
      else if 2 ≤ held.length then sextetBytes done held (pads + 1) rest
      else sextetBytes done held pads rest
    else
      match sextet? c with
      | none => sextetBytes done held pads rest
      | some v =>
        match held with
        | [] => sextetBytes done [v] 0 rest
        | [a] => sextetBytes (UInt8.ofNat (a * 4 + v / 16) :: done) [v, a] 0 rest
        | [b, a] => sextetBytes (UInt8.ofNat (b % 16 * 16 + v / 4) :: done) [v, b, a] 0 rest
        | b :: _ => sextetBytes (UInt8.ofNat (b % 4 * 64 + v) :: done) [] 0 rest

def binary (text : String) : Except Fault (List UInt8) :=
  if text.toList.all fun c => c.toNat < 128 then sextetBytes [] [] 0 text.toList
  else throw .malformed

/-- The value of a scalar under a tag. Tags of collections and unknown tags have none. -/
def value (tag : Tag) (text : String) : Except Fault Value := do
  match tag with
  | .null => return .null
  | .bool => return .bool (← bool text)
  | .int => return .int (← int text)
  | .float => return .float (← float text)
  | .binary => return .bytes (← binary text)
  | .timestamp => return .stamp (← timestamp text)
  | .str => return .text text
  | _ => throw .malformed

end NameLint.Yaml.Scalar
