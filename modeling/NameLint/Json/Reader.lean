import NameLint.Value

/-!
# Reading JSON

The reader keeps what later stages look at: the order of keys, and whether a
number was written as a whole number or with a point or exponent. It also takes the
words for doubles that are no finite numbers. It works on the characters still to be
read and hands back what it left. `fuel` bounds the number
of nested steps; `Json.read?` gives it more than the text can use.
-/

namespace NameLint.Json

/-- Whether the character may stand between tokens. -/
def isSpace (c : Char) : Bool :=
  c == ' ' || c == '\t' || c == '\n' || c == '\r'

def skipSpace (cs : List Char) : List Char :=
  cs.dropWhile isSpace

def hexValue? (c : Char) : Option Nat :=
  if c.isDigit then some (c.toNat - 48)
  else if 'a' ≤ c && c ≤ 'f' then some (c.toNat - 87)
  else if 'A' ≤ c && c ≤ 'F' then some (c.toNat - 55)
  else none

def unit? (a b c d : Char) : Option Nat := do
  let a ← hexValue? a
  let b ← hexValue? b
  let c ← hexValue? c
  let d ← hexValue? d
  return ((a * 16 + b) * 16 + c) * 16 + d

def isHigh (u : Nat) : Bool :=
  0xD800 ≤ u && u < 0xDC00

def isLow (u : Nat) : Bool :=
  0xDC00 ≤ u && u < 0xE000

def pairCode (high low : Nat) : Nat :=
  0x10000 + (high - 0xD800) * 0x400 + (low - 0xDC00)

/-- What was read, in reverse, once nothing completes the half of a pair at its end: the half stands
for the replacement character. -/
def settled (done : List Char) : Option Nat → List Char
  | none => done
  | some _ => '\uFFFD' :: done

/-- What was read, in reverse, and the half of a pair at its end, after one more code unit. -/
def addUnit (done : List Char) (high : Option Nat) (u : Nat) : List Char × Option Nat :=
  match high, isLow u with
  | some h, true => (Char.ofNat (pairCode h u) :: done, none)
  | none, true => ('\uFFFD' :: done, none)
  | _, false =>
    if isHigh u then (settled done high, some u)
    else (Char.ofNat u :: settled done high, none)

def escapeLetter? : Char → Option Char
  | '"' => some '"'
  | '\\' => some '\\'
  | '/' => some '/'
  | 'b' => some '\x08'
  | 'f' => some '\x0C'
  | 'n' => some '\n'
  | 'r' => some '\r'
  | 't' => some '\t'
  | _ => none

/-- The text up to the closing quote. What was read so far is `done`, in reverse, and `high` is the
first half of a pair at its end. -/
def textTail (done : List Char) (high : Option Nat) : List Char → Option (String × List Char)
  | [] => none
  | '"' :: rest => some (String.ofList (settled done high).reverse, rest)
  | '\\' :: 'u' :: a :: b :: c :: d :: rest =>
    match unit? a b c d with
    | some u => textTail (addUnit done high u).1 (addUnit done high u).2 rest
    | none => none
  | '\\' :: letter :: rest =>
    match escapeLetter? letter with
    | some c => textTail (c :: settled done high) none rest
    | none => none
  | c :: rest => textTail (c :: settled done high) none rest

def digitsValue (ds : List Char) : Nat :=
  ds.foldl (fun n d => n * 10 + (d.toNat - 48)) 0

def exponent? : List Char → Option (Option Int × List Char)
  | e :: rest =>
    if e == 'e' || e == 'E' then
      let (negative, rest) :=
        match rest with
        | '-' :: rest => (true, rest)
        | '+' :: rest => (false, rest)
        | rest => (false, rest)
      let ds := rest.takeWhile Char.isDigit
      if ds.isEmpty then none
      else
        let n : Int := digitsValue ds
        some (some (if negative then -n else n), rest.dropWhile Char.isDigit)
    else some (none, e :: rest)
  | [] => some (none, [])

def fraction? : List Char → Option (List Char × List Char)
  | '.' :: rest =>
    let ds := rest.takeWhile Char.isDigit
    if ds.isEmpty then none else some (ds, rest.dropWhile Char.isDigit)
  | rest => some ([], rest)

/-- A number. It is a whole number unless it has a point or an exponent. -/
def number? (negative : Bool) (cs : List Char) : Option (Value × List Char) := do
  let whole := cs.takeWhile Char.isDigit
  if whole.isEmpty then none
  let (places, rest) ← fraction? (cs.dropWhile Char.isDigit)
  let (power, rest) ← exponent? rest
  if places.isEmpty && power.isNone then
    let n : Int := digitsValue whole
    return (.int (if negative then -n else n), rest)
  else
    let exponent := power.getD 0 - places.length
    return (.float (.ofDecimal negative (digitsValue (whole ++ places)) exponent), rest)

/-- What follows the word for what is past every number. -/
def infinity? : List Char → Option (List Char)
  | 'I' :: 'n' :: 'f' :: 'i' :: 'n' :: 'i' :: 't' :: 'y' :: rest => some rest
  | _ => none

mutual

def value? : Nat → List Char → Option (Value × List Char)
  | 0, _ => none
  | fuel + 1, cs =>
    match skipSpace cs with
    | 'n' :: 'u' :: 'l' :: 'l' :: rest => some (.null, rest)
    | 't' :: 'r' :: 'u' :: 'e' :: rest => some (.bool true, rest)
    | 'f' :: 'a' :: 'l' :: 's' :: 'e' :: rest => some (.bool false, rest)
    | '"' :: rest => do
      let (s, rest) ← textTail [] none rest
      return (.text s, rest)
    | '[' :: rest =>
      match skipSpace rest with
      | ']' :: rest => some (.list [], rest)
      | rest => items? fuel [] rest
    | '\x7b' :: rest =>
      match skipSpace rest with
      | '\x7d' :: rest => some (.map [], rest)
      | rest => entries? fuel [] rest
    | 'N' :: 'a' :: 'N' :: rest => some (.float .nan, rest)
    | '-' :: rest =>
      match infinity? rest with
      | some rest => some (.float (.infinity true), rest)
      | none => number? true rest
    | rest =>
      match infinity? rest with
      | some rest => some (.float (.infinity false), rest)
      | none => number? false rest

/-- The items of a list up to its closing bracket; those read so far are in reverse. -/
def items? : Nat → List Value → List Char → Option (Value × List Char)
  | 0, _, _ => none
  | fuel + 1, done, cs => do
    let (v, rest) ← value? fuel cs
    match skipSpace rest with
    | ',' :: rest => items? fuel (v :: done) rest
    | ']' :: rest => return (.list (v :: done).reverse, rest)
    | _ => none

/-- The entries of an object up to its closing bracket; those read so far are in reverse. -/
def entries? : Nat → List (Value × Value) → List Char → Option (Value × List Char)
  | 0, _, _ => none
  | fuel + 1, done, cs =>
    match skipSpace cs with
    | '"' :: rest => do
      let (k, rest) ← textTail [] none rest
      match skipSpace rest with
      | ':' :: rest =>
        let (v, rest) ← value? fuel rest
        match skipSpace rest with
        | ',' :: rest => entries? fuel ((.text k, v) :: done) rest
        | '\x7d' :: rest => return (.map ((.text k, v) :: done).reverse, rest)
        | _ => none
      | _ => none
    | _ => none

end

/-- The value that a text stands for; nothing but spaces may follow it. -/
def read? (text : String) : Option Value := do
  let cs := text.toList
  let (v, rest) ← value? (cs.length + 1) cs
  if (skipSpace rest).isEmpty then return v else none

end NameLint.Json
