import NameLint.Text.Word

/-!
# Tags

A tag says what a node stands for. A plain scalar without a tag gets one from its
text: the first of the forms below that it has. A form may have one line feed
behind it, except that the empty text is null only as such.
-/

namespace NameLint.Yaml

inductive Tag where
  | null
  | bool
  | int
  | float
  | binary
  | timestamp
  | omap
  | pairs
  | set
  | str
  | seq
  | map
  | merge
  | value
  | other
  deriving DecidableEq, Repr, Inhabited

namespace Tag

/-- What the names of the known tags begin with. -/
def family : String := "tag:yaml.org,2002:"

def named : List (String × Tag) :=
  [("null", .null), ("bool", .bool), ("int", .int), ("float", .float), ("binary", .binary),
    ("timestamp", .timestamp), ("omap", .omap), ("pairs", .pairs), ("set", .set), ("str", .str),
    ("seq", .seq), ("map", .map), ("merge", .merge), ("value", .value)]

def ofText (text : String) : Tag :=
  match named.find? (fun e => family ++ e.1 == text) with
  | some e => e.2
  | none => .other

/-- Whether `c` is a digit below the base, which is at most ten. -/
def isDigitBelow (base : Nat) (c : Char) : Bool :=
  c.isDigit && c.toNat - 48 < base

def isDigitPart (c : Char) : Bool :=
  c.isDigit || c == '_'

def isHexPart (c : Char) : Bool :=
  isDigitPart c || ('a' ≤ c && c ≤ 'f') || ('A' ≤ c && c ≤ 'F')

def unsigned : List Char → List Char
  | '-' :: rest => rest
  | '+' :: rest => rest
  | cs => cs

def boolWords : List String :=
  ["yes", "Yes", "YES", "no", "No", "NO", "true", "True", "TRUE", "false", "False", "FALSE",
    "on", "On", "ON", "off", "Off", "OFF"]

/-- Nothing, or a signed exponent. -/
def isExponent : List Char → Bool
  | [] => true
  | e :: sign :: rest =>
    (e == 'e' || e == 'E') && (sign == '-' || sign == '+') && !rest.isEmpty &&
      rest.all Char.isDigit
  | _ => false

/-- Digits after a point, and possibly an exponent. -/
def isFraction (cs : List Char) : Bool :=
  isExponent (cs.dropWhile isDigitPart)

/-- The parts of a text between colons. -/
def sixtieths (cs : List Char) : List (List Char) :=
  cs.splitOn ':'

/-- Whether the characters are one digit, or two of which the first is below six. -/
def isSixtieth : List Char → Bool
  | [d] => d.isDigit
  | [t, d] => isDigitBelow 6 t && d.isDigit
  | _ => false

/-- Whether the characters are a first part and further parts to base sixty, at least one. -/
def isSexagesimal (first : List Char → Bool) (cs : List Char) : Bool :=
  match sixtieths cs with
  | a :: b :: rest => first a && (b :: rest).all isSixtieth
  | _ => false

/-- Whether the characters are digits with underscores between and behind them. -/
def isDigits : List Char → Bool
  | [] => false
  | d :: rest => d.isDigit && rest.all isDigitPart

def isFloat (cs : List Char) : Bool :=
  let body := unsigned cs
  let whole := body.takeWhile (· != '.')
  let isPointed :=
    match body.dropWhile (· != '.') with
    | '.' :: places =>
      (isDigits whole && isFraction places) ||
        (isSexagesimal isDigits whole && places.all isDigitPart)
    | _ => false
  let isBare :=
    match cs with
    | '.' :: d :: rest => d.isDigit && isFraction rest
    | _ => false
  isPointed || isBare ||
    [".inf", ".Inf", ".INF"].contains (String.ofList body) ||
    [".nan", ".NaN", ".NAN"].contains (String.ofList cs)

/-- Whether the characters are digits and underscores, the first digit not zero. -/
def isDecimal : List Char → Bool
  | [] => false
  | d :: rest => d.isDigit && d != '0' && rest.all isDigitPart

def isInt (cs : List Char) : Bool :=
  let body := unsigned cs
  match body with
  | ['0'] => true
  | '0' :: 'b' :: rest => !rest.isEmpty && rest.all fun c => isDigitBelow 2 c || c == '_'
  | '0' :: 'x' :: rest => !rest.isEmpty && rest.all isHexPart
  | '0' :: rest => rest.all fun c => isDigitBelow 8 c || c == '_'
  | _ => isDecimal body || isSexagesimal isDecimal body

/-- The texts without one of the first characters, as often as one of them is there. -/
def digits? (least most : Nat) (cs : List Char) : Option (List Char × List Char) :=
  let ds := (cs.take most).takeWhile Char.isDigit
  if least ≤ ds.length then some (ds, cs.drop ds.length) else none

/-- A timestamp by its parts, each as the digits that stand there. -/
structure TimestampParts where
  year : List Char
  month : List Char
  day : List Char
  /-- Hour, minute, second and the digits of the fraction. -/
  clock : Option (List Char × List Char × List Char × List Char)
  /-- The letter of universal time, or a sign with hours and minutes. -/
  zone : Option (Option (Char × List Char × List Char))

def after? (c : Char) : List Char → Option (List Char)
  | x :: rest => if x == c then some rest else none
  | [] => none

/-- What follows the sign between a date and a time. -/
def clockStart? : List Char → Option (List Char)
  | c :: rest =>
    if c == 'T' || c == 't' then some rest
    else if c == ' ' || c == '\t' then
      some (rest.dropWhile fun c => c == ' ' || c == '\t')
    else none
  | [] => none

def zone? (cs : List Char) : Option (Option (Option (Char × List Char × List Char))) :=
  match cs with
  | [] => some none
  | _ =>
    match cs.dropWhile fun c => c == ' ' || c == '\t' with
    | ['Z'] => some (some none)
    | sign :: rest =>
      if sign == '+' || sign == '-' then do
        let (hours, rest) ← digits? 1 2 rest
        match rest with
        | [] => return some (some (sign, hours, []))
        | ':' :: rest =>
          let (minutes, rest) ← digits? 2 2 rest
          if rest.isEmpty then return some (some (sign, hours, minutes)) else none
        | _ => none
      else none
    | [] => none

def timestampParts? (cs : List Char) : Option TimestampParts := do
  let (year, rest) ← digits? 4 4 cs
  let rest ← after? '-' rest
  let (month, rest) ← digits? 1 2 rest
  let rest ← after? '-' rest
  let (day, rest) ← digits? 1 2 rest
  if rest.isEmpty then return ⟨year, month, day, none, none⟩
  let rest ← clockStart? rest
  let (hour, rest) ← digits? 1 2 rest
  let rest ← after? ':' rest
  let (minute, rest) ← digits? 2 2 rest
  let rest ← after? ':' rest
  let (second, rest) ← digits? 2 2 rest
  let (fraction, rest) :=
    match rest with
    | '.' :: rest => (rest.takeWhile Char.isDigit, rest.dropWhile Char.isDigit)
    | _ => ([], rest)
  let zone ← zone? rest
  return ⟨year, month, day, some (hour, minute, second, fraction), zone⟩

/-- Whether the text has the form of a timestamp; without a time, month and day have two digits. -/
def isTimestamp (cs : List Char) : Bool :=
  match timestampParts? cs with
  | none => false
  | some parts => parts.clock.isSome || (parts.month.length == 2 && parts.day.length == 2)

def withoutLineFeed (cs : List Char) : List Char :=
  match cs.reverse with
  | '\n' :: rest => rest.reverse
  | _ => cs

/-- The tag of a scalar that has none of its own. -/
def ofScalar (text : String) : Tag :=
  let cs := withoutLineFeed text.toList
  let body := String.ofList cs
  if text.isEmpty then .null
  else if boolWords.contains body then .bool
  else if isFloat cs then .float
  else if isInt cs then .int
  else if body == "<<" then .merge
  else if ["~", "null", "Null", "NULL"].contains body then .null
  else if isTimestamp cs then .timestamp
  else if body == "=" then .value
  else if ["!", "&", "*"].contains body then .other
  else .str

end Tag

end NameLint.Yaml
