import NameLint.Tree.Node

/-!
# Names of keys

The name of a property key is the name of an identifier or the text of a literal,
written the way the checked language writes it.
-/

namespace NameLint

namespace Literal

/-- Numbers have the point in place down to the sixth place after it and up to the twenty-first
before it, without a mark for whole numbers and with exponents as short as they are. -/
def numerals : NumeralFormat :=
  { above := -6, upTo := 21, wholeMark := "", exponentWidth := 1 }

/-- The text of a double. Zero has no sign. -/
def doubleText : Binary64 → String
  | .nan => "NaN"
  | .infinity negative => if negative then "-Infinity" else "Infinity"
  | .finite negative m e =>
    if m == 0 then "0"
    else (if negative then "-" else "") ++ String.ofList (numerals.write (Decimal.shortest m e))

/-- The text of a number. Whole numbers are rounded to doubles. -/
def numberText : Number → String
  | .whole n => doubleText (Binary64.ofInt n)
  | .double x => doubleText x

/-- The text of a literal's value; for what is no scalar there has to be room. -/
def text [Stack] : Item → Except Fault String
  | .plain .null => return "null"
  | .plain (.bool b) => return if b then "true" else "false"
  | .plain (.int n) => return numberText (.whole n)
  | .plain (.float x) => return numberText (.double x)
  | i => i.textFor .keyName

end Literal

/-- The name of a property key: what stands as its name, if that counts as true, or else the text of
its value. Keys without either have none. -/
def Node.keyName? [Stack] (key : Node) : Except Fault (Option Item) :=
  if key.name.truthy then return some key.name
  else
    match key.get? "value" with
    | none => return none
    | some v => return some (.plain (.text (← Literal.text v)))

end NameLint
