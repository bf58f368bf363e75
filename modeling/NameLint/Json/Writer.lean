import NameLint.Value.Written

/-!
# Writing JSON

Values are written without spaces. What JSON has no form for is written as its
text: keys and values of kinds other than its own, and doubles that are infinite
or no number.
-/

namespace NameLint.Json

/-- One character of a text. Beside the quote and the backslash everything outside printable ASCII
is escaped, by two code units where one does not suffice. -/
def escaped (c : Char) : List Char :=
  let n := c.toNat
  let unit (u : Nat) : List Char := '\\' :: 'u' :: Text.hexDigits 4 u
  if c == '"' then ['\\', '"']
  else if c == '\\' then ['\\', '\\']
  else if 0x20 ≤ n && n < 0x7F then [c]
  else if n < 0x10000 then unit n
  else unit (0xD800 + (n - 0x10000) / 0x400) ++ unit (0xDC00 + (n - 0x10000) % 0x400)

def writtenText (s : String) : String :=
  String.ofList ('"' :: s.toList.flatMap escaped ++ ['"'])

mutual

def write : Value → String
  | .null => "null"
  | .bool b => if b then "true" else "false"
  | .int n => toString n
  | .float x => if x.isFinite then Value.writtenDouble x else writtenText (Value.writtenDouble x)
  | .text s => writtenText s
  | .list items => "[" ++ ",".intercalate (writeItems items) ++ "]"
  | .tuple items => "[" ++ ",".intercalate (writeItems items) ++ "]"
  | .map entries => "\x7b" ++ ",".intercalate (writeEntries entries) ++ "\x7d"
  | .stamp t => writtenText t.shown
  | .bytes b => writtenText (Value.writtenBytes b)
  | .set items => "[" ++ ",".intercalate (writeItems items) ++ "]"
  | .again mapping => writtenText (Value.again mapping).written

def writeItems : List Value → List String
  | [] => []
  | v :: rest => write v :: writeItems rest

def writeEntries : List (Value × Value) → List String
  | [] => []
  | (k, v) :: rest => (writtenText k.shown ++ ":" ++ write v) :: writeEntries rest

end

end NameLint.Json
