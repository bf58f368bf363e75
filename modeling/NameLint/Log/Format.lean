import NameLint.Log.Directive

/-!
# Messages with arguments

A message may have places for arguments, each begun by a percent sign; two percent
signs stand for one. Places take the arguments in their order. Where the only
argument is a mapping, places may name a key of it in round brackets and take the
value there. A message without arguments is written as it is.
-/

namespace NameLint.Log

/-- What the places of a message take their arguments from. -/
structure Supply where
  /-- The mapping whose values can be named. -/
  keyed : Option Entries
  /-- The arguments that wait to be taken. -/
  waiting : List Value

namespace Supply

/-- A single mapping can be named from, and can be taken as a whole. -/
def ofArguments (args : List Value) : Supply :=
  match args with
  | [.map (e :: es)] => ⟨some (e :: es), args⟩
  | _ => ⟨none, args⟩

def next (s : Supply) : Except Fault (Value × Supply) :=
  match s.waiting with
  | v :: rest => return (v, { s with waiting := rest })
  | [] => throw .wrongKind

/-- From now on only the value under the key waits. -/
def named (s : Supply) (entries : Entries) (key : String) : Except Fault Supply :=
  match Entries.get? entries key with
  | some v => return { s with waiting := [v] }
  | none => throw .missingKey

def leftOver (s : Supply) : Bool :=
  s.keyed.isNone && !s.waiting.isEmpty

end Supply

/-- The text up to the bracket that closes the one before it, with `depth` brackets open, and what
follows that bracket. -/
def keyText? : Nat → List Char → Option (List Char × List Char)
  | _, [] => none
  | depth, c :: rest =>
    if c == ')' then
      match depth with
      | 0 => some ([], rest)
      | depth + 1 => (keyText? depth rest).map fun r => (c :: r.1, r.2)
    else (keyText? (if c == '(' then depth + 1 else depth) rest).map fun r => (c :: r.1, r.2)

def takeKey (s : Supply) : List Char → Except Fault (Supply × List Char)
  | '(' :: rest =>
    match s.keyed with
    | none => throw .wrongKind
    | some entries =>
      match keyText? 0 rest with
      | none => throw .badValue
      | some (key, rest) => do return (← s.named entries (String.ofList key), rest)
  | cs => return (s, cs)

def takeFlags (d : Directive) : List Char → Directive × List Char
  | '-' :: rest => takeFlags { d with left := true } rest
  | '+' :: rest => takeFlags { d with plus := true } rest
  | ' ' :: rest => takeFlags { d with space := true } rest
  | '#' :: rest => takeFlags { d with alternate := true } rest
  | '0' :: rest => takeFlags { d with zero := true } rest
  | cs => (d, cs)

def takeNumber (limit : Nat) (cs : List Char) : Except Fault (Nat × List Char) := do
  let ds := cs.takeWhile Char.isDigit
  let n := ds.foldl (fun n d => n * 10 + (d.toNat - 48)) 0
  if limit < n then throw .badValue
  return (n, cs.drop ds.length)

/-- A number taken from the arguments, with room for `limit` on either side of zero. -/
def takeStar (s : Supply) (limit : Int) : Except Fault (Int × Supply) := do
  let (v, s) ← s.next
  let n ← Directive.exactWhole v
  if n < -limit - 1 || limit < n then throw .tooLarge
  return (n, s)

def greatestWidth : Nat := 9223372036854775807

def greatestPrecision : Nat := 2147483647

/-- The width of a place. A negative one taken from the arguments asks for filling on the right; the
least of them has no opposite and counts as none. -/
def takeWidth (d : Directive) (s : Supply) :
    List Char → Except Fault (Directive × Supply × List Char)
  | '*' :: rest => do
    let (n, s) ← takeStar s greatestWidth
    let width := if n.natAbs ≤ greatestWidth then n.natAbs else 0
    return ({ d with width := width, left := d.left || n < 0 }, s, rest)
  | cs => do
    let (n, rest) ← takeNumber greatestWidth cs
    return ({ d with width := n }, s, rest)

/-- The precision of a place, if it has one. A negative one counts as zero. -/
def takePrecision (d : Directive) (s : Supply) :
    List Char → Except Fault (Directive × Supply × List Char)
  | '.' :: '*' :: rest => do
    let (n, s) ← takeStar s greatestPrecision
    return ({ d with precision := some n.toNat }, s, rest)
  | '.' :: rest => do
    let (n, rest) ← takeNumber greatestPrecision rest
    return ({ d with precision := some n }, s, rest)
  | cs => return (d, s, cs)

/-- The letter of a place; one letter for the size of a number is passed over before it. -/
def takeLetter (d : Directive) (cs : List Char) : Except Fault (Directive × List Char) :=
  let cs :=
    match cs with
    | 'h' :: rest => rest
    | 'l' :: rest => rest
    | 'L' :: rest => rest
    | cs => cs
  match cs with
  | letter :: rest => return ({ d with letter := letter }, rest)
  | [] => throw .badValue

/-- The text of the place behind a percent sign, what is left of the arguments and what follows the
place. -/
def fillPlace (s : Supply) (cs : List Char) : Except Fault (String × Supply × List Char) := do
  let (s, cs) ← takeKey s cs
  let (d, cs) := takeFlags {} cs
  let (d, s, cs) ← takeWidth d s cs
  let (d, s, cs) ← takePrecision d s cs
  let (d, cs) ← takeLetter d cs
  let (v, s) ← s.next
  return (← d.write v, s, cs)

/-- The message with its arguments in their places. None that is not named may be left over. -/
def fillPlaces : Nat → Supply → List Char → Except Fault (List Char)
  | 0, _, _ => throw .outOfMemory
  | _ + 1, s, [] => if s.leftOver then throw .wrongKind else return []
  | fuel + 1, s, '%' :: '%' :: rest => return '%' :: (← fillPlaces fuel s rest)
  | fuel + 1, s, '%' :: rest => do
    let (text, s, rest) ← fillPlace s rest
    return text.toList ++ (← fillPlaces fuel s rest)
  | fuel + 1, s, c :: rest => return c :: (← fillPlaces fuel s rest)

def messageText (message : String) (args : List Value) : Except Fault String :=
  if args.isEmpty then return message
  else
    (fillPlaces (message.length + 1) (Supply.ofArguments args) message.toList).map String.ofList

end NameLint.Log
