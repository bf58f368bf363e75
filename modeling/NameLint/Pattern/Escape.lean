import NameLint.Pattern.Reader
import NameLint.Text.CharacterName

/-!
# Escapes and character sets

What a backslash stands for, outside and inside of a character set, and the sets
themselves. Inside of a set there are no places and no references.
-/

namespace NameLint.Pattern.Reader

def valueOf (base : Nat) (ds : List Char) : Nat :=
  ds.foldl (fun n d =>
    let v := if d.isDigit then d.toNat - 48 else (d.toLower.toNat - 87)
    n * base + v) 0

def isOctal (c : Char) : Bool := '0' ≤ c && c ≤ '7'

def isHex (c : Char) : Bool :=
  c.isDigit || ('a' ≤ c && c ≤ 'f') || ('A' ≤ c && c ≤ 'F')

def hexEscape (letter : Char) (n : Nat) : Reader Nat := do
  let ds ← takeWhile n isHex
  if ds.length != n then
    failBack (.incompleteEscape (String.ofList ('\\' :: letter :: ds))) (ds.length + 2)
  let value := valueOf 16 ds
  if 0x10FFFF < value then
    failBack (.badEscape (String.ofList ('\\' :: letter :: ds))) (ds.length + 2)
  return value

def namedEscape : Reader Nat := do
  if !(← eat '\x7b') then failBack .missingBrace 0
  let name ← takeName '\x7d' "character name"
  match Text.characterNamed? name with
  | some n => return n
  | none => failBack (.undefinedCharacter name) (name.length + 4)

def controlEscape? : Char → Option Nat
  | 'a' => some 7
  | 'b' => some 8
  | 'f' => some 12
  | 'n' => some 10
  | 'r' => some 13
  | 't' => some 9
  | 'v' => some 11
  | '\\' => some 92
  | _ => none

def classEscape? : Char → Option SetItem
  | 'd' => some (.oneOf .digit)
  | 'D' => some (.noneOf .digit)
  | 's' => some (.oneOf .blank)
  | 'S' => some (.noneOf .blank)
  | 'w' => some (.oneOf .word)
  | 'W' => some (.noneOf .word)
  | _ => none

def placeEscape? : Char → Option Place
  | 'A' => some .textStart
  | 'b' => some .wordEdge
  | 'B' => some .notWordEdge
  | 'Z' => some .textEnd
  | _ => none

/-- The rest of an octal escape that began with `first`, at most `n` more digits. -/
def octalEscape (first : List Char) (n : Nat) : Reader Nat := do
  let ds := first ++ (← takeWhile n isOctal)
  let value := valueOf 8 ds
  if 0o377 < value then
    failBack (.octalOutOfRange (String.ofList ('\\' :: ds))) (ds.length + 1)
  return value

/-- Any other escape stands for its character, unless that is a Latin letter. -/
def plainEscape (c : Char) : Reader Nat := do
  if c.isAlpha then failBack (.badEscape (String.ofList ['\\', c])) 2
  return c.toNat

def setEscape (c : Char) : Reader SetItem := do
  match controlEscape? c, classEscape? c with
  | some n, _ => return .code n
  | none, some item => return item
  | none, none =>
    if c == 'x' then return .code (← hexEscape c 2)
    else if c == 'u' then return .code (← hexEscape c 4)
    else if c == 'U' then return .code (← hexEscape c 8)
    else if c == 'N' then return .code (← namedEscape)
    else if isOctal c then return .code (← octalEscape [c] 2)
    else if c.isDigit then failBack (.badEscape (String.ofList ['\\', c])) 2
    else return .code (← plainEscape c)

/-- A reference to a group by number, or an octal escape of three digits. -/
def numberEscape (c : Char) : Reader Piece := do
  let second ← takeWhile 1 Char.isDigit
  let ds := c :: second
  let third := match (← peek) with
    | [d] => if isOctal d && second.length == 1 && ds.all isOctal then [d] else []
    | _ => []
  if third.isEmpty then
    let number := valueOf 10 ds
    if number < (← groupCount) then
      if (← groupWidth? number).isNone then failBack .openGroup (ds.length + 1)
      checkLookbehind number
      return .same number
    else failBack (.invalidGroup number) ds.length
  else
    return .code (← octalEscape ds 1)

def escape (c : Char) : Reader Piece := do
  match placeEscape? c, classEscape? c, controlEscape? c with
  | some place, _, _ => return .at place
  | none, some item, _ => return .set false [item]
  | none, none, some n => return .code n
  | none, none, none =>
    if c == 'x' then return .code (← hexEscape c 2)
    else if c == 'u' then return .code (← hexEscape c 4)
    else if c == 'U' then return .code (← hexEscape c 8)
    else if c == 'N' then return .code (← namedEscape)
    else if c == '0' then return .code (← octalEscape [c] 2)
    else if c.isDigit then numberEscape c
    else return .code (← plainEscape c)

def setItem : List Char → Reader SetItem
  | ['\\', c] => setEscape c
  | c :: _ => return .code c.toNat
  | [] => return .code 0

def setItems (here : Nat) : Nat → List SetItem → Reader (List SetItem)
  | 0, _ => failAt .unterminatedSet here
  | fuel + 1, items => do
    let this ← take
    if this.isEmpty then failAt .unterminatedSet here
    if this == [']'] && !items.isEmpty then return items.reverse
    let low ← setItem this
    if ← eat '-' then
      let that ← take
      if that.isEmpty then failAt .unterminatedSet here
      if that == [']'] then return (.code 45 :: low :: items).reverse
      let high ← setItem that
      let bad : Reader SetItem :=
        failBack (.badRange (String.ofList this) (String.ofList that))
          (this.length + 1 + that.length)
      let item ← match low, high with
        | .code a, .code b => if b < a then bad else pure (.range a b)
        | _, _ => bad
      setItems here fuel (item :: items)
    else
      setItems here fuel (low :: items)

/-- A set of one character is that character. -/
def ofSet (negated : Bool) (items : List SetItem) : Piece :=
  match items.eraseDups, negated with
  | [.code n], false => .code n
  | [.code n], true => .notCode n
  | distinct, _ => .set negated distinct

def charSet : Reader Piece := do
  let here := (← tell) - 1
  let negated ← eat '^'
  let items ← setItems here ((← get).rest.length + 1) []
  return ofSet negated items

end NameLint.Pattern.Reader
