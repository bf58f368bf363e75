import NameLint.Pattern.Basic
import NameLint.Pattern.Fault

/-!
# Reading along a pattern

The text of a pattern is cut into tokens, a backslash together with the
character after it being one. The reader goes through the tokens once; the
positions in its complaints are those of the tokens. A backslash at the very end
is noticed as soon as the token before it is taken.
-/

namespace NameLint.Pattern

/-- A character, or a backslash with the character after it, and where it stands. -/
structure Token where
  chars : List Char
  pos : Nat
  deriving Inhabited

def tokens : Nat → List Char → List Token
  | _, [] => []
  | pos, ['\\'] => [⟨['\\'], pos⟩]
  | pos, '\\' :: c :: rest => ⟨['\\', c], pos⟩ :: tokens (pos + 2) rest
  | pos, c :: rest => ⟨[c], pos⟩ :: tokens (pos + 1) rest

/-- Whether the token is a backslash with nothing after it. -/
def Token.isDangling (t : Token) : Bool :=
  t.chars == ['\\']

/-- What the reader knows at one point of the text. -/
structure ReadState where
  rest : List Token
  size : Nat
  flags : Flags
  /-- The widths of the groups so far, the last one first; an open group has none yet. -/
  widths : List (Option Width)
  names : List (String × Nat)
  /-- The number of groups at the outermost lookbehind that is open. -/
  lookbehind : Option Nat
  /-- Groups that conditions ask for, with the place of the first such condition. -/
  conditions : List (Nat × Nat)

abbrev Reader := StateT ReadState (Except Fault)

namespace Reader

def tell : Reader Nat := do
  let s ← get
  return match s.rest with
    | t :: _ => t.pos
    | [] => s.size

def failAt {α : Type} (complaint : Complaint) (position : Nat) : Reader α :=
  throw (.rejected complaint (some position))

/-- A complaint about the place `offset` characters before the next token. -/
def failBack {α : Type} (complaint : Complaint) (offset : Nat) : Reader α := do
  failAt complaint ((← tell) - offset)

def peek : Reader (List Char) := do
  return match (← get).rest with
    | t :: _ => t.chars
    | [] => []

def moveTo (rest : List Token) : Reader Unit := do
  let s ← get
  match rest with
  | t :: _ => if t.isDangling then failAt .danglingBackslash (s.size - 1)
  | [] => pure ()
  modify fun s => { s with rest := rest }

/-- The next token is taken; at the end there is none. -/
def take : Reader (List Char) := do
  match (← get).rest with
  | t :: rest => moveTo rest; return t.chars
  | [] => return []

def eat (c : Char) : Reader Bool := do
  if (← peek) == [c] then
    discard take
    return true
  else
    return false

def takeWhile (n : Nat) (p : Char → Bool) : Reader (List Char) := do
  let rest := (← get).rest
  let found := (rest.take n).takeWhile fun t =>
    match t.chars with
    | [c] => p c
    | _ => false
  moveTo (rest.drop found.length)
  return found.flatMap Token.chars

/-- All tokens before the single character `stop`, and whether it was there; it is taken too. -/
def takeTo (stop : Char) : Reader (List Char × Bool) := do
  let rest := (← get).rest
  let found := rest.takeWhile fun t => t.chars != [stop]
  let after := rest.drop found.length
  if after.isEmpty && found.any Token.isDangling then
    failAt .danglingBackslash ((← get).size - 1)
  moveTo (after.drop 1)
  return (found.flatMap Token.chars, !after.isEmpty)

/-- A name that ends with `stop`. -/
def takeName (stop : Char) (what : String) : Reader String := do
  let (name, closed) ← takeTo stop
  if closed then
    if name.isEmpty then failBack (.missingName what) 1
    return String.ofList name
  else if name.isEmpty then failBack (.missingName what) 0
  else failBack (.unterminatedName stop) name.length

/-- The number of groups, the whole match included. -/
def groupCount : Reader Nat := do
  return (← get).widths.length + 1

def groupWidth? (number : Nat) : Reader (Option Width) := do
  let widths := (← get).widths
  return if number == 0 || widths.length < number then none
    else (widths.reverse[number - 1]?).bind id

/-- Groups that are open, and groups of the same lookbehind, cannot be asked for inside one. -/
def checkLookbehind (number : Nat) : Reader Unit := do
  match (← get).lookbehind with
  | none => pure ()
  | some limit =>
    if (← groupWidth? number).isNone then failBack .openGroup 0
    if limit ≤ number then failBack .groupOfSameLookbehind 0

end Reader

end NameLint.Pattern
