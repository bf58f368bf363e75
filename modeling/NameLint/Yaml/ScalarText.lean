import NameLint.Json.Reader
import NameLint.Yaml.Lexer

/-!
# The text of scalars

Scalars come in five forms. Plain, single quoted and double quoted ones fold the
lines that they extend over: one line end becomes a space, further ones are kept.
Literal blocks keep their lines and folded blocks join them.
-/

namespace NameLint.Yaml.Lexer

/-- Blanks, line ends and document markers between the lines of a plain scalar. Nothing is returned
where a document marker ends the scalar. -/
def plainBreaks : Nat → List Char → Lexer (Option (List Char))
  | 0, done => return some done.reverse
  | fuel + 1, done => do
    match ← peek 0 with
    | some ' ' =>
      skip 1
      plainBreaks fuel done
    | _ =>
      match ← lineBreak with
      | none => return some done.reverse
      | some c =>
        if (← get).cursor.atMarker then return none
        plainBreaks fuel (c :: done)

/-- What folding makes of a line end and the ones after it. -/
def foldedBreak (first : Char) (others : List Char) : List Char :=
  (if first != '\n' then [first] else if others.isEmpty then [' '] else []) ++ others

/-- The space behind a piece of a plain scalar; empty where the scalar ends. -/
def plainSpace : Lexer (List Char) := do
  let blanks ← takeRun (· == ' ')
  match ← lineBreak with
  | none => return blanks
  | some first =>
    allowKey true
    if (← get).cursor.atMarker then return []
    match ← plainBreaks (← bound) [] with
    | none => return []
    | some others => return foldedBreak first others

def plainLength (inFlow : Bool) : List Char → Nat
  | [] => 0
  | c :: rest =>
    let colonEnds : Option Char → Bool
      | none => true
      | some d => endsWord (some d) || (inFlow && [',', '[', ']', '\x7b', '\x7d'].contains d)
    if endsWord (some c) || (c == ':' && colonEnds rest.head?) ||
        (inFlow && [',', '?', '[', ']', '\x7b', '\x7d'].contains c) then 0
    else plainLength inFlow rest + 1

/-- The pieces of a plain scalar, each behind the space before it. -/
def plainPieces (indent : Int) : Nat → List Char → List Char → Lexer (List Char)
  | 0, done, _ => return done
  | fuel + 1, done, space => do
    let s ← get
    let length := if s.cursor.peek 0 == some '#' then 0 else
      plainLength (s.flow != 0) s.cursor.rest
    if length == 0 then return done
    allowKey false
    let piece := s.cursor.rest.take length
    skip length
    let next ← plainSpace
    let s ← get
    let done := done ++ space ++ piece
    if next.isEmpty || s.cursor.peek 0 == some '#' || (s.flow == 0 && s.cursor.column < indent)
    then return done
    plainPieces indent fuel done next

def plainScalar : Lexer Token := do
  let s ← get
  let text ← plainPieces (s.indent + 1) (← bound) [] []
  return .scalar (String.ofList text) true

/-- The line ends between the lines of a quoted scalar. A document marker may not stand there. -/
def quotedBreaks : Nat → List Char → Lexer (List Char)
  | 0, done => return done.reverse
  | fuel + 1, done => do
    require (!(← get).cursor.atMarker)
    let _ ← takeRun isGap
    match ← lineBreak with
    | some c => quotedBreaks fuel (c :: done)
    | none => return done.reverse

def quotedSpace : Lexer (List Char) := do
  let blanks ← takeRun isGap
  require (← peek 0).isSome
  match ← lineBreak with
  | none => return blanks
  | some first => return foldedBreak first (← quotedBreaks (← bound) [])

def escapeLetter? : Char → Option Char
  | '0' => some '\x00'
  | 'a' => some '\x07'
  | 'b' => some '\x08'
  | 't' => some '\t'
  | '\t' => some '\t'
  | 'n' => some '\n'
  | 'v' => some '\x0B'
  | 'f' => some '\x0C'
  | 'r' => some '\r'
  | 'e' => some '\x1B'
  | ' ' => some ' '
  | '"' => some '"'
  | '\\' => some '\\'
  | '/' => some '/'
  | 'N' => some '\x85'
  | '_' => some '\xA0'
  | 'L' => some '\u2028'
  | 'P' => some '\u2029'
  | _ => none

def escapeWidth? : Char → Option Nat
  | 'x' => some 2
  | 'u' => some 4
  | 'U' => some 8
  | _ => none

/-- A number in hexadecimal digits, exactly so many. -/
def hexNumber (width : Nat) : Lexer Nat := do
  let digits := (← get).cursor.rest.take width
  let values := digits.filterMap Json.hexValue?
  require (values.length == width)
  skip width
  return values.foldl (fun n d => n * 16 + d) 0

/-- The character of a number; past the last code point there is none. -/
def charOf (n : Nat) : Lexer Char :=
  if n < 0x110000 then return (if 0xD800 ≤ n && n < 0xE000 then '\uFFFD' else Char.ofNat n)
  else if n < 0x80000000 then throw .badValue
  else throw .tooLarge

/-- What a backslash stands for. A line end behind it is passed over. -/
def escape : Lexer (List Char) := do
  match ← peek 0 with
  | none => throw .malformed
  | some c =>
    match escapeLetter? c, escapeWidth? c with
    | some x, _ =>
      skip 1
      return [x]
    | none, some width =>
      skip 1
      return [← charOf (← hexNumber width)]
    | none, none =>
      match ← lineBreak with
      | some _ => quotedBreaks (← bound) []
      | none => throw .malformed

def quotedPiece (double : Bool) : Nat → List Char → Lexer (List Char)
  | 0, done => return done
  | fuel + 1, done => do
    let plain ← takeRun fun c => !(c == '\'' || c == '"' || c == '\\' || isGap c || isBreak c)
    let done := done ++ plain
    match ← peek 0, ← peek 1 with
    | some '\'', next =>
      if double then
        skip 1
        quotedPiece double fuel (done ++ ['\''])
      else if next == some '\'' then
        skip 2
        quotedPiece double fuel (done ++ ['\''])
      else return done
    | some '"', _ =>
      if double then return done
      skip 1
      quotedPiece double fuel (done ++ ['"'])
    | some '\\', _ =>
      skip 1
      if double then quotedPiece double fuel (done ++ (← escape))
      else quotedPiece double fuel (done ++ ['\\'])
    | _, _ => return done

def quotedPieces (quote : Char) : Nat → List Char → Lexer (List Char)
  | 0, _ => throw .malformed
  | fuel + 1, done => do
    if (← peek 0) == some quote then
      skip 1
      return done
    let space ← quotedSpace
    let piece ← quotedPiece (quote == '"') (← bound) []
    quotedPieces quote fuel (done ++ space ++ piece)

def quotedScalar (quote : Char) : Lexer Token := do
  skip 1
  let first ← quotedPiece (quote == '"') (← bound) []
  let text ← quotedPieces quote (← bound) first
  return .scalar (String.ofList text) false

/-- What a block scalar does with the line ends behind it. -/
inductive Chomping where
  | strip
  | clip
  | keep
  deriving DecidableEq, Repr

def chomping? : Lexer (Option Chomping) := do
  match ← peek 0 with
  | some '+' =>
    skip 1
    return some .keep
  | some '-' =>
    skip 1
    return some .strip
  | _ => return none

/-- An indentation mark, if there is one; it may not be zero. -/
def increment? : Lexer (Option Nat) := do
  match ← peek 0 with
  | some c =>
    if c.isDigit then
      require (c != '0')
      skip 1
      return some (c.toNat - 48)
    else return none
  | none => return none

def blockMarks : Lexer (Chomping × Option Nat) := do
  let first ← chomping?
  let increment ← increment?
  let second ← if first.isNone && increment.isSome then chomping? else pure none
  require (endsField (← peek 0))
  return ((first.or second).getD .clip, increment)

/-- The rest of a line that holds nothing but spaces and a comment. -/
def emptyLine : Lexer Unit := do
  let _ ← takeRun (· == ' ')
  if (← peek 0) == some '#' then
    let _ ← takeRun fun c => !isBreak c
  require (endsLine (← peek 0))
  let _ ← lineBreak

/-- The empty lines in front of a block scalar, and the deepest column that their spaces reach. -/
def blockIndentation : Nat → List Char → Nat → Lexer (List Char × Nat)
  | 0, done, deepest => return (done.reverse, deepest)
  | fuel + 1, done, deepest => do
    match ← peek 0 with
    | some ' ' =>
      skip 1
      blockIndentation fuel done (max deepest (← get).cursor.column)
    | _ =>
      match ← lineBreak with
      | some c => blockIndentation fuel (c :: done) deepest
      | none => return (done.reverse, deepest)

def spacesTo (indent : Nat) : Lexer Unit := do
  let s ← get
  let spaces := (s.cursor.rest.takeWhile (· == ' ')).length
  skip (min spaces (indent - s.cursor.column))

def blockBreaks (indent : Nat) : Nat → List Char → Lexer (List Char)
  | 0, done => return done.reverse
  | fuel + 1, done => do
    spacesTo indent
    match ← lineBreak with
    | some c => blockBreaks indent fuel (c :: done)
    | none => return done.reverse

/-- The lines of a block scalar, the line end behind the last one, and the empty lines after it. -/
def blockLines (folded : Bool) (indent : Nat) :
    Nat → List Char → List Char → Lexer (List Char × Option Char × List Char)
  | 0, done, breaks => return (done, none, breaks)
  | fuel + 1, done, breaks => do
    let s ← get
    if s.cursor.column != indent || s.cursor.rest.isEmpty then return (done, none, breaks)
    let startsWithGap := (s.cursor.peek 0).any isGap
    let line ← takeRun fun c => !isBreak c
    let done := done ++ breaks ++ line
    let stop ← lineBreak
    let after ← blockBreaks indent (← bound) []
    let s ← get
    if s.cursor.column != indent || s.cursor.rest.isEmpty then return (done, stop, after)
    let joins := folded && stop == some '\n' && !startsWithGap && !(s.cursor.peek 0).any isGap
    let between := if joins then (if after.isEmpty then [' '] else []) else stop.toList
    blockLines folded indent fuel (done ++ between) after

def blockScalar (folded : Bool) : Lexer Token := do
  skip 1
  let (chomping, increment) ← blockMarks
  emptyLine
  let least := (max ((← get).indent + 1) 1).toNat
  let (breaks, indent) ←
    match increment with
    | none => do
      let (breaks, deepest) ← blockIndentation (← bound) [] 0
      pure (breaks, max least deepest)
    | some n => do
      let indent := least + n - 1
      pure (← blockBreaks indent (← bound) [], indent)
  let (text, stop, after) ← blockLines folded indent (← bound) [] breaks
  let text := if chomping == .strip then text else text ++ stop.toList
  let text := if chomping == .keep then text ++ after else text
  return .scalar (String.ofList text) false

end NameLint.Yaml.Lexer
