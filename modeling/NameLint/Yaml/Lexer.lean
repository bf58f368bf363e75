import NameLint.Yaml.Cursor
import NameLint.Yaml.Page
import NameLint.Yaml.Token

/-!
# The state of reading tokens

A simple key is recognised only by the colon behind it. Whatever may turn out to
be one is remembered with its place, one for each level of flow collections, and
forgotten at the end of its line or after 1024 characters. `indent` is the column
of the innermost block collection.
-/

namespace NameLint.Yaml

/-- Something that may turn out to be a key. -/
structure PendingKey where
  /-- The number of its first token. -/
  token : Nat
  /-- Whether nothing but a key may stand here. -/
  required : Bool
  index : Nat
  line : Nat
  column : Nat

structure LexState where
  cursor : Cursor
  /-- The fault that shows once the character with the given number is needed. -/
  limit : Option (Nat × Fault) := none
  /-- How many flow collections are open. -/
  flow : Nat := 0
  tokens : Array Token := #[]
  indent : Int := -1
  /-- The columns of the outer block collections. -/
  outer : List Int := []
  keyAllowed : Bool := true
  pending : List (Nat × PendingKey) := []

/-- Reading that changes the state and may fail; the state at a failure is kept. -/
abbrev Lexer := ExceptT Fault (StateM LexState)

namespace Lexer

/-- The character some places ahead can be had. -/
def reach (ahead : Nat) : Lexer Unit := do
  let s ← get
  match s.limit with
  | none => return
  | some (limit, fault) => if limit ≤ s.cursor.index + ahead then throw fault

def peek (ahead : Nat) : Lexer (Option Char) := do
  reach ahead
  return (← get).cursor.peek ahead

def skip (n : Nat) : Lexer Unit := do
  reach n
  modify fun s => { s with cursor := s.cursor.forward n }

def takeRun (p : Char → Bool) : Lexer (List Char) := do
  let taken := (← get).cursor.rest.takeWhile p
  skip taken.length
  return taken

def lineBreak : Lexer (Option Char) := do
  match ← peek 0 with
  | some c =>
    if isBreak c then
      skip 1
      return some (lineEnd c)
    else return none
  | none => return none

/-- A bound for loops that pass at least one character each time. -/
def bound : Lexer Nat := do
  return (← get).cursor.rest.length + 1

/-- The document is malformed unless the condition holds. -/
def require (condition : Bool) : Lexer Unit :=
  if condition then pure () else throw .malformed

def emit (t : Token) : Lexer Unit :=
  modify fun s => { s with tokens := s.tokens.push t }

def allowKey (allowed : Bool) : Lexer Unit :=
  modify fun s => { s with keyAllowed := allowed }

def dropKey : Lexer Unit := do
  let s ← get
  match s.pending.lookup s.flow with
  | none => return
  | some key =>
    require (!key.required)
    modify fun s => { s with pending := s.pending.filter fun e => e.1 != s.flow }

/-- Possible keys that are too far behind are given up. -/
def dropStaleKeys : Lexer Unit := do
  let s ← get
  let isStale (key : PendingKey) : Bool :=
    key.line != s.cursor.line || s.cursor.index - key.index > 1024
  require (!s.pending.any fun e => isStale e.2 && e.2.required)
  modify fun s => { s with pending := s.pending.filter fun e => !isStale e.2 }

/-- What comes next may turn out to be a key. -/
def noteKey : Lexer Unit := do
  let s ← get
  if s.keyAllowed then
    dropKey
    let key : PendingKey :=
      { token := s.tokens.size
        required := s.flow == 0 && s.indent == s.cursor.column
        index := s.cursor.index
        line := s.cursor.line
        column := s.cursor.column }
    modify fun s => { s with pending := (s.flow, key) :: s.pending }

/-- Block collections that begin right of the column are closed. -/
def closeOuter (column : Int) : List Int → Lexer Unit
  | [] => return
  | next :: rest => do
    let s ← get
    if column < s.indent then
      modify fun s => { s with indent := next, outer := rest }
      emit .blockEnd
      closeOuter column rest

/-- Block collections that begin right of the column are closed, outside of flow collections. -/
def unindent (column : Int) : Lexer Unit := do
  let s ← get
  if s.flow == 0 then closeOuter column s.outer

/-- A block collection begins at the column, unless one there is open. -/
def indentTo (column : Nat) : Lexer Bool := do
  let s ← get
  if s.indent < column then
    modify fun s => { s with indent := column, outer := s.indent :: s.outer }
    return true
  else return false

end Lexer

end NameLint.Yaml
