import NameLint.Yaml.ScalarText

/-!
# Reading tokens

`Tokens.ofPages` turns the text of a document into its tokens.
-/

namespace NameLint.Yaml

namespace Lexer

/-- Whether the character may stand in the name of an anchor, a directive or a tag handle. -/
def isNamePart (c : Char) : Bool :=
  c.isAlphanum || c == '-' || c == '_'

def isTagPart (c : Char) : Bool :=
  c.isAlphanum || "-;/?:@&=+$,_.!~*'()[]%".toList.contains c

/-- Bytes written as a percent sign and two digits each, as long as there are more. -/
def percentBytes : Nat → List UInt8 → Lexer (List UInt8)
  | 0, done => return done.reverse
  | fuel + 1, done => do
    if (← peek 0) == some '%' then
      skip 1
      let n ← hexNumber 2
      percentBytes fuel (UInt8.ofNat n :: done)
    else return done.reverse

/-- A tag with its escapes resolved, up to the first character that is no part of one. -/
def tagPieces : Nat → List Char → Lexer (List Char)
  | 0, done => return done
  | fuel + 1, done => do
    let piece ← takeRun fun c => isTagPart c && c != '%'
    let done := done ++ piece
    if (← peek 0) == some '%' then
      let bytes ← percentBytes (← bound) []
      match String.fromUTF8? (ByteArray.mk bytes.toArray) with
      | some s => tagPieces fuel (done ++ s.toList)
      | none => throw .malformed
    else return done

/-- A tag or the beginning of one; something has to be there. -/
def tagText : Lexer String := do
  let s ← get
  let text ← tagPieces (← bound) []
  let reached ← get
  require (s.cursor.index != reached.cursor.index)
  return String.ofList text

/-- A tag handle: an exclamation mark, or a name between two of them. -/
def tagHandle : Lexer String := do
  require ((← peek 0) == some '!')
  skip 1
  if (← peek 0) == some ' ' then return "!"
  let name ← takeRun isNamePart
  require ((← peek 0) == some '!')
  skip 1
  return String.ofList ('!' :: name ++ ['!'])

def tag : Lexer Token := do
  let token ←
    match ← peek 1 with
    | some '<' => do
      skip 2
      let suffix ← tagText
      require ((← peek 0) == some '>')
      skip 1
      pure (Token.tag none suffix)
    | next =>
      if endsWord next then do
        skip 1
        pure (Token.tag none "!")
      else do
        let word := ((← get).cursor.rest.drop 1).takeWhile fun c => !endsField (some c)
        let handle ← if word.contains '!' then tagHandle else do
          skip 1
          pure "!"
        let suffix ← tagText
        pure (Token.tag (some handle) suffix)
  require (endsField (← peek 0))
  return token

def anchorName : Lexer String := do
  skip 1
  let name ← takeRun isNamePart
  require (!name.isEmpty)
  let next ← peek 0
  require (endsWord next || next.any fun c => "?:,]\x7d%@`".toList.contains c)
  return String.ofList name

def directiveNumber : Lexer Nat := do
  let digits ← takeRun Char.isDigit
  require (!digits.isEmpty)
  return Json.digitsValue digits

def directive : Lexer Token := do
  skip 1
  let name ← takeRun isNamePart
  require (!name.isEmpty)
  require (endsField (← peek 0))
  let token ←
    if name == "YAML".toList then do
      let _ ← takeRun (· == ' ')
      let major ← directiveNumber
      require ((← peek 0) == some '.')
      skip 1
      let _ ← directiveNumber
      require (endsField (← peek 0))
      pure (Token.version major)
    else if name == "TAG".toList then do
      let _ ← takeRun (· == ' ')
      let handle ← tagHandle
      require ((← peek 0) == some ' ')
      let _ ← takeRun (· == ' ')
      let expansion ← tagText
      require (endsField (← peek 0))
      pure (Token.tagHandle handle expansion)
    else do
      let _ ← takeRun fun c => !isBreak c
      pure Token.otherDirective
  emptyLine
  return token

/-- Spaces, comments and line ends before the next token. Outside of flow collections a key may
begin on a new line. -/
def skipToToken : Nat → Lexer Unit
  | 0 => return
  | fuel + 1 => do
    let _ ← takeRun (· == ' ')
    if (← peek 0) == some '#' then
      let _ ← takeRun fun c => !isBreak c
    match ← lineBreak with
    | some _ =>
      if (← get).flow == 0 then allowKey true
      skipToToken fuel
    | none => return

/-- A directive or a document marker, which closes everything that is open. -/
def atTopLevel (read : Lexer Token) : Lexer Unit := do
  unindent (-1)
  dropKey
  allowKey false
  emit (← read)

def marker (t : Token) : Lexer Token := do
  skip 3
  return t

def openFlow (t : Token) : Lexer Unit := do
  noteKey
  modify fun s => { s with flow := s.flow + 1 }
  allowKey true
  skip 1
  emit t

def closeFlow (t : Token) : Lexer Unit := do
  dropKey
  modify fun s => { s with flow := s.flow - 1 }
  allowKey false
  skip 1
  emit t

def flowEntry : Lexer Unit := do
  allowKey true
  dropKey
  skip 1
  emit .flowEntry

/-- Outside of flow collections an entry may begin a block collection here. -/
def beginBlock (opening : Token) : Lexer Unit := do
  let s ← get
  if s.flow == 0 then
    require s.keyAllowed
    if ← indentTo s.cursor.column then emit opening

def blockEntry : Lexer Unit := do
  beginBlock .blockSequenceStart
  allowKey true
  dropKey
  skip 1
  emit .blockEntry

def explicitKey : Lexer Unit := do
  beginBlock .blockMappingStart
  allowKey ((← get).flow == 0)
  dropKey
  skip 1
  emit .key

def insertTokens (tokens : Array Token) (place : Nat) (new : List Token) : Array Token :=
  (tokens.toList.take place ++ new ++ tokens.toList.drop place).toArray

/-- The colon in front of a value. What was noted as a possible key is one. -/
def explicitValue : Lexer Unit := do
  let s ← get
  match s.pending.lookup s.flow with
  | some key =>
    modify fun s => { s with pending := s.pending.filter fun e => e.1 != s.flow }
    let opens ← if s.flow == 0 then indentTo key.column else pure false
    let new := if opens then [Token.blockMappingStart, .key] else [.key]
    modify fun s => { s with tokens := insertTokens s.tokens key.token new }
    allowKey false
  | none =>
    beginBlock .blockMappingStart
    allowKey (s.flow == 0)
    dropKey
  skip 1
  emit .value

def keyStart (read : Lexer Token) : Lexer Unit := do
  noteKey
  allowKey false
  emit (← read)

def block (folded : Bool) : Lexer Unit := do
  allowKey true
  dropKey
  emit (← blockScalar folded)

def startsPlain (s : LexState) : Bool :=
  match s.cursor.peek 0 with
  | none => false
  | some c =>
    !(endsWord (some c) || "-?:,[]\x7b\x7d#&*!|>'\"%@`".toList.contains c) ||
      (!endsWord (s.cursor.peek 1) && (c == '-' || (s.flow == 0 && (c == '?' || c == ':'))))

def token (s : LexState) (c : Char) : Lexer Unit :=
  let atStart := s.cursor.column == 0
  let inFlow := s.flow != 0
  let wordEnds := endsWord (s.cursor.peek 1)
  if c == '%' && atStart then atTopLevel directive
  else if atStart && s.cursor.hasMarker '-' then atTopLevel (marker .documentStart)
  else if atStart && s.cursor.hasMarker '.' then atTopLevel (marker .documentEnd)
  else if c == '[' then openFlow .flowSequenceStart
  else if c == '\x7b' then openFlow .flowMappingStart
  else if c == ']' then closeFlow .flowSequenceEnd
  else if c == '\x7d' then closeFlow .flowMappingEnd
  else if c == ',' then flowEntry
  else if c == '-' && wordEnds then blockEntry
  else if c == '?' && (inFlow || wordEnds) then explicitKey
  else if c == ':' && (inFlow || wordEnds) then explicitValue
  else if c == '*' then keyStart (return .alias (← anchorName))
  else if c == '&' then keyStart (return .anchor (← anchorName))
  else if c == '!' then keyStart tag
  else if c == '|' && !inFlow then block false
  else if c == '>' && !inFlow then block true
  else if c == '\'' then keyStart (quotedScalar '\'')
  else if c == '"' then keyStart (quotedScalar '"')
  else if startsPlain s then keyStart plainScalar
  else throw .malformed

def all : Nat → Lexer Unit
  | 0 => return
  | fuel + 1 => do
    skipToToken (← bound)
    dropStaleKeys
    unindent (← get).cursor.column
    let next ← peek 0
    let s ← get
    match next with
    | none =>
      unindent (-1)
      dropKey
    | some c =>
      token s c
      all fuel

end Lexer

/-- The tokens of a text. Where it cannot be read on, the tokens are those before the first that
might still have turned out to be part of a key. -/
def Tokens.ofPages (pages : Pages) : Tokens :=
  let start : Cursor := { rest := pages.text }
  let start := if pages.text.head? == some '\uFEFF' then start.next else start
  let lexer := do
    Lexer.reach 0
    Lexer.all (pages.text.length + 1)
  let (result, final) := lexer.run { cursor := start, limit := pages.limit }
  match result with
  | .ok _ => ⟨final.tokens.toList, none⟩
  | .error fault =>
    let settled := final.pending.foldl (fun n e => min n e.2.token) final.tokens.size
    ⟨final.tokens.toList.take settled, some fault⟩

end NameLint.Yaml
