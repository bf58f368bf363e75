import NameLint.Pattern.Branches
import NameLint.Pattern.Escape
import NameLint.Pattern.Opening
import NameLint.Pattern.Program
import NameLint.Stack
import NameLint.Text.Word

/-!
# Compiling patterns

`ofText` reads the text of a pattern: alternatives of sequences of items, each of
which may be repeated. `fuel` bounds the nesting of steps, and `ofText` gives it
more than the text can use. `compile` does the same where the stack has room for it.
-/

namespace NameLint.Pattern

namespace Reader

def count (ds : List Char) : Reader Nat := do
  if Text.digitLimit < ds.length then throw .countTooLong
  let n := valueOf 10 ds
  if countLimit ≤ n then throw .countTooLarge
  return n

/-- The least and greatest count of a repetition, after the token that begins it; none where that
token stands for itself. -/
def counts (this : Char) : Reader (Option (Nat × Option Nat)) := do
  if this == '?' then return some (0, some 1)
  if this == '*' then return some (0, none)
  if this == '+' then return some (1, none)
  if (← peek) == ['\x7d'] then return none
  let here := (← get).rest
  let start ← tell
  let lo ← takeWhile here.length Char.isDigit
  let hi ← if ← eat ',' then takeWhile here.length Char.isDigit else pure lo
  if !(← eat '\x7d') then
    moveTo here
    return none
  let least ← count lo
  if hi.isEmpty then return some (least, none)
  let most ← count hi
  if most < least then failAt .leastOverMost start
  return some (least, some most)

/-- The mark behind a repetition that says how it chooses its count. -/
def greed : Reader Greed := do
  if ← eat '?' then return .least
  if ← eat '+' then return .allOrNothing
  return .most

/-- The last piece read becomes a repetition of itself. -/
def repeated (position : Nat) (least : Nat) (most : Option Nat) :
    List Piece → Reader (List Piece)
  | [] => failAt .nothingToRepeat position
  | .at _ :: _ => failAt .nothingToRepeat position
  | .rep _ _ _ _ :: _ => failAt .multipleRepeat position
  | item :: rest => do
    let chosen ← greed
    return repetition chosen least most item :: rest

def closeBracket (start : Nat) : Reader Unit := do
  if !(← eat ')') then failAt .unterminatedGroup start

mutual

/-- Branches separated by bars. Options for the whole pattern may stand only in front of the first
branch of the outermost level. -/
def alternatives : Nat → Bool → Bool → Reader Pattern
  | 0, _, _ => failBack .unexpectedEnd 0
  | fuel + 1, verbose, outermost => do
    let first ← items fuel verbose outermost []
    branches fuel verbose outermost [first]

/-- The branches after those in `done`, the last of which comes first. -/
def branches : Nat → Bool → Bool → List (List Piece) → Reader Pattern
  | 0, _, _, _ => failBack .unexpectedEnd 0
  | fuel + 1, verbose, outermost, done => do
    if ← eat '|' then
      let state ← get
      let verbose := if outermost then state.flags.verbose else verbose
      let next ← items fuel verbose false []
      branches fuel verbose outermost (next :: done)
    else
      return ofBranches done.reverse

/-- The items of one branch after those in `done`, the last of which comes first. -/
def items : Nat → Bool → Bool → List Piece → Reader Pattern
  | 0, _, _, _ => failBack .unexpectedEnd 0
  | fuel + 1, verbose, first, done => do
    let this ← peek
    if this.isEmpty || this == ['|'] || this == [')'] then return unpacked done.reverse
    let this ← take
    match this with
    | ['\\', c] => do
      let item ← escape c
      items fuel verbose first (item :: done)
    | c :: _ =>
      if verbose && (c == ' ' || ('\t' ≤ c && c ≤ '\r')) then items fuel verbose first done
      else if verbose && c == '#' then do
        discard (takeTo '\n')
        items fuel verbose first done
      else if c == '[' then do
        let item ← charSet
        items fuel verbose first (item :: done)
      else if c == '*' || c == '+' || c == '?' || c == '\x7b' then do
        let position := (← tell) - 1
        match ← counts c with
        | none => items fuel verbose first (.code c.toNat :: done)
        | some (least, most) => do
          let done ← repeated position least most done
          items fuel verbose first done
      else if c == '.' then items fuel verbose first (.any :: done)
      else if c == '^' then items fuel verbose first (.at .lineStart :: done)
      else if c == '$' then items fuel verbose first (.at .lineEnd :: done)
      else if c == '(' then do
        let start := (← tell) - 1
        match ← opening start with
        | .comment => items fuel verbose first done
        | .wholeOptions => do
          if !first || !done.isEmpty then failAt .flagsNotAtStart start
          let state ← get
          items fuel state.flags.verbose first done
        | .reference p => items fuel verbose first (p :: done)
        | kind => do
          let item ← body fuel verbose start kind
          items fuel verbose first (item :: done)
      else items fuel verbose first (.code c.toNat :: done)
    | [] => return unpacked done.reverse

/-- The body of a group of a given kind, and its closing bracket. -/
def body : Nat → Bool → Nat → Opening → Reader Piece
  | 0, _, _, _ => failBack .unexpectedEnd 0
  | fuel + 1, verbose, start, kind => do
    match kind with
    | .capture name => do
      let number ← openGroup name
      let p ← alternatives fuel verbose false
      closeBracket start
      closeGroup number p
      return .group number p
    | .atomic => do
      let p ← alternatives fuel verbose false
      closeBracket start
      return .atomic p
    | .ahead negated => do
      let p ← alternatives fuel verbose false
      closeBracket start
      return .ahead negated p
    | .behind negated => do
      let outer := (← get).lookbehind
      if outer.isNone then
        let count ← groupCount
        modify fun s => { s with lookbehind := some count }
      let p ← alternatives fuel verbose false
      modify fun s => { s with lookbehind := outer }
      closeBracket start
      return .behind negated p
    | .condition => do
      let name ← takeName ')' "group name"
      let number ← conditionGroup name
      checkLookbehind number
      let yes ← items fuel verbose false []
      let no ← if ← eat '|' then do
          let p ← items fuel verbose false []
          if (← peek) == ['|'] then failBack .tooManyBranches 0
          pure p
        else pure []
      closeBracket start
      return .cond number yes no
    | .options on off => do
      let p ← alternatives fuel ((verbose || on.verbose) && !off.verbose) false
      closeBracket start
      return .scoped on off p
    | _ => do
      let p ← alternatives fuel verbose false
      closeBracket start
      return .scoped Flags.none Flags.none p

end

end Reader

def ofText (text : String) : Except Fault Compiled := do
  let ts := tokens 0 text.toList
  let start : ReadState :=
    { rest := ts, size := text.length, flags := .none, widths := [], names := [],
      lookbehind := none, conditions := [] }
  let run : Reader Compiled := do
    Reader.moveTo ts
    let p ← Reader.alternatives (4 * ts.length + 8) false true
    let reached ← get
    if reached.flags.ascii && reached.flags.unicode then throw .clashingModes
    if !(← Reader.peek).isEmpty then Reader.failBack .unbalancedParenthesis 0
    let count ← Reader.groupCount
    let state ← get
    match state.conditions.find? (fun c => count ≤ c.1) with
    | some (number, place) => Reader.failAt (.invalidGroup number) place
    | none => Compiled.ofPattern (← Reader.knownWidths) state.flags p
  return (← run.run start).1

/-- The pattern that a text stands for. Nothing is made of a text that exhausts the stack, be it a
pattern or not. -/
def compile [Stack] (text : String) : Except Fault Compiled :=
  if Stack.exhausts text then throw .stackExhausted else ofText text

theorem compile_of_exhausts [Stack] {text : String} (exhausted : Stack.exhausts text = true) :
    compile text = .error .stackExhausted :=
  if_pos exhausted

end NameLint.Pattern
