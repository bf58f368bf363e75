import NameLint.Pattern.Reader
import NameLint.Text.Identifier
import NameLint.Text.Word

/-!
# Openings of groups

What an opening bracket and the signs behind it begin: a group with a number or a
name, an assertion, a condition, or a part with options of its own.
-/

namespace NameLint.Pattern.Reader

def flag? : Char → Option Flags
  | 'i' => some { Flags.none with ignoreCase := true }
  | 'm' => some { Flags.none with multiLine := true }
  | 's' => some { Flags.none with dotAll := true }
  | 'x' => some { Flags.none with verbose := true }
  | 'a' => some { Flags.none with ascii := true }
  | 'u' => some { Flags.none with unicode := true }
  | 't' => some { Flags.none with template := true }
  | _ => none

/-- Whether the token is a letter that stands for an option, the refused one included. -/
def isFlag : List Char → Bool
  | [c] => (flag? c).isSome || c == 'L'
  | _ => false

def isLetterToken : List Char → Bool
  | [c] => Text.isLetter c
  | _ => false

/-- The options turned on, beginning with the letter `c`, and the token that ends them. -/
def flagsOn : Nat → Char → Flags → Reader (Flags × List Char)
  | 0, _, _ => failBack .missingFlagEnd 0
  | fuel + 1, c, on => do
    let some flag := flag? c | failBack .localeFlag 0
    let on := on.union flag
    if on.ascii && on.unicode then failBack .clashingFlags 0
    let next ← take
    match next with
    | [] => failBack .missingFlagEnd 0
    | [')'] => return (on, next)
    | ['-'] => return (on, next)
    | [':'] => return (on, next)
    | d :: _ =>
      if isFlag next then flagsOn fuel d on
      else failBack (if isLetterToken next then .unknownFlag else .missingFlagEnd) next.length

/-- The options turned off, beginning with the letter `c`, up to the colon. -/
def flagsOff : Nat → Char → Flags → Reader Flags
  | 0, _, _ => failBack .missingColon 0
  | fuel + 1, c, off => do
    let flag := (flag? c).getD { Flags.none with ascii := true }
    if flag.ascii || flag.unicode then failBack .modeFlagOff 0
    let off := off.union flag
    let next ← take
    match next with
    | [] => failBack .missingColon 0
    | [':'] => return off
    | d :: _ =>
      if isFlag next then flagsOff fuel d off
      else failBack (if isLetterToken next then .unknownFlag else .missingColon) next.length

/-- The options to turn on and off in the part that follows; none where they are for the whole
pattern, which then has them. -/
def inlineFlags (c : Char) : Reader (Option (Flags × Flags)) := do
  let fuel := (← get).rest.length + 1
  let (on, stop) ← if c == '-' then pure (Flags.none, ['-']) else flagsOn fuel c Flags.none
  if stop == [')'] then
    modify fun s => { s with flags := s.flags.union on }
    return none
  if on.template then failBack .globalFlagOn 1
  let off ← if stop == ['-'] then do
      let next ← take
      match next with
      | [] => failBack .missingFlag 0
      | d :: _ =>
        if isFlag next then flagsOff fuel d Flags.none
        else failBack (if isLetterToken next then .unknownFlag else .missingFlag) next.length
    else pure Flags.none
  if off.template then failBack .globalFlagOff 1
  if on.meets off then failBack .flagOnAndOff 1
  return some (on, off)

/-- A number as it may stand in a condition: digits of any script, not too many of them, single
underscores between them, a sign before them and blanks around it. -/
def conditionNumber? (name : String) : Option Int :=
  let cs := Text.trimBlanks name.toList
  let (negative, body) := match cs with
    | '-' :: rest => (true, rest)
    | '+' :: rest => (false, rest)
    | _ => (false, cs)
  let rec digits : List Char → Bool → Nat → Option Nat
    | [], afterDigit, n => if afterDigit then some n else none
    | '_' :: rest, afterDigit, n => if afterDigit then digits rest false n else none
    | c :: rest, _, n => match Text.digitValue? c with
      | some d => digits rest true (n * 10 + d)
      | none => none
  if Text.digitLimit < (body.filter (· != '_')).length then none
  else (digits body false 0).map fun n => if negative then -(n : Int) else n

/-- No group has this number. -/
def groupLimit : Nat := 1073741823

def conditionGroup (name : String) : Reader Nat := do
  let offset := name.length + 1
  if Text.isIdentifier name.toList then
    match (← get).names.lookup name with
    | some number => return number
    | none => failBack (.unknownGroup name) offset
  else
    match conditionNumber? name with
    | some (.ofNat 0) => failBack .badGroupNumber offset
    | some (.ofNat number) => do
      if groupLimit ≤ number then failBack (.invalidGroup number) offset
      let place := (← tell) - offset
      modify fun s =>
        if (s.conditions.lookup number).isSome then s
        else { s with conditions := s.conditions ++ [(number, place)] }
      return number
    | _ => failBack (.badGroupName name) offset

/-- A new group, with its name where it has one. -/
def openGroup (name : Option String) : Reader Nat := do
  let number ← groupCount
  match name with
  | none => pure ()
  | some name =>
    match (← get).names.lookup name with
    | some first => failBack (.redefinedGroup name number first) (name.length + 1)
    | none => modify fun s => { s with names := (name, number) :: s.names }
  modify fun s => { s with widths := none :: s.widths }
  return number

def knownWidths : Reader (Nat → Width) := do
  let widths := (← get).widths.reverse
  return fun number => ((widths[number - 1]?).bind id).getD .zero

/-- A group gets its width when it is closed. -/
def closeGroup (number : Nat) (body : Pattern) : Reader Unit := do
  let w := width (← knownWidths) body
  modify fun s =>
    { s with widths := (s.widths.reverse.set (number - 1) (some w)).reverse }

def namedReference : Reader Piece := do
  let name ← takeName ')' "group name"
  let offset := name.length + 1
  if !Text.isIdentifier name.toList then failBack (.badGroupName name) offset
  match (← get).names.lookup name with
  | none => failBack (.unknownGroup name) offset
  | some number =>
    if (← groupWidth? number).isNone then failBack .openGroup offset
    checkLookbehind number
    return .same number

/-- What an opening bracket turned out to begin. -/
inductive Opening where
  | capture (name : Option String)
  | plain
  | atomic
  | comment
  | reference (p : Piece)
  | ahead (negated : Bool)
  | behind (negated : Bool)
  | condition
  | options (on off : Flags)
  | wholeOptions

/-- The tokens between an opening bracket at `start` and the body of its group. -/
def opening (start : Nat) : Reader Opening := do
  if !(← eat '?') then return .capture none
  let char ← take
  match char with
  | [] => failBack .unexpectedEnd 0
  | ['P'] =>
    if ← eat '<' then
      let name ← takeName '>' "group name"
      if !Text.isIdentifier name.toList then failBack (.badGroupName name) (name.length + 1)
      return .capture (some name)
    else if ← eat '=' then return .reference (← namedReference)
    else
      let other ← take
      if other.isEmpty then failBack .unexpectedEnd 0
      failBack (.unknownExtension (String.ofList ('?' :: 'P' :: other))) (other.length + 2)
  | [':'] => return .plain
  | ['#'] =>
    let (_, closed) ← takeTo ')'
    if !closed then failAt .unterminatedComment start
    return .comment
  | ['='] => return .ahead false
  | ['!'] => return .ahead true
  | ['<'] =>
    let other ← take
    match other with
    | [] => failBack .unexpectedEnd 0
    | ['='] => return .behind false
    | ['!'] => return .behind true
    | _ => failBack (.unknownExtension (String.ofList ('?' :: '<' :: other))) (other.length + 2)
  | ['('] => return .condition
  | ['>'] => return .atomic
  | c :: _ =>
    if isFlag char || char == ['-'] then
      match ← inlineFlags c with
      | some (on, off) => return .options on off
      | none => return .wholeOptions
    else failBack (.unknownExtension (String.ofList ('?' :: char))) (char.length + 1)

end NameLint.Pattern.Reader
