import NameLint.Pattern.Test
import NameLint.Pattern.Fault

/-!
# Programs

A pattern becomes a program once the options for the whole of it are known:
steps in a row, each of which carries the options that hold at its place. A
group is its body between two marks, and a part with options of its own is only
its steps. A repetition of a single character is a step of its own, which also
knows the one character that can follow, where there is only one.

A pattern that has become a program can still be refused: a look-behind needs
one width, and templates allow no repetition.
-/

namespace NameLint.Pattern

/-- One step of a program. A missing greatest count is no bound. -/
inductive Step where
  | char (test : Test)
  | mark (slot : Nat)
  | at (flags : Flags) (place : Place)
  | branch (branches : List (List Step))
  | run (greed : Greed) (least : Nat) (most : Option Nat) (test : Test) (next : Option Nat)
  | loop (hasty : Bool) (least : Nat) (most : Option Nat) (body : List Step)
  | settle (least : Nat) (most : Option Nat) (body : List Step)
  | atomic (body : List Step)
  | look (negated : Bool) (back : Nat) (body : List Step)
  | same (flags : Flags) (number : Nat)
  | cond (number : Nat) (yes no : List Step)

/-- The one character that can come first, where the steps begin with it; `next` where there are no
steps. -/
def firstCode (next : Option Nat) : List Step → Option Nat
  | [] => next
  | .char test :: _ => test.onlyCode?
  | _ => none

mutual

/-- The test of a pattern that is a single character, in brackets or not. -/
def single? : List Piece → Flags → Option Test
  | [p], flags => pieceTest? p flags
  | _, _ => none

def pieceTest? : Piece → Flags → Option Test
  | .any, flags => some (if flags.dotAll then .any else .notLineFeed)
  | .code n, flags => some (Test.ofCode flags false n)
  | .notCode n, flags => some (Test.ofCode flags true n)
  | .set negated items, flags => some (Test.ofSet flags negated items)
  | .scoped add remove body, flags => single? body (flags.within add remove)
  | _, _ => none

end

mutual

/-- The steps of a piece under the options; `next` is the one character that can follow it. -/
def pieceSteps (groups : Nat → Width) : Piece → Flags → Option Nat → List Step
  | .any, flags, _ => [.char (if flags.dotAll then .any else .notLineFeed)]
  | .code n, flags, _ => [.char (Test.ofCode flags false n)]
  | .notCode n, flags, _ => [.char (Test.ofCode flags true n)]
  | .set negated items, flags, _ => [.char (Test.ofSet flags negated items)]
  | .at place, flags, _ => [.at flags place]
  | .alt branches, flags, _ => [.branch (branchSteps groups branches flags)]
  | .group number body, flags, _ =>
    .mark (2 * number - 2) :: patternSteps groups body flags none ++ [.mark (2 * number - 1)]
  | .scoped add remove body, flags, next =>
    patternSteps groups body (flags.within add remove) next
  | .rep greed least most body, flags, next =>
    match single? body flags, greed with
    | some test, _ => [.run greed least most test next]
    | none, .allOrNothing => [.settle least most (patternSteps groups body flags none)]
    | none, .most => [.loop false least most (patternSteps groups body flags none)]
    | none, .least => [.loop true least most (patternSteps groups body flags none)]
  | .atomic body, flags, _ => [.atomic (patternSteps groups body flags none)]
  | .ahead negated body, flags, _ => [.look negated 0 (patternSteps groups body flags none)]
  | .behind negated body, flags, _ =>
    [.look negated (width groups body).least (patternSteps groups body flags none)]
  | .same number, flags, _ => [.same flags number]
  | .cond number yes no, flags, next =>
    let other := patternSteps groups no flags next
    [.cond number (patternSteps groups yes flags (if no.isEmpty then next else none)) other]

/-- The steps of a pattern under the options; `next` is the one character that can follow it. -/
def patternSteps (groups : Nat → Width) : List Piece → Flags → Option Nat → List Step
  | [], _, _ => []
  | p :: rest, flags, next =>
    let tail := patternSteps groups rest flags next
    pieceSteps groups p flags (firstCode next tail) ++ tail

def branchSteps (groups : Nat → Width) : List (List Piece) → Flags → List (List Step)
  | [], _ => []
  | b :: rest, flags => patternSteps groups b flags none :: branchSteps groups rest flags

end

mutual

def pieceComplaint? (groups : Nat → Width) (template : Bool) : Piece → Option Complaint
  | .alt branches => branchComplaint? groups template branches
  | .group _ body => complaint? groups template body
  | .scoped _ _ body => complaint? groups template body
  | .rep greed _ _ body =>
    if template then some (.repeatInTemplate greed) else complaint? groups template body
  | .atomic body => complaint? groups template body
  | .ahead _ body => complaint? groups template body
  | .behind _ body =>
    if (width groups body).isFixed then complaint? groups template body
    else some .variableLookbehind
  | .cond _ yes no => (complaint? groups template yes).or (complaint? groups template no)
  | _ => none

/-- Why a pattern makes no program; the first reason counts. -/
def complaint? (groups : Nat → Width) (template : Bool) : List Piece → Option Complaint
  | [] => none
  | p :: rest => (pieceComplaint? groups template p).or (complaint? groups template rest)

def branchComplaint? (groups : Nat → Width) (template : Bool) :
    List (List Piece) → Option Complaint
  | [] => none
  | b :: rest => (complaint? groups template b).or (branchComplaint? groups template rest)

end

/-- No look-behind reaches this far. -/
def lookLimit : Nat := 2147483648

mutual

def Step.isTooWide : Step → Bool
  | .branch branches => anyBranchTooWide branches
  | .loop _ _ _ body => anyTooWide body
  | .settle _ _ body => anyTooWide body
  | .atomic body => anyTooWide body
  | .look _ back body => lookLimit ≤ back || anyTooWide body
  | .cond _ yes no => anyTooWide yes || anyTooWide no
  | _ => false

def anyTooWide : List Step → Bool
  | [] => false
  | s :: rest => s.isTooWide || anyTooWide rest

def anyBranchTooWide : List (List Step) → Bool
  | [] => false
  | b :: rest => anyTooWide b || anyBranchTooWide rest

end

/-- The character that a branch begins with, as it stands. -/
def branchCode? (flags : Flags) : List Piece → Option SetItem
  | .code n :: _ => if flags.ignoreCase && isCasedIn flags.ascii n then none else some (.code n)
  | _ => none

mutual

/-- The set that the first character of every match is in, read off a pattern that begins with a set
or with branches of which each begins with a character. Classes in it are taken in the mode `ascii`
of the whole pattern, whatever the options at their place. -/
def leadTest? (ascii : Bool) : List Piece → Flags → Option Test
  | [], _ => none
  | p :: _, flags => pieceLeadTest? ascii p flags

/-- The set that the first character of every match of a piece is in. -/
def pieceLeadTest? (ascii : Bool) : Piece → Flags → Option Test
  | .group _ body, flags => leadTest? ascii body flags
  | .scoped add remove body, flags => leadTest? ascii body (flags.within add remove)
  | .alt branches, flags =>
    (branches.mapM (branchCode? flags)).map (Test.inSet ascii false)
  | .set negated items, flags =>
    let kept := items.any fun item =>
      match item with
      | .range _ _ => SetItem.hasCase flags.ascii item || SetItem.leavesBasic item
      | _ => SetItem.hasCase flags.ascii item
    if flags.ignoreCase && kept then none else some (.inSet ascii negated items)
  | _, _ => none

end

def beginsWithCode : List Step → Bool
  | .mark _ :: rest => beginsWithCode rest
  | .char test :: _ => test.onlyCode?.isSome
  | _ => false

structure Compiled where
  steps : List Step
  /-- No match is shorter. -/
  least : Nat
  /-- Every match begins with one known character. -/
  fromCode : Bool
  /-- The first character of every match passes. -/
  lead : Option Test

/-- The program of a pattern, given the widths of its groups. -/
def Compiled.ofPattern (groups : Nat → Width) (flags : Flags) (pattern : Pattern) :
    Except Fault Compiled := do
  if let some complaint := complaint? groups flags.template pattern then
    throw (.rejected complaint none)
  let steps := patternSteps groups pattern flags none
  if anyTooWide steps then throw .tooWide
  let least := (width groups pattern).least
  let fromCode := 0 < least && beginsWithCode steps
  let lead := if least == 0 || fromCode then none else leadTest? flags.ascii pattern flags
  return { steps, least, fromCode, lead }

end NameLint.Pattern
