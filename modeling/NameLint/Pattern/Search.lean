import NameLint.Pattern.Program

/-!
# Searching a text

Matching goes through the choices of a program in order and takes the first that
lets the rest match. What follows a step is a function from a place and a scan
to the outcome, so that every step is one recursion on the program.

A scan remembers the marks of the groups and the last place at which a choice
was begun. A choice that fails gives its marks up, in a loop all that it set and
outside only those past the ones there were before. The place stays where it is:
a settled repetition goes on from the place that its last, failed iteration
left.

An iteration beyond the least count is tried only where it begins at another
place than the one before, which bounds the number of iterations by the number
of pairs of places.
-/

namespace NameLint.Pattern

/-- What a match keeps beside its place: the place last begun at, and the marks so far. Slots `2n`
and `2n + 1` are the start and the end of group `n + 1`. -/
structure Scan where
  reached : Nat
  marks : List (Option Nat)

namespace Scan

/-- A choice is begun at `p`. -/
def moved (s : Scan) (p : Nat) : Scan :=
  { s with reached := p }

/-- The mark in a slot is set to `p`; slots that are skipped are empty. -/
def mark (s : Scan) (slot p : Nat) : Scan :=
  if slot < s.marks.length then { s with marks := s.marks.set slot (some p) }
  else
    { s with marks := s.marks ++ List.replicate (slot - s.marks.length) none ++ [some p] }

/-- The marks go back to those of `saved`: all of them if `deep`, else only their number. -/
def restored (s saved : Scan) (deep : Bool) : Scan :=
  { s with marks := if deep then saved.marks else s.marks.take saved.marks.length }

def span? (s : Scan) (number : Nat) : Option (Nat × Nat) :=
  match s.marks[2 * number - 2]?, s.marks[2 * number - 1]? with
  | some (some a), some (some b) => if a ≤ b then some (a, b) else none
  | _, _ => none

def marksCross : List (Option Nat) → Bool
  | some a :: some b :: rest => b < a || marksCross rest
  | _ :: _ :: rest => marksCross rest
  | _ => false

/-- Whether a group ends before it begins. -/
def isCrossed (s : Scan) : Bool :=
  marksCross s.marks

end Scan

/-- Whether the rest matched, and the scan it left. -/
structure Outcome where
  found : Bool
  scan : Scan

namespace Outcome

def fail (s : Scan) : Outcome := ⟨false, s⟩

/-- A match stands; a failure is followed by `next` on its scan. -/
def orElse (o : Outcome) (next : Scan → Outcome) : Outcome :=
  if o.found then o else next o.scan

/-- A failure puts the place back to `p`. -/
def orBack (o : Outcome) (p : Nat) : Outcome :=
  o.orElse fun s => fail (s.moved p)

/-- A match is followed by `next` on its scan; a failure stands. -/
def andThen (o : Outcome) (next : Scan → Outcome) : Outcome :=
  if o.found then next o.scan else o

end Outcome

/-- What remains to be matched at a place. -/
abbrev Rest := Nat → Scan → Outcome

def done : Rest :=
  fun p s => ⟨true, s.moved p⟩

def atEnd (text : Array Char) : Rest :=
  fun p s => if p == text.size then done p s else .fail s

def wordAt (text : Array Char) (flags : Flags) (p : Nat) : Bool :=
  match text[p]? with
  | some c => CharClass.holds flags.ascii c .word
  | none => false

/-- Whether the characters before and after a place differ in being word characters. -/
def atWordEdge (text : Array Char) (flags : Flags) (p : Nat) : Bool :=
  (0 < p && wordAt text flags (p - 1)) != wordAt text flags p

/-- Whether a place is of the kind asked for. The end of a line is the end of the text or the place
before a final line feed, and with several lines before any line feed. An empty text has neither
word edges nor other places. -/
def placeHolds (text : Array Char) (flags : Flags) (p : Nat) : Place → Bool
  | .textStart => p == 0
  | .lineStart => p == 0 || (flags.multiLine && text[p - 1]? == some '\n')
  | .textEnd => p == text.size
  | .lineEnd =>
    p == text.size || (text[p]? == some '\n' && (flags.multiLine || p + 1 == text.size))
  | .wordEdge => text.size != 0 && atWordEdge text flags p
  | .notWordEdge => text.size != 0 && !atWordEdge text flags p

/-- How many of the next `n` characters from `p` on pass the test, up to the first that does not. -/
def runLength (text : Array Char) (test : Test) : Nat → Nat → Nat
  | 0, _ => 0
  | n + 1, p => if test.holdsAt text p then runLength text test n (p + 1) + 1 else 0

/-- The characters from `p` on are counted; for a folded set the scan follows them. -/
def counted (test : Test) (p n : Nat) (s : Scan) : Scan :=
  s.moved (if test.isFolded then p + n else p)

/-- The rest is tried `more` characters after `p`, then at each place before that, down to `p`; with
a single character that can follow, only in front of it. -/
def backOff (text : Array Char) (next : Option Nat) (inLoop : Bool) (saved : Scan) (rest : Rest)
    (p : Nat) : Nat → Scan → Outcome
  | 0, s => attempt p s fun s => .fail s
  | more + 1, s => attempt (p + more + 1) s (backOff text next inLoop saved rest p more)
where
  attempt (q : Nat) (s : Scan) (otherwise : Scan → Outcome) : Outcome :=
    let possible := match next with
      | some n => Test.holdsAt text q (.exactly n)
      | none => true
    if possible then
      (rest q (s.moved q)).orElse fun s => otherwise (s.restored saved inLoop)
    else otherwise s

/-- The rest is tried at `p`, then after each further character that passes the test, up to `more`
of them. -/
def stepOn (text : Array Char) (test : Test) (inLoop : Bool) (saved : Scan) (rest : Rest) :
    Nat → Rest
  | 0, p, s => (rest p (s.moved p)).orElse fun s =>
    .fail (counted test p (runLength text test 1 p) (s.restored saved inLoop))
  | more + 1, p, s => (rest p (s.moved p)).orElse fun s =>
    let n := runLength text test 1 p
    let s := counted test p n (s.restored saved inLoop)
    if n == 0 then .fail s else stepOn text test inLoop saved rest more (p + 1) s

/-- A repetition of a single character. -/
def matchRun (text : Array Char) (greed : Greed) (least : Nat) (most : Option Nat) (test : Test)
    (next : Option Nat) (inLoop : Bool) (rest : Rest) : Rest := fun p s =>
  let ahead := text.size - p
  if ahead < least then .fail s
  else
    match greed with
    | .least =>
      let n := runLength text test least p
      let s := counted test p n s
      if n < least then .fail s
      else
        let more := match most with
          | some m => min (m - least) ahead
          | none => ahead
        stepOn text test inLoop s rest more (p + least) s
    | _ =>
      let n := runLength text test (min ahead (most.getD ahead)) p
      let s := counted test p n s
      if n < least then .fail s
      else if greed == .allOrNothing then rest (p + n) s
      else backOff text next inLoop s rest (p + least) (n - least) s

def isBelow (k : Nat) : Option Nat → Bool
  | some most => k < most
  | none => true

/-- Iterations of `body` after the first `k`, as many as possible; `last` is where the iteration
before began. -/
def loopMost (body : Rest → Rest) (least : Nat) (most : Option Nat) (rest : Rest) :
    Nat → Nat → Option Nat → Rest
  | 0, _, _ => fun _ s => .fail s
  | fuel + 1, k, last => fun p s =>
    let s := s.moved p
    if k < least then (body (loopMost body least most rest fuel (k + 1) last) p s).orBack p
    else if isBelow k most && last != some p then
      (body (loopMost body least most rest fuel (k + 1) (some p)) p s).orElse fun t =>
        (rest p ((t.restored s true).moved p)).orBack p
    else (rest p s).orBack p

/-- Iterations of `body` after the first `k`, as few as possible. -/
def loopLeast (body : Rest → Rest) (least : Nat) (most : Option Nat) (inLoop : Bool) (rest : Rest) :
    Nat → Nat → Option Nat → Rest
  | 0, _, _ => fun _ s => .fail s
  | fuel + 1, k, last => fun p s =>
    let s := s.moved p
    if k < least then
      (body (loopLeast body least most inLoop rest fuel (k + 1) last) p s).orBack p
    else
      (rest p s).orElse fun t =>
        let t := (t.restored s inLoop).moved p
        if isBelow k most && last != some p then
          (body (loopLeast body least most inLoop rest fuel (k + 1) (some p)) p t).orBack p
        else .fail t

/-- The fixed iterations of a settled repetition that began at `start`. -/
def settleFirst (body : Rest) (start : Nat) : Nat → Scan → Outcome
  | 0, s => ⟨true, s⟩
  | n + 1, s => ((body s.reached s).orBack start).andThen (settleFirst body start n)

/-- The further iterations of a settled repetition, up to `more` of them. -/
def settleMore (body : Rest) : Nat → Option Nat → Scan → Scan
  | 0, _, s => s
  | more + 1, last, s =>
    if last == some s.reached then s
    else
      let o := body s.reached s
      if o.found then settleMore body more (some s.reached) o.scan
      else o.scan.restored s true

/-- Whether the text at `i` goes on with the `n` characters at `j`. -/
def repeats (text : Array Char) (flags : Flags) : Nat → Nat → Nat → Bool
  | _, _, 0 => true
  | i, j, n + 1 =>
    match text[i]?, text[j]? with
    | some a, some b => charsAgree flags a b && repeats text flags (i + 1) (j + 1) n
    | _, _ => false

/-- Whether a branch can be passed by at once, because its first character is not there. -/
def isPassedBy (text : Array Char) (p : Nat) : List Step → Bool
  | .char test :: _ => test.isPlain && !test.holdsAt text p
  | _ => false

/-- More iterations than any match has beyond the least count. -/
def iterationLimit (text : Array Char) : Nat :=
  (text.size + 2) * (text.size + 2)

mutual

/-- A step in front of what remains; `inLoop` says whether it is repeated by a loop. -/
def matchStep (text : Array Char) : Step → Bool → Rest → Rest
  | .char test, _, rest => fun p s => if test.holdsAt text p then rest (p + 1) s else .fail s
  | .mark slot, _, rest => fun p s => rest p (s.mark slot p)
  | .at flags place, _, rest => fun p s =>
    if placeHolds text flags p place then rest p s else .fail s
  | .branch branches, inLoop, rest => fun p s => matchBranches text branches inLoop rest s p s
  | .run greed least most test next, inLoop, rest =>
    matchRun text greed least most test next inLoop rest
  | .loop hasty least most body, inLoop, rest =>
    let fuel := least + iterationLimit text
    let inner := matchSteps text body true
    if hasty then loopLeast inner least most inLoop rest fuel 0 none
    else loopMost inner least most rest fuel 0 none
  | .settle least most body, inLoop, rest => fun p s =>
    let inner := matchSteps text body inLoop done
    (settleFirst inner p least (s.moved p)).andThen fun s =>
      let more := match most with
        | some m => min (m - least) (iterationLimit text)
        | none => iterationLimit text
      let s := settleMore inner more none s
      rest s.reached s
  | .atomic body, inLoop, rest => fun p s =>
    ((matchSteps text body inLoop done p (s.moved p)).orBack p).andThen fun s => rest s.reached s
  | .look negated back body, inLoop, rest => fun p s =>
    if p < back then (if negated then rest p s else .fail s)
    else
      let o := matchSteps text body inLoop done (p - back) (s.moved (p - back))
      if !negated then o.andThen (rest p)
      else if o.found then .fail o.scan
      else rest p (o.scan.restored s inLoop)
  | .same flags number, _, rest => fun p s =>
    match s.span? number with
    | some (a, b) => if repeats text flags p a (b - a) then rest (p + (b - a)) s else .fail s
    | none => .fail s
  | .cond number yes no, inLoop, rest => fun p s =>
    if (s.span? number).isSome then matchSteps text yes inLoop rest p s
    else matchSteps text no inLoop rest p s

def matchSteps (text : Array Char) : List Step → Bool → Rest → Rest
  | [], _, rest => rest
  | step :: steps, inLoop, rest => matchStep text step inLoop (matchSteps text steps inLoop rest)

/-- The first of several branches that lets the rest match. -/
def matchBranches (text : Array Char) : List (List Step) → Bool → Rest → Scan → Rest
  | [], _, _, _ => fun _ s => .fail s
  | b :: branches, inLoop, rest, saved => fun p s =>
    if isPassedBy text p b then matchBranches text branches inLoop rest saved p s
    else
      (matchSteps text b inLoop rest p (s.moved p)).orElse fun t =>
        matchBranches text branches inLoop rest saved p (t.restored saved inLoop)

end

namespace Compiled

/-- The number of places at which a match is looked for in a text that is not too short: all that
have a character where the first one is known, otherwise all that leave room for the shortest
match and the one after them. -/
def startCount (compiled : Compiled) (text : Array Char) : Nat :=
  if compiled.fromCode || compiled.lead.isSome then text.size
  else text.size + 2 - max 1 compiled.least

/-- Whether the first character of every match can stand at a place. -/
def canStart (compiled : Compiled) (text : Array Char) (p : Nat) : Bool :=
  match compiled.lead with
  | some test => test.holdsAt text p
  | none => true

def searchAt (compiled : Compiled) (text : Array Char) : List Nat → Except Fault Bool
  | [] => return false
  | p :: rest =>
    if compiled.canStart text p then
      let o := matchSteps text compiled.steps false done p ⟨p, []⟩
      if !o.found then searchAt compiled text rest
      else if o.scan.isCrossed then throw .crossedGroup
      else return true
    else searchAt compiled text rest

def search (compiled : Compiled) (text : String) : Except Fault Bool :=
  let chars := text.toList.toArray
  if chars.size < compiled.least then return false
  else compiled.searchAt chars (List.range (compiled.startCount chars))

/-- Whether the pattern matches the text from its beginning to its end. -/
def takesWhole (compiled : Compiled) (text : String) : Except Fault Bool :=
  let chars := text.toList.toArray
  let o := matchSteps chars compiled.steps false (atEnd chars) 0 ⟨0, []⟩
  if chars.size < compiled.least || !o.found then return false
  else if o.scan.isCrossed then throw .crossedGroup
  else return true

/-- What the match that begins at `p` leaves, if one does. -/
def matchAt? (compiled : Compiled) (text : Array Char) (p : Nat) : Option Scan :=
  let o := matchSteps text compiled.steps false done p ⟨p, []⟩
  if compiled.canStart text p && o.found then some o.scan else none

def matchEnd? (compiled : Compiled) (text : Array Char) (p : Nat) : Option Nat :=
  (compiled.matchAt? text p).map Scan.reached

/-- The characters from `p` on that are left when the matches are taken out; each is looked for
from the end of the one before. A match of no characters takes nothing out. -/
def leftFrom (compiled : Compiled) (text : Array Char) (p : Nat) : List Char :=
  if inside : p < text.size then
    let q := (compiled.matchEnd? text p).getD p
    if p < q then compiled.leftFrom text q else text[p] :: compiled.leftFrom text (p + 1)
  else []
termination_by text.size - p

/-- The text with the matches taken out. -/
def without (compiled : Compiled) (text : String) : String :=
  String.ofList (compiled.leftFrom text.toList.toArray 0)

end Compiled

end NameLint.Pattern
