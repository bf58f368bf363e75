import NameLint.Pattern.Basic
import NameLint.Text.Case
import NameLint.Text.Word

/-!
# Tests of single characters

A piece that takes one character becomes a test once the options are known. A
character without another case is compared as it is, also where case is
disregarded; any other is compared by its lower case. Lower case letters that
share an upper case count as one.

A set is folded only if one of its members has another case. Then the text's
character is lowered first, and each member of the basic plane stands for all
characters with its lower case. A character past the basic plane stands for
itself, and a range that reaches past it also holds a character if it holds its
upper case.
-/

namespace NameLint.Pattern

open Text

def lowerIn (ascii : Bool) (n : Nat) : Nat :=
  if ascii && 128 ≤ n then n else lower n

/-- Whether a code point has another case in the mode given by `ascii`. -/
def isCasedIn (ascii : Bool) (n : Nat) : Bool :=
  if ascii then n < 128 && isCased n else isCased n

/-- The lower case letters that count as `n`, which is in lower case. -/
def kindred (ascii : Bool) (n : Nat) : List Nat :=
  if ascii then [n] else n :: siblings n

/-- The code points whose lower case is `n`. -/
def raisings (ascii : Bool) (n : Nat) : List Nat :=
  let latin := if 97 ≤ n && n ≤ 122 then [n - 32] else []
  let others :=
    if ascii then []
    else Case.lowering.toList.filterMap fun s =>
      let m := Int.ofNat n - s.distance
      if 0 ≤ m && s.covers m.toNat then some m.toNat else none
  (if lowerIn ascii n == n then [n] else []) ++ latin ++ others

/-- Whether a run of code points has a member between `low` and `high`. -/
def meetsRun (low high : Nat) (s : Shift) : Bool :=
  let skip := (low - s.first + s.step - 1) / s.step
  s.first + skip * s.step ≤ min s.last high

def rangeIsCased (ascii : Bool) (low high : Nat) : Bool :=
  (low ≤ 90 && 65 ≤ high) || (low ≤ 122 && 97 ≤ high) ||
    (!ascii && (Case.lowering.any (meetsRun low high) || Case.raising.any (meetsRun low high)))

def basicEnd : Nat := 0xFFFF

def CharClass.holds (ascii : Bool) (c : Char) : CharClass → Bool
  | .digit => if ascii then c.isDigit else isDecimalDigit c
  | .blank => if ascii then c == ' ' || ('\t' ≤ c && c ≤ '\r') else isBlank c
  | .word => if ascii then c.isAlphanum || c == '_' else isWord c

namespace SetItem

/-- Whether a member of a set has another case. -/
def hasCase (ascii : Bool) : SetItem → Bool
  | .code n => isCasedIn ascii n
  | .range low high => rangeIsCased ascii low high
  | _ => false

/-- Whether a member of a set reaches past the basic plane. -/
def leavesBasic : SetItem → Bool
  | .code n => basicEnd < n
  | .range _ high => basicEnd < high
  | _ => false

/-- Whether a member of a set matches the character as it is. -/
def holds (ascii : Bool) (c : Char) : SetItem → Bool
  | .code n => c.toNat == n
  | .range low high => low ≤ c.toNat && c.toNat ≤ high
  | .oneOf cls => CharClass.holds ascii c cls
  | .noneOf cls => !CharClass.holds ascii c cls

/-- Whether a member of a set matches the lower case character `c` up to case. -/
def holdsFolded (ascii : Bool) (c : Char) : SetItem → Bool
  | .code n =>
    if basicEnd < n then c.toNat == n
    else (kindred ascii (lowerIn ascii n)).contains c.toNat
  | .range low high =>
    let inBasic := (kindred ascii c.toNat).any fun m =>
      (raisings ascii m).any fun n => low ≤ n && n ≤ min high basicEnd
    let raised := upper c.toNat
    inBasic || (basicEnd < high &&
      ((low ≤ c.toNat && c.toNat ≤ high) || (low ≤ raised && raised ≤ high)))
  | .oneOf cls => CharClass.holds ascii c cls
  | .noneOf cls => !CharClass.holds ascii c cls

end SetItem

inductive Test where
  | any
  | notLineFeed
  | exactly (n : Nat)
  | other (n : Nat)
  | like (ascii : Bool) (n : Nat)
  | unlike (ascii : Bool) (n : Nat)
  | inSet (ascii negated : Bool) (items : List SetItem)
  | inFolded (ascii negated : Bool) (items : List SetItem)

namespace Test

def holds (c : Char) : Test → Bool
  | .any => true
  | .notLineFeed => c != '\n'
  | .exactly n => c.toNat == n
  | .other n => c.toNat != n
  | .like ascii n => lowerIn ascii c.toNat == n
  | .unlike ascii n => lowerIn ascii c.toNat != n
  | .inSet ascii negated items => items.any (SetItem.holds ascii c) != negated
  | .inFolded ascii negated items =>
    let low := Char.ofNat (lowerIn ascii c.toNat)
    items.any (SetItem.holdsFolded ascii low) != negated

def holdsAt (text : Array Char) (p : Nat) (test : Test) : Bool :=
  match text[p]? with
  | some c => test.holds c
  | none => false

/-- The test for the character `n`, or for any other. -/
def ofCode (flags : Flags) (negated : Bool) (n : Nat) : Test :=
  if flags.ignoreCase && isCasedIn flags.ascii n then
    let low := lowerIn flags.ascii n
    if !flags.ascii && !(siblings low).isEmpty then .inFolded flags.ascii negated [.code n]
    else if negated then .unlike flags.ascii low
    else .like flags.ascii low
  else if negated then .other n
  else .exactly n

def ofSet (flags : Flags) (negated : Bool) (items : List SetItem) : Test :=
  let folded := flags.ignoreCase &&
    items.any fun item => SetItem.hasCase flags.ascii item || SetItem.leavesBasic item
  if folded then .inFolded flags.ascii negated items else .inSet flags.ascii negated items

/-- The one character that can pass. -/
def onlyCode? : Test → Option Nat
  | .exactly n => some n
  | _ => none

/-- Whether a test can be asked for in advance, before a branch is entered: it compares with one
character or with the members of a set, without regard to case. -/
def isPlain : Test → Bool
  | .exactly _ => true
  | .inSet _ _ _ => true
  | _ => false

def isFolded : Test → Bool
  | .inFolded _ _ _ => true
  | _ => false

end Test

/-- Whether two characters of the text count as one, under the options. -/
def charsAgree (flags : Flags) (a b : Char) : Bool :=
  if flags.ignoreCase then
    lowerIn flags.ascii a.toNat == lowerIn flags.ascii b.toNat
  else a == b

end NameLint.Pattern
