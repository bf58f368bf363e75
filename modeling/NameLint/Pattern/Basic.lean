/-!
# Patterns

The abstract form of a regular expression: pieces in a row, some of which hold
patterns in turn. Groups are numbered from one in the order of their opening
brackets. Options are switched by `scoped` for a part of the pattern; an
assertion looks at the text without moving.
-/

namespace NameLint

/-- The class of characters behind a letter escape. -/
inductive CharClass where
  | digit
  | blank
  | word
  deriving DecidableEq, Repr

inductive SetItem where
  | code (n : Nat)
  | range (low high : Nat)
  | oneOf (c : CharClass)
  | noneOf (c : CharClass)
  deriving DecidableEq, Repr

/-- Places of a text that can be asked for. -/
inductive Place where
  | lineStart
  | textStart
  | lineEnd
  | textEnd
  | wordEdge
  | notWordEdge
  deriving DecidableEq, Repr

/-- How a repetition chooses its count. -/
inductive Greed where
  | most
  | least
  | allOrNothing
  deriving DecidableEq, Repr

/-- The options of a pattern or of a part of it. `unicode` and `template` matter only to the rules
on which options may be combined. -/
structure Flags where
  ignoreCase : Bool
  multiLine : Bool
  dotAll : Bool
  verbose : Bool
  ascii : Bool
  unicode : Bool
  template : Bool
  deriving DecidableEq, Repr

namespace Flags

def none : Flags :=
  ⟨false, false, false, false, false, false, false⟩

def union (a b : Flags) : Flags :=
  ⟨a.ignoreCase || b.ignoreCase, a.multiLine || b.multiLine, a.dotAll || b.dotAll,
    a.verbose || b.verbose, a.ascii || b.ascii, a.unicode || b.unicode, a.template || b.template⟩

def diff (a b : Flags) : Flags :=
  ⟨a.ignoreCase && !b.ignoreCase, a.multiLine && !b.multiLine, a.dotAll && !b.dotAll,
    a.verbose && !b.verbose, a.ascii && !b.ascii, a.unicode && !b.unicode,
    a.template && !b.template⟩

def meets (a b : Flags) : Bool :=
  (a.ignoreCase && b.ignoreCase) || (a.multiLine && b.multiLine) || (a.dotAll && b.dotAll) ||
    (a.verbose && b.verbose) || (a.ascii && b.ascii) || (a.unicode && b.unicode) ||
    (a.template && b.template)

/-- Options inside a part that turns `add` on and `remove` off; a character mode replaces the one
outside. -/
def within (outer add remove : Flags) : Flags :=
  let base := if add.ascii || add.unicode then
      { outer with ascii := false, unicode := false } else outer
  (base.union add).diff remove

end Flags

/-- One piece of a pattern. What stands in brackets is a pattern again, that is, pieces in a row; a
bracket without options or number is `scoped` with no options. -/
inductive Piece where
  | any
  | code (n : Nat)
  | notCode (n : Nat)
  | set (negated : Bool) (items : List SetItem)
  | at (place : Place)
  | alt (branches : List (List Piece))
  | group (number : Nat) (body : List Piece)
  | scoped (add remove : Flags) (body : List Piece)
  | rep (greed : Greed) (least : Nat) (most : Option Nat) (body : List Piece)
  | atomic (body : List Piece)
  | ahead (negated : Bool) (body : List Piece)
  | behind (negated : Bool) (body : List Piece)
  | same (number : Nat)
  | cond (number : Nat) (yes no : List Piece)

/-- Pieces that are matched one after the other. -/
abbrev Pattern := List Piece

namespace Pattern

/-- No repetition count reaches this one. -/
def countLimit : Nat := 4294967295

/-- The least and the greatest number of characters that a pattern takes. -/
structure Width where
  least : Nat
  most : Nat
  deriving DecidableEq, Repr

namespace Width

def zero : Width := ⟨0, 0⟩

def one : Width := ⟨1, 1⟩

def add (a b : Width) : Width := ⟨a.least + b.least, a.most + b.most⟩

def join (a b : Width) : Width := ⟨min a.least b.least, max a.most b.most⟩

/-- A width never passes the limit of repetition counts. -/
def capped (a : Width) : Width := ⟨min a.least (countLimit - 1), min a.most countLimit⟩

def isFixed (a : Width) : Bool := a.least == a.most

end Width

mutual

def pieceWidth (groups : Nat → Width) : Piece → Width
  | .any => .one
  | .code _ => .one
  | .notCode _ => .one
  | .set _ _ => .one
  | .at _ => .zero
  | .alt branches =>
    match branches with
    | [] => .zero
    | b :: rest => joinedWidth groups rest (width groups b)
  | .group _ body => width groups body
  | .scoped _ _ body => width groups body
  | .rep _ least most body =>
    let w := width groups body
    ⟨w.least * least, w.most * most.getD countLimit⟩
  | .atomic body => width groups body
  | .ahead _ _ => .zero
  | .behind _ _ => .zero
  | .same number => groups number
  | .cond _ yes no => (width groups yes).join (width groups no)

def width (groups : Nat → Width) : List Piece → Width
  | [] => .zero
  | p :: rest => ((pieceWidth groups p).add (width groups rest)).capped

/-- The join of the widths with `acc`. -/
def joinedWidth (groups : Nat → Width) : List (List Piece) → Width → Width
  | [], acc => acc
  | p :: rest, acc => joinedWidth groups rest (acc.join (width groups p))

end

end Pattern

end NameLint
