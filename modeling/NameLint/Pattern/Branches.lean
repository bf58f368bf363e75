import NameLint.Pattern.Basic

/-!
# Rows and branches

The forms that brackets and bars are given when a pattern is read. Brackets
without options or number only hold pieces together: at the end of a row they
are opened. Of branches, the pieces that all begin with are taken out in front,
and if a single character is left in each, the branches are one set.
-/

namespace NameLint.Pattern

/-- The pieces in a bracket that has neither options nor a number. -/
def Piece.plainBody? : Piece → Option (List Piece)
  | .scoped add remove body =>
    if add == Flags.none && remove == Flags.none then some body else none
  | _ => none

def unpacked (row : List Piece) : List Piece :=
  row.flatMap fun p => (Piece.plainBody? p).getD [p]

/-- A repetition of a piece; a plain bracket gives its pieces. -/
def repetition (greed : Greed) (least : Nat) (most : Option Nat) (p : Piece) : Piece :=
  .rep greed least most ((Piece.plainBody? p).getD [p])

/-- Whether two pieces are the same and hold no pattern. -/
def Piece.isSameLeaf : Piece → Piece → Bool
  | .any, .any => true
  | .code m, .code n => m == n
  | .notCode m, .notCode n => m == n
  | .set b xs, .set c ys => b == c && xs == ys
  | .at x, .at y => x == y
  | .same m, .same n => m == n
  | _, _ => false

def beginsWithLeaf (p : Piece) : List Piece → Bool
  | [] => false
  | q :: _ => Piece.isSameLeaf p q

/-- The pieces that `first` and all other branches begin with, and what is left of each branch. -/
def commonLead : List Piece → List (List Piece) → List Piece × List (List Piece)
  | [], others => ([], [] :: others)
  | p :: first, others =>
    if others.all (beginsWithLeaf p) then
      let (lead, left) := commonLead first (others.map (List.drop 1))
      (p :: lead, left)
    else ([], (p :: first) :: others)

/-- The members of the set that a branch of a single character stands for. -/
def setMembers? : List Piece → Option (List SetItem)
  | [.code n] => some [.code n]
  | [.set false items] => some items
  | _ => none

def joined (branches : List (List Piece)) : Piece :=
  match branches.mapM setMembers? with
  | some members => .set false members.flatten.eraseDups
  | none => .alt branches

def ofBranches : List (List Piece) → Pattern
  | [] => []
  | [branch] => branch
  | first :: others =>
    let (lead, left) := commonLead first others
    lead ++ [joined left]

end NameLint.Pattern
