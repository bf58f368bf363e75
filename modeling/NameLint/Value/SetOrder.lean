import NameLint.Value

/-!
# The order of a set

A set has no order of its own, but it is written in one. The members of a set of
numbers stand in a table, each at the slot that its residue asks for or at the
next one that is free on its way, and are written slot by slot. Equal numbers
have one residue, whatever their kinds. A set with other members is written in
the order in which they came.
-/

namespace NameLint.Value

def residuePrime : Nat := 2305843009213693951

/-- The binary digits of the prime: two to this power has the residue one. -/
def residueDigits : Int := 61

/-- A residue with its sign; no number has the residue minus one. -/
def signedResidue (negative : Bool) (n : Nat) : Int :=
  let r := if negative then -(n % residuePrime : Int) else (n % residuePrime : Int)
  if r == -1 then -2 else r

/-- The residue of a number. What is no number has none. -/
def residue? (v : Value) : Option Int :=
  match v.number? with
  | some (.whole n) => some (signedResidue (n < 0) n.natAbs)
  | some (.double (.finite negative m e)) =>
    some (signedResidue negative (m * Binary64.twoTo (e % residueDigits)))
  | some (.double (.infinity negative)) => some (if negative then -314159 else 314159)
  | _ => none

/-- The slots that are looked at one after the other before the way goes on elsewhere. -/
def slotsInRow (size i : Nat) : Nat :=
  if i + 9 < size then 10 else 1

/-- The free slot on the way of a member that asks for slot `i`; `far` leads the way on. -/
def freeSlot (table : Array (Option Value)) : Nat → Nat → Nat → Nat
  | 0, i, _ => i
  | fuel + 1, i, far =>
    let row := (List.range (slotsInRow table.size i)).map (i + ·)
    match row.find? fun j => (table.getD j none).isNone with
    | some j => j
    | none =>
      let far := far / 32
      freeSlot table fuel ((i * 5 + 1 + far) % table.size) far

/-- The member with its residue is put into the table. -/
def putInTable (table : Array (Option Value)) (member : Int × Value) : Array (Option Value) :=
  let start := (member.1 % (table.size : Int)).toNat
  let far := (member.1 % 18446744073709551616).toNat
  table.setIfInBounds (freeSlot table (table.size + 64) start far) (some member.2)

/-- The number of slots for `n` members: eight, or for more than four members the first power of two
past their double. -/
def tableSize (n : Nat) : Nat :=
  if n < 5 then 8 else Nat.pow 2 (Nat.log2 (2 * n) + 1)

/-- The members of a set in the order in which they are written. -/
def inSetOrder (members : List Value) : List Value :=
  match members.mapM residue? with
  | none => members
  | some residues =>
    let empty : Array (Option Value) := Array.replicate (tableSize members.length) none
    ((residues.zip members).foldl putInTable empty).toList.filterMap id

end NameLint.Value
