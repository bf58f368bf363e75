import NameLint.Value
import NameLint.Text.Word
import NameLint.Text.Quoted

/-!
# The text of a value

`Value.written` is the text of a value as part of another text: texts are
quoted. `Value.shown` is its text on its own: a text is shown as it is. Both
agree on everything but texts and timestamps. Some values have no text on a given
stack: `Value.obstacle?` says what is in the way.
-/

namespace NameLint

namespace Value

/-- Doubles have the point in place between the fifth place after it and the sixteenth before it,
keep one place after it, and have exponents of two digits. -/
def numerals : NumeralFormat :=
  { above := -4, upTo := 16, wholeMark := ".0", exponentWidth := 2 }

def writtenDouble : Binary64 → String
  | .nan => "nan"
  | .infinity negative => if negative then "-inf" else "inf"
  | .finite negative m e =>
    (if negative then "-" else "") ++
      (if m == 0 then "0.0" else String.ofList (numerals.write (Decimal.shortest m e)))

def escapeByte (quote : Char) (b : UInt8) : List Char :=
  let c := Char.ofNat b.toNat
  if b.toNat < 128 then Text.escapeChar quote c else Text.escapeCode b.toNat

/-- A byte string between quotes, marked as such. -/
def writtenBytes (b : List UInt8) : String :=
  let quote := Text.quoteOf (b.map fun x => Char.ofNat x.toNat)
  String.ofList ('b' :: quote :: b.flatMap (escapeByte quote) ++ [quote])

/-- Items in round brackets; a single one is followed by a comma. -/
def inTuple : List String → String
  | [] => "()"
  | [s] => "(" ++ s ++ ",)"
  | items => "(" ++ ", ".intercalate items ++ ")"

def inBraces (items : List String) : String :=
  "\x7b" ++ ", ".intercalate items ++ "\x7d"

mutual

/-- The text of the value as part of another text. -/
def written : Value → String
  | .null => "None"
  | .bool b => if b then "True" else "False"
  | .int n => toString n
  | .float x => writtenDouble x
  | .text s => Text.quoted s
  | .list items => "[" ++ ", ".intercalate (writtenItems items) ++ "]"
  | .tuple items => inTuple (writtenItems items)
  | .map entries => inBraces (writtenEntries entries)
  | .stamp t => t.written
  | .bytes b => writtenBytes b
  | .set items => if items.isEmpty then "set()" else inBraces (writtenItems items)
  | .again mapping => if mapping then inBraces ["..."] else "[...]"

def writtenItems : List Value → List String
  | [] => []
  | v :: rest => written v :: writtenItems rest

def writtenEntries : List (Value × Value) → List String
  | [] => []
  | (k, v) :: rest => (written k ++ ": " ++ written v) :: writtenEntries rest

end

/-- What can keep the text of a value from being made. -/
inductive Obstacle where
  /-- A whole number has too many digits. -/
  | digits
  /-- The stack has no room for the calls that the value nests. -/
  | depth
  deriving DecidableEq, Repr

mutual

/-- The first obstacle to the text of the value, where `room` calls may be nested. A scalar takes
one, and what holds others takes one more than they do. A set is written as a list first. -/
def obstacle? : Nat → Value → Option Obstacle
  | 0, _ => some .depth
  | _ + 1, .int n => if n.natAbs < Binary64.tenTo Text.digitLimit then none else some .digits
  | room + 1, .list items => obstacleIn? room items
  | room + 1, .tuple items => obstacleIn? room items
  | room + 1, .map entries => entryObstacle? room entries
  | room + 1, .set items =>
    if items.isEmpty then none
    else if room == 0 then some .depth else obstacleIn? (room - 1) items
  | room + 1, .stamp t => if room + 1 < t.writtenDepth then some .depth else none
  | _ + 1, _ => none

def obstacleIn? : Nat → List Value → Option Obstacle
  | _, [] => none
  | room, v :: rest => (obstacle? room v).or (obstacleIn? room rest)

def entryObstacle? : Nat → List (Value × Value) → Option Obstacle
  | _, [] => none
  | room, (k, v) :: rest =>
    ((obstacle? room k).or (obstacle? room v)).or (entryObstacle? room rest)

end

/-- The text of the value on its own. -/
def shown : Value → String
  | .text s => s
  | .stamp t => t.shown
  | v => v.written

def shownObstacle? (room : Nat) : Value → Option Obstacle
  | .text _ => none
  | .stamp t => if room < t.shownDepth then some .depth else none
  | v => v.obstacle? room

theorem obstacle?_of_long {n : Int} (long : Binary64.tenTo Text.digitLimit ≤ n.natAbs)
    (calls : Nat) : obstacle? (calls + 1) (.int n) = some .digits := by
  rw [obstacle?, if_neg (Nat.not_lt.mpr long)]

mutual

/-- More room is no obstacle. -/
theorem obstacle?_mono (v : Value) {room more : Nat} (le : room ≤ more)
    (free : obstacle? room v = none) : obstacle? more v = none := by
  cases room with
  | zero => cases v <;> cases free
  | succ room =>
    obtain ⟨more, rfl⟩ : ∃ m, more = m + 1 := ⟨more - 1, by omega⟩
    have le := Nat.le_of_succ_le_succ le
    cases v with
    | list items => exact obstacleIn?_mono items le free
    | tuple items => exact obstacleIn?_mono items le free
    | map entries => exact entryObstacle?_mono entries le free
    | set items =>
      rw [obstacle?] at free ⊢
      split
      · rfl
      · rename_i some
        rw [if_neg some] at free
        split at free
        · cases free
        · rename_i more'
          have positive : ¬ (more == 0) = true := by
            simp only [beq_iff_eq] at *
            omega
          rw [if_neg positive]
          exact obstacleIn?_mono items (Nat.sub_le_sub_right le 1) free
    | stamp t =>
      rw [obstacle?] at free ⊢
      split at free
      · cases free
      · exact if_neg (by omega)
    | int n => exact free
    | _ => rfl

theorem obstacleIn?_mono (items : List Value) {room more : Nat} (le : room ≤ more)
    (free : obstacleIn? room items = none) : obstacleIn? more items = none := by
  cases items with
  | nil => rfl
  | cons v rest =>
    rw [obstacleIn?, Option.or_eq_none_iff] at free ⊢
    exact ⟨obstacle?_mono v le free.1, obstacleIn?_mono rest le free.2⟩

theorem entryObstacle?_mono (entries : List (Value × Value)) {room more : Nat} (le : room ≤ more)
    (free : entryObstacle? room entries = none) : entryObstacle? more entries = none := by
  cases entries with
  | nil => rfl
  | cons e rest =>
    obtain ⟨k, v⟩ := e
    rw [entryObstacle?, Option.or_eq_none_iff, Option.or_eq_none_iff] at free ⊢
    exact ⟨⟨obstacle?_mono k le free.1.1, obstacle?_mono v le free.1.2⟩,
      entryObstacle?_mono rest le free.2⟩

end

theorem entryObstacle?_eq_none_iff {room : Nat} {entries : List (Value × Value)} :
    entryObstacle? room entries = none ↔
      ∀ e ∈ entries, e.1.obstacle? room = none ∧ e.2.obstacle? room = none := by
  induction entries with
  | nil => simp [entryObstacle?]
  | cons e rest ih =>
    obtain ⟨k, v⟩ := e
    rw [entryObstacle?, Option.or_eq_none_iff, Option.or_eq_none_iff, ih, List.forall_mem_cons]

/-- What stands in a mapping with a text has a text deeper in. -/
theorem obstacle?_of_mem {entries : Entries} {room : Nat} {e : Value × Value}
    (free : (Value.map entries).obstacle? room = none) (member : e ∈ entries) :
    ∃ inner, inner < room ∧ e.1.obstacle? inner = none ∧ e.2.obstacle? inner = none := by
  cases room with
  | zero => cases free
  | succ inner =>
    exact ⟨inner, Nat.lt_succ_self inner, entryObstacle?_eq_none_iff.mp free e member⟩

/-- A text on its own takes at most one call more than inside another text. -/
theorem shownObstacle?_of_obstacle? (v : Value) {room more : Nat} (less : room < more)
    (free : v.obstacle? room = none) : v.shownObstacle? more = none := by
  cases v with
  | text s => rfl
  | stamp t =>
    have shown := t.shownDepth_le
    cases room with
    | zero => cases free
    | succ room =>
      rw [obstacle?] at free
      split at free
      · cases free
      · exact if_neg (by omega)
  | _ => exact obstacle?_mono _ (Nat.le_of_lt less) free

def kindName : Value → String
  | .null => "NoneType"
  | .bool _ => "bool"
  | .int _ => "int"
  | .float _ => "float"
  | .text _ => "str"
  | .list _ => "list"
  | .tuple _ => "tuple"
  | .map _ => "dict"
  | .stamp t => if t.time.isSome then "datetime" else "date"
  | .bytes _ => "bytes"
  | .set _ => "set"
  | .again mapping => if mapping then "dict" else "list"

end Value

end NameLint
