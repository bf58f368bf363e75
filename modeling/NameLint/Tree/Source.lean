import NameLint.Value

/-!
# Trees as they arrive

A tree arrives as lists and objects that may be shared: one object may stand at
several places. Every list and object carries a label, and two of them with one
label are one object.
-/

namespace NameLint

inductive Source where
  | scalar (v : Value)
  | list (label : Nat) (items : List Source)
  | object (label : Nat) (entries : List (String × Source))

instance : Inhabited Source := ⟨.scalar .null⟩

namespace Source

mutual

/-- The value of a tree, its labels forgotten. -/
def toValue : Source → Value
  | .scalar v => v
  | .list _ items => .list (toValues items)
  | .object _ entries => .map (toEntries entries)

def toValues : List Source → List Value
  | [] => []
  | s :: rest => toValue s :: toValues rest

def toEntries : List (String × Source) → List (Value × Value)
  | [] => []
  | (k, s) :: rest => (.text k, toValue s) :: toEntries rest

end

mutual

/-- A value as a tree in which nothing is shared, with labels from `next` on; the second part is
the first label not used. Values that are neither lists nor mappings with text keys are scalars. -/
def ofValue : Value → Nat → Source × Nat
  | .list items, next =>
    let (items, after) := ofValues items (next + 1)
    (.list next items, after)
  | .map entries, next =>
    let (entries, after) := ofEntries entries (next + 1)
    (.object next entries, after)
  | v, next => (.scalar v, next)

/-- The items of a list as trees. -/
def ofValues : List Value → Nat → List Source × Nat
  | [], next => ([], next)
  | v :: rest, next =>
    let (s, middle) := ofValue v next
    let (others, after) := ofValues rest middle
    (s :: others, after)

/-- The entries of a mapping as trees; an entry whose key is no text is passed over. -/
def ofEntries : List (Value × Value) → Nat → List (String × Source) × Nat
  | [], next => ([], next)
  | (.text k, v) :: rest, next =>
    let (s, middle) := ofValue v next
    let (others, after) := ofEntries rest middle
    ((k, s) :: others, after)
  | _ :: rest, next => ofEntries rest next

end

mutual

/-- The number of lists and objects, counted along every path. -/
def size : Source → Nat
  | .scalar _ => 0
  | .list _ items => 1 + sizeOfAll items
  | .object _ entries => 1 + sizeOfEntries entries

def sizeOfAll : List Source → Nat
  | [] => 0
  | s :: rest => size s + sizeOfAll rest

def sizeOfEntries : List (String × Source) → Nat
  | [] => 0
  | (_, s) :: rest => size s + sizeOfEntries rest

end

def label? : Source → Option Nat
  | .scalar _ => none
  | .list label _ => some label
  | .object label _ => some label

/-- Whether the source is neither a list nor an object. -/
def isScalar : Source → Bool
  | .scalar _ => true
  | _ => false

theorem size_pos_of_isScalar_eq_false {s : Source} (h : s.isScalar = false) : 0 < s.size := by
  cases s with
  | scalar v => simp [isScalar] at h
  | list label items => simp only [size]; omega
  | object label entries => simp only [size]; omega

/-- The type of a node: the text under the key that says so. -/
def typeOf? (entries : List (String × Source)) : Option String :=
  match entries.lookup "type" with
  | some (.scalar (.text s)) => some s
  | _ => none

/-- The keys of a node that hold no part of the tree. -/
def bookkeeping : List String :=
  ["type", "loc", "range", "start", "end", "leadingComments", "trailingComments",
    "innerComments", "comments", "tokens"]

/-- The entries of an object that belong to the tree: all of them, save for the bookkeeping of a
node. -/
def parts (entries : List (String × Source)) : List (String × Source) :=
  match typeOf? entries with
  | some _ => entries.filter fun e => !bookkeeping.contains e.1
  | none => entries

/-- What stands directly in a list or an object and belongs to the tree. -/
def content : Source → List Source
  | .scalar _ => []
  | .list _ items => items
  | .object _ entries => (parts entries).map Prod.snd

end Source

end NameLint
