import NameLint.Number
import NameLint.Timestamp

/-!
# Values

A value is what a configuration file or a syntax tree is made of before it is
given a meaning: a scalar, a sequence, or a mapping that keeps its order. JSON
yields only mappings with text keys; configuration files also have other keys,
timestamps, byte strings, sets and fixed sequences, and collections that hold
themselves.

A truth value is also the number one or zero: it equals it, compares with it and
adds to it.
-/

namespace NameLint

inductive Value where
  | null
  | bool (b : Bool)
  | int (n : Int)
  | float (x : Binary64)
  | text (s : String)
  | list (items : List Value)
  | tuple (items : List Value)
  | map (entries : List (Value × Value))
  | stamp (t : Timestamp)
  | bytes (b : List UInt8)
  | set (items : List Value)
  /-- A list or a mapping inside of itself. -/
  | again (mapping : Bool)
  deriving Inhabited

/-- The entries of a mapping in their order. -/
abbrev Entries := List (Value × Value)

namespace Value

def number? : Value → Option Number
  | .bool b => some (.whole (if b then 1 else 0))
  | .int n => some (.whole n)
  | .float x => some (.double x)
  | _ => none

def ofNumber : Number → Value
  | .whole n => .int n
  | .double x => .float x

/-- Whether the value counts as true: not null, false, zero or empty. -/
def truthy : Value → Bool
  | .null => false
  | .bool b => b
  | .int n => n != 0
  | .float x => !x.isZero
  | .text s => s != ""
  | .list items => !items.isEmpty
  | .tuple items => !items.isEmpty
  | .map entries => !entries.isEmpty
  | .stamp _ => true
  | .bytes b => !b.isEmpty
  | .set items => !items.isEmpty
  | .again _ => true

def text? : Value → Option String
  | .text s => some s
  | _ => none

def entries? : Value → Option Entries
  | .map entries => some entries
  | _ => none

mutual

/-- Whether the value can be the key of a mapping: nothing that grows can. -/
def canBeKey : Value → Bool
  | .list _ => false
  | .map _ => false
  | .set _ => false
  | .again _ => false
  | .tuple items => allCanBeKeys items
  | _ => true

def allCanBeKeys : List Value → Bool
  | [] => true
  | v :: rest => canBeKey v && allCanBeKeys rest

end

/-- Equality of two scalars as parts of values; numbers are equal across their kinds, and what is no
number is equal to itself. -/
def sameScalar : Value → Value → Bool
  | .null, .null => true
  | .float .nan, .float .nan => true
  | .text s, .text t => s == t
  | .stamp s, .stamp t => s.same t
  | .bytes a, .bytes b => a == b
  | a, b =>
    match a.number?, b.number? with
    | some x, some y => x.same y
    | _, _ => false

mutual

/-- Equality of values. Sequences of one kind are equal item by item, mappings entry by entry in
any order. -/
def same : Value → Value → Bool
  | .list as, .list bs => sameItems as bs
  | .tuple as, .tuple bs => sameItems as bs
  | .set as, .set bs => as.length == bs.length && allIn as bs
  | .map as, .map bs => as.length == bs.length && allEntriesIn as bs
  | a, b => sameScalar a b

def sameItems : List Value → List Value → Bool
  | [], [] => true
  | a :: as, b :: bs => same a b && sameItems as bs
  | _, _ => false

def allIn : List Value → List Value → Bool
  | [], _ => true
  | a :: as, bs => bs.any (fun b => same a b) && allIn as bs

def allEntriesIn : List (Value × Value) → List (Value × Value) → Bool
  | [], _ => true
  | (k, v) :: as, bs => bs.any (fun e => same k e.1 && same v e.2) && allEntriesIn as bs

end

/-- The order of two scalars, where they have one: numbers with numbers and texts with texts. What
is no number has none with any number. -/
def compareScalar? : Value → Value → Option Ordering
  | .text s, .text t => some (compare s t)
  | a, b =>
    match a.number?, b.number? with
    | some x, some y => x.compare? y
    | _, _ => none

/-- Whether two scalars are of kinds that can be compared. -/
def areKindred : Value → Value → Bool
  | .text _, .text _ => true
  | a, b => a.number?.isSome && b.number?.isSome

mutual

def less? : Value → Value → Option Bool
  | .list as, .list bs => lessItems? as bs
  | .tuple as, .tuple bs => lessItems? as bs
  | a, b => if areKindred a b then some (compareScalar? a b == some .lt) else none

def lessItems? : List Value → List Value → Option Bool
  | _, [] => some false
  | [], _ :: _ => some true
  | a :: as, b :: bs => if same a b then lessItems? as bs else less? a b

end

end Value

namespace Entries

/-- The value under the first key equal to `key`. -/
def find? (entries : Entries) (key : Value) : Option Value :=
  (List.find? (fun e => e.1.same key) entries).map Prod.snd

def get? (entries : Entries) (key : String) : Option Value :=
  entries.find? (.text key)

/-- The first entry with that key takes the value and keeps its place and its key; a new key goes
to the end. -/
def put : Entries → Value → Value → Entries
  | [], key, value => [(key, value)]
  | (k, v) :: rest, key, value =>
    if k.same key then (k, value) :: rest else (k, v) :: put rest key value

/-- The entries written one after the other; the last value of a key wins and its first place
stays. -/
def ofPairs (pairs : List (Value × Value)) : Entries :=
  pairs.foldl (fun entries e => Entries.put entries e.1 e.2) []

end Entries

end NameLint
