/-!
# The stack

The text of a nested value is made by recursion, and a nested pattern is read by
recursion. How far that can go is up to the host: to the limit it sets, and to how
deep in its own calls it uses the library. Both are taken as given, and everything
that can run out of stack depends on them.
-/

namespace NameLint

/-- What the text of a value is made for. Each is made at a depth of calls of its own. -/
inductive Writing where
  | message
  | keyName
  | notANode
  | loadedSeverity
  | unknownSeverity
  | configuration
  | options
  | identifier
  | description

/-- The stack that the host leaves. -/
class Stack where
  /-- How many calls a text may nest. -/
  room : Writing → Nat
  /-- Whether reading a pattern nests too many calls. -/
  exhausts : String → Bool

namespace Stack

def bracketDepth (cs : List Char) : Nat :=
  (cs.foldl (fun (here, most) c =>
    let next := if c == '(' then here + 1 else if c == ')' then here - 1 else here
    (next, max most next)) (0, 0)).2

/-- A limit of a thousand calls, some of which are in use. -/
scoped instance standard : Stack where
  room _ := 980
  exhausts text := 490 ≤ bracketDepth text.toList

end Stack

end NameLint
