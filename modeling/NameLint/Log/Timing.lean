import NameLint.Log.Record
import NameLint.Tree.Node

/-!
# Timed blocks

A timed block says when it starts and, when it is done, how long it took: with the
counts that were taken on the way, or with the reason for which it failed.
-/

namespace NameLint.Log.Timing

def started (block : String) : String :=
  "[" ++ block ++ "] Started"

def failed (block elapsed reason : String) : String :=
  "[" ++ block ++ "] Failed after " ++ elapsed ++ "s: " ++ reason

def details (counts : Entries) : String :=
  ", ".intercalate (counts.map fun e => e.1.shown ++ "=" ++ e.2.shown)

/-- The message at the end of a block. Counts stand in brackets, if there are any. -/
def completed (block elapsed : String) (counts : Entries) : String :=
  let text := details counts
  "[" ++ block ++ "] Completed in " ++ elapsed ++ "s" ++
    (if text == "" then "" else " (" ++ text ++ ")")

end NameLint.Log.Timing
