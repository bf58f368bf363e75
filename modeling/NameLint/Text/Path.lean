/-!
# Paths

The normal form of a path: no empty parts, no parts that stay in place, no slash
at the end. Two slashes at the very front are kept apart from one. A path is
resolved when also no part of it is undone by a step up.
-/

namespace NameLint.Text

/-- The greatest length of a part of a path in bytes. -/
def longestPart : Nat := 255

/-- The length in bytes from which on a path is refused. -/
def pathLimit : Nat := 4096

/-- The parts of a path that lead somewhere. -/
def pathParts (path : String) : List String :=
  (path.splitOn "/").filter fun part => part != "" && part != "."

/-- What a path begins with: nothing, one slash, or exactly two. -/
def pathRoot (path : String) : String :=
  match path.toList with
  | '/' :: '/' :: '/' :: _ => "/"
  | '/' :: '/' :: _ => "//"
  | '/' :: _ => "/"
  | _ => ""

def normalPath (path : String) : String :=
  let normal := pathRoot path ++ "/".intercalate (pathParts path)
  if normal == "" then "." else normal

/-- A path below another one; a path with a root of its own stands alone. -/
def joinPath (above path : String) : String :=
  if pathRoot path == "" then above ++ "/" ++ path else path

/-- One more part after those already taken, the nearest first. A step up takes away the part before
it; above the root there is nothing, and above the start the step stays. -/
def addPart (rooted : Bool) (done : List String) (part : String) : List String :=
  if part != ".." then part :: done
  else
    match done with
    | [] => if rooted then [] else [part]
    | last :: above => if last == ".." then part :: done else above

/-- The normal form of a path in which no part is followed by a step up. -/
def resolvedPath (path : String) : String :=
  let root := pathRoot path
  let parts := ((pathParts path).foldl (addPart (root != "")) []).reverse
  let resolved := root ++ "/".intercalate parts
  if resolved == "" then "." else resolved

/-- The paths that lead to the parts of a path, the path itself last. -/
def pathChain (path : String) : List String :=
  let parts := pathParts path
  (List.range parts.length).map fun n => pathRoot path ++ "/".intercalate (parts.take (n + 1))

end NameLint.Text
