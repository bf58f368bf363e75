import NameLint.Text.Case

/-!
# Names

What can be told from the spelling of a name alone. Camel case and constants are
the two admitted spellings; underscores at the edges mark private members and are
put aside before a name is judged.
-/

namespace NameLint.Name

/-- A name as its body and the line end behind it, of which at most one is set apart. -/
def splitLineEnd (cs : List Char) : List Char × List Char :=
  match cs.reverse with
  | '\n' :: body => (body.reverse, ['\n'])
  | _ => (cs, [])

def dropLeading (cs : List Char) : List Char :=
  cs.dropWhile (· == '_')

def dropTrailing (cs : List Char) : List Char :=
  (dropLeading cs.reverse).reverse

/-- The name without the underscores at its edges; a final line end stays where it is and the
underscores before it count as an edge. -/
def stripUnderscores (name : String) : String :=
  let (body, lineEnd) := splitLineEnd name.toList
  String.ofList (dropTrailing (dropLeading body) ++ lineEnd)

/-- Whether the name holds an underscore and is not all upper case. -/
def isUnderscored (name : String) : Bool :=
  name.toList.contains '_' && !Text.isUpperCase name.toList

def isDashed (name : String) : Bool :=
  name.toList.contains '-'

def isPrivate (name : String) : Bool :=
  name.toList.head? == some '_'

/-- Letters and digits here are those of ASCII. -/
def isCapital (c : Char) : Bool :=
  'A' ≤ c && c ≤ 'Z'

def isCamelStart (c : Char) : Bool :=
  c == '$' || isCapital c || ('a' ≤ c && c ≤ 'z')

def isCamelPart (c : Char) : Bool :=
  isCamelStart c || c.isDigit

def isCamel : List Char → Bool
  | [] => false
  | c :: rest => isCamelStart c && rest.all isCamelPart

/-- Whether `c` may stand in a later word of a constant. -/
def isConstPart (c : Char) : Bool :=
  isCapital c || c.isDigit

/-- Whether `c` may stand in the first word of a constant. -/
def isConstStart (c : Char) : Bool :=
  isConstPart c || c == '$'

/-- Whether the characters go on with words that each have an underscore in front; `inWord` says
that the current word has begun. -/
def isConstRest (inWord : Bool) : List Char → Bool
  | [] => inWord
  | c :: rest =>
    if c == '_' then inWord && isConstRest false rest
    else isConstPart c && isConstRest true rest

/-- Whether the characters are a constant: a first word, which may hold dollar signs, and further
words, all in capitals and digits and joined by single underscores. -/
def isConst (cs : List Char) : Bool :=
  match cs.dropWhile isConstStart with
  | [] => !cs.isEmpty
  | rest => cs.head?.any isConstStart && isConstRest true rest

def isCamelOrConst (name : String) : Bool :=
  isCamel name.toList || isConst name.toList

end NameLint.Name
