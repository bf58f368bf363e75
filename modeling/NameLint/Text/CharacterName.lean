import NameLint.Text.CharacterName.Alphabets
import NameLint.Text.CharacterName.HistoricScripts
import NameLint.Text.CharacterName.Others
import NameLint.Text.CharacterName.Pictographs
import NameLint.Text.CharacterName.Syllabaries
import NameLint.Text.CharacterName.Symbols
import NameLint.Text.Letter

/-!
# Characters by name

The code point that has a given name. Most names are in tables of runs: behind
the first code point of a run stand the names of all its code points in order,
separated by semicolons or line breaks. Neighbours often begin alike, so a name
gives first, as one digit, how many words it begins with from the name before it,
and then its other words.

The names of ideographs and of two scripts end with their code points, and those
of Hangul syllables are made of the names of their letters. Case matters only in
the names of syllables and of unified ideographs.
-/

namespace NameLint.Text

namespace CharacterName

def digitOf (c : Char) : Nat :=
  if c.isDigit then c.toNat - 48 else c.toNat - 55

/-- The words of a name, given the words of the one before it. -/
def nextWords (before : List String) (item : String) : List String :=
  match item.toList with
  | [] => []
  | [d] => before.take (digitOf d)
  | d :: rest => before.take (digitOf d) ++ (String.ofList rest).splitOn " "

/-- The code point of a name, given as words, among the names from `n` on. -/
def findWords (wanted : List String) : List String → Nat → List String → Option Nat
  | [], _, _ => none
  | item :: rest, n, before =>
    let words := nextWords before item
    if words == wanted then some n else findWords wanted rest (n + 1) words

/-- The code point of a name, given as words, in a run. -/
def inRun? (wanted : List String) (run : Nat × String) : Option Nat :=
  findWords wanted (run.2.splitToList fun c => c == ';' || c == '\n') run.1 []

def inTables? (name : String) : Option Nat :=
  [alphabets, symbols, syllabaries, historicScripts, pictographs].findSome? fun table =>
    table.findSome? (inRun? (name.splitOn " "))

/-- The ranges of unified ideographs. -/
def ideographs : Ranges := #[
  (0x3400, 0x4DBF), (0x4E00, 0x9FFF), (0x20000, 0x2A6DF), (0x2A700, 0x2B738), (0x2B740, 0x2B81D),
  (0x2B820, 0x2CEA1), (0x2CEB0, 0x2EBE0), (0x30000, 0x3134A)]

/-- Stems of names that end with their code points, and the ranges of those. -/
def coded : List (String × Ranges) := [
  ("CJK COMPATIBILITY IDEOGRAPH-", #[(0xF900, 0xFA6D), (0xFA70, 0xFAD9), (0x2F800, 0x2FA1D)]),
  ("KHITAN SMALL SCRIPT CHARACTER-", #[(0x18B00, 0x18CD5)]),
  ("NUSHU CHARACTER-", #[(0x1B170, 0x1B2FB)])]

def codePoint? (cs : List Char) : Option Nat :=
  let isDigit (c : Char) : Bool := c.isDigit || ('A' ≤ c && c ≤ 'F')
  if cs.all isDigit && (cs.length == 4 || cs.length == 5) then
    some (cs.foldl (fun n d => n * 16 + digitOf d) 0)
  else none

def afterStem? (stem name : String) : Option (List Char) :=
  if stem.toList.isPrefixOf name.toList then some (name.toList.drop stem.length) else none

/-- The code point that the name ends with, if it is in the ranges. -/
def codeBehind? (name stem : String) (ranges : Ranges) : Option Nat :=
  ((afterStem? stem name).bind codePoint?).filter ranges.contains

/-- Names of the letters that begin a Hangul syllable. -/
def leadingLetters : List String := [
  "G", "GG", "N", "D", "DD", "R", "M", "B", "BB", "S", "SS", "", "J", "JJ", "C", "K", "T", "P", "H"]

/-- Names of the vowels of a Hangul syllable. -/
def vowels : List String := [
  "A", "AE", "YA", "YAE", "EO", "E", "YEO", "YE", "O", "WA", "WAE", "OE", "YO", "U", "WEO", "WE",
  "WI", "YU", "EU", "YI", "I"]

/-- Names of the letters that end a Hangul syllable; the first is for none. -/
def trailingLetters : List String := [
  "", "G", "GG", "GS", "N", "NJ", "NH", "D", "L", "LG", "LM", "LB", "LS", "LT", "LP", "LH", "M",
  "B", "BS", "S", "SS", "NG", "J", "C", "K", "T", "P", "H"]

/-- The place of the longest name in the list that the text begins with, and what follows it. -/
def longestLetter? (letters : List String) (cs : List Char) : Option (Nat × List Char) :=
  let fitting := letters.zipIdx.filter fun l => l.1.toList.isPrefixOf cs
  let longest := fitting.foldl (fun n l => max n l.1.length) 0
  (fitting.find? fun l => l.1.length == longest).map fun l => (l.2, cs.drop longest)

/-- The Hangul syllable that is made of the named letters. -/
def syllable? (cs : List Char) : Option Nat := do
  let (l, cs) ← longestLetter? leadingLetters cs
  let (v, cs) ← longestLetter? vowels cs
  let (t, cs) ← longestLetter? trailingLetters cs
  if cs.isEmpty then
    some (0xAC00 + (l * vowels.length + v) * trailingLetters.length + t)
  else none

/-- The variation selector with a number from 1 to 256. -/
def selector? (name : String) : Option Nat :=
  (List.range 256).findSome? fun i =>
    if name == "VS" ++ toString (i + 1) then
      some (if i < 16 then 0xFE00 + i else 0xE0100 + (i - 16))
    else none

end CharacterName

open CharacterName in
def characterNamed? (name : String) : Option Nat :=
  match afterStem? "HANGUL SYLLABLE " name with
  | some letters => syllable? letters
  | none =>
    if (afterStem? "CJK UNIFIED IDEOGRAPH-" name).isSome then
      codeBehind? name "CJK UNIFIED IDEOGRAPH-" ideographs
    else
      let key := name.toUpper
      (coded.findSome? fun family => codeBehind? key family.1 family.2).or
        ((others.lookup key).or ((selector? key).or (inTables? key)))

end NameLint.Text
