import NameLint.Yaml.Fault

/-!
# Pages

A file is read page by page, as far as its text is needed; only the first two pages
are read at once. What is wrong with a page shows when that page is read: its bytes
may be no text, or it may hold a character that no document may hold. So a fault
that lies before the page is found first.
-/

namespace NameLint.Yaml

def pageSize : Nat := 4096

/-- The least number of bytes that are taken from a file at once. -/
def chunkSize : Nat := 8192

/-- A text, and the fault that shows once the character with the given number is needed. -/
structure Pages where
  text : List Char
  limit : Option (Nat × Fault)

namespace Pages

def isAdmitted (c : Char) : Bool :=
  let n := c.toNat
  n == 0x09 || n == 0x0A || n == 0x0D || (0x20 ≤ n && n ≤ 0x7E) || n == 0x85 ||
    (0xA0 ≤ n && n ≤ 0xFFFD) || 0x10000 ≤ n

/-- The ranges of the bytes that may follow the first byte of a character; none for a byte that
begins no character of several bytes. -/
def followers (first : Nat) : List (Nat × Nat) :=
  let any := (0x80, 0xBF)
  if 0xC2 ≤ first && first ≤ 0xDF then [any]
  else if first == 0xE0 then [(0xA0, 0xBF), any]
  else if first == 0xED then [(0x80, 0x9F), any]
  else if 0xE1 ≤ first && first ≤ 0xEF then [any, any]
  else if first == 0xF0 then [(0x90, 0xBF), any, any]
  else if 0xF1 ≤ first && first ≤ 0xF3 then [any, any, any]
  else if first == 0xF4 then [(0x80, 0x8F), any, any]
  else []

/-- The bits that the first byte of a character gives to its code point. -/
def firstBits (first : Nat) : Nat :=
  if first < 0x80 then first
  else if first < 0xE0 then first - 0xC0
  else if first < 0xF0 then first - 0xE0
  else first - 0xF0

/-- The code point that following bytes complete, how many they are and what comes after them. Where
they do not fit, the number of those that do. -/
def complete (code taken : Nat) :
    List (Nat × Nat) → List UInt8 → Except Nat (Nat × Nat × List UInt8)
  | [], rest => return (code, taken, rest)
  | _ :: _, [] => throw taken
  | (low, high) :: ranges, b :: rest =>
    if low ≤ b.toNat && b.toNat ≤ high then
      complete (code * 64 + (b.toNat - 0x80)) (taken + 1) ranges rest
    else throw taken

/-- Characters, each with the number of the byte behind it, and the number of the first byte that is
part of no character; at the end of the bytes that is where the last character lacks something. -/
structure Decoded where
  chars : List (Char × Nat)
  stop : Option Nat

/-- The characters that bytes stand for, from the byte with number `index` on. -/
def decode : Nat → Nat → List (Char × Nat) → List UInt8 → Decoded
  | 0, _, done, _ => ⟨done.reverse, none⟩
  | _ + 1, _, done, [] => ⟨done.reverse, none⟩
  | fuel + 1, index, done, b :: rest =>
    if 0x80 ≤ b.toNat && (followers b.toNat).isEmpty then ⟨done.reverse, some index⟩
    else
      match complete (firstBits b.toNat) 1 (followers b.toNat) rest with
      | .error taken => ⟨done.reverse, some (index + taken)⟩
      | .ok (code, taken, rest) =>
        decode fuel (index + taken) ((Char.ofNat code, index + taken) :: done) rest

/-- Every line end that is written with carriage returns becomes a line feed. It can be had once the
byte behind the carriage return is known. -/
def unifyLineEnds : List (Char × Nat) → List (Char × Nat)
  | ('\r', _) :: ('\n', i) :: rest => ('\n', i) :: unifyLineEnds rest
  | ('\r', i) :: rest => ('\n', i + 1) :: unifyLineEnds rest
  | c :: rest => c :: unifyLineEnds rest
  | [] => []

/-- How bytes are taken from a file: how many were taken and how many characters they gave, the last
time and in all. -/
structure Progress where
  bytes : Nat := 0
  chars : Nat := 0
  lastBytes : Nat := 0
  lastChars : Nat := 0
  /-- The places of the bytes behind the characters that are still to come. -/
  ends : List Nat

/-- How many bytes are taken next where so many characters are missing. -/
def Progress.chunk (p : Progress) (missing : Nat) : Nat :=
  max chunkSize (p.lastBytes * missing / p.lastChars)

def Progress.take (p : Progress) (missing size : Nat) : Progress :=
  let bytes := min (p.bytes + p.chunk missing) size
  let new := p.ends.takeWhile (· ≤ bytes)
  { bytes := bytes
    chars := p.chars + new.length
    lastBytes := bytes - p.bytes
    lastChars := new.length
    ends := p.ends.drop new.length }

/-- The number of the page at which a byte is met that is part of no character. Pages before `page`
have been read. -/
def faultyPage (size stop : Nat) : Nat → Nat → Progress → Nat
  | 0, page, _ => page
  | fuel + 1, page, p =>
    let needed := (page + 1) * pageSize
    if needed ≤ p.chars then faultyPage size stop fuel (page + 1) p
    else if p.bytes == size then page
    else
      let next := p.take (needed - p.chars) size
      if stop < next.bytes then page else faultyPage size stop fuel page next

/-- The number of the first character that cannot be had because of a fault in a page. -/
def limitOf (page : Nat) : Nat :=
  if page < 2 then 0 else page * pageSize

/-- The pages of a file. Bytes that are no text show before characters of the same page. -/
def ofBytes (content : ByteArray) : Pages :=
  let size := content.size
  let decoded := decode (size + 1) 0 [] content.toList
  let ends := unifyLineEnds decoded.chars
  let text := ends.map Prod.fst
  let undecodable := decoded.stop.map fun stop =>
    limitOf (faultyPage size stop (2 * size + 4) 0 { ends := ends.map Prod.snd })
  let unadmitted := (text.findIdx? fun c => !isAdmitted c).map fun i => limitOf (i / pageSize)
  let limit :=
    match undecodable, unadmitted with
    | none, none => none
    | some u, none => some (u, Fault.undecodable)
    | none, some a => some (a, .malformed)
    | some u, some a => some (if u ≤ a then (u, Fault.undecodable) else (a, .malformed))
  ⟨text, limit⟩

end Pages

end NameLint.Yaml
