import NameLint.Yaml.Tag
import NameLint.Yaml.Token

/-!
# Nodes

A document is made of tagged scalars, sequences and mappings. Nodes are numbered,
and a collection holds the numbers of its parts: an alias stands for the number of
the node with its anchor, so a node may be part of several others, and of itself.
`Document.ofTokens` reads the one document that the tokens hold.
-/

namespace NameLint.Yaml

/-- What a node is made of, with its parts by their numbers. -/
inductive Shape where
  | scalar (text : String)
  | sequence (items : List Nat)
  | mapping (entries : List (Nat × Nat))
  deriving Inhabited

structure Node where
  tag : Tag
  shape : Shape
  deriving Inhabited

/-- The nodes of a document by their numbers, and the number of its root. -/
structure Document where
  nodes : Array Node
  root : Nat

/-- What is left of the tokens, and the names in force. -/
structure GrammarState where
  tokens : List Token
  fault : Option Fault
  handles : List (String × String)
  anchors : List (String × Nat)
  nodes : Array Node

/-- Reading nodes off the tokens. -/
abbrev Grammar := StateT GrammarState (Except Fault)

namespace Grammar

/-- The handles that need no directive. -/
def standardHandles : List (String × String) :=
  [("!", "!"), ("!!", Tag.family)]

/-- The next token; at the end of the text there is none. -/
def peek : Grammar (Option Token) := do
  let s ← get
  match s.tokens, s.fault with
  | t :: _, _ => return some t
  | [], none => return none
  | [], some fault => throw fault

def skip : Grammar Unit :=
  modify fun s => { s with tokens := s.tokens.tail }

def at? (ts : List Token) : Grammar Bool := do
  match ← peek with
  | some t => return ts.contains t
  | none => return false

def pass? (t : Token) : Grammar Bool := do
  if ← at? [t] then
    skip
    return true
  else return false

/-- The token has to come next, and is passed. -/
def expect (t : Token) : Grammar Unit := do
  if ← pass? t then return else throw .malformed

/-- Anchor and tag in front of a node. -/
structure Properties where
  anchor : Option String := none
  tag : Option String := none

/-- The text of a tag, its handle replaced by what it stands for. -/
def expandTag (handle : Option String) (suffix : String) : Grammar String := do
  match handle with
  | none => return suffix
  | some h =>
    let s ← get
    match s.handles.lookup h with
    | some expansion => return expansion ++ suffix
    | none => throw .malformed

/-- At most one anchor and one tag, in either order. -/
def properties : Grammar Properties := do
  match ← peek with
  | some (.anchor name) =>
    skip
    match ← peek with
    | some (.tag handle suffix) =>
      skip
      return ⟨some name, some (← expandTag handle suffix)⟩
    | _ => return ⟨some name, none⟩
  | some (.tag handle suffix) =>
    skip
    match ← peek with
    | some (.anchor name) =>
      skip
      return ⟨some name, some (← expandTag handle suffix)⟩
    | _ => return ⟨none, some (← expandTag handle suffix)⟩
  | _ => return {}

/-- The tag of a scalar. One without a tag of its own has the tag of its text if it is plain, and
the one called `!` has it in any case. -/
def scalarTag (own : Option String) (plain : Bool) (text : String) : Tag :=
  match own with
  | none => if plain then Tag.ofScalar text else .str
  | some "!" => Tag.ofScalar text
  | some name => Tag.ofText name

def collectionTag (own : Option String) (standard : Tag) : Tag :=
  match own with
  | none => standard
  | some "!" => standard
  | some name => Tag.ofText name

/-- The name of an anchor may be given only once. -/
def checkAnchor (anchor : Option String) : Grammar Unit := do
  match anchor with
  | none => return
  | some name =>
    let s ← get
    if (s.anchors.lookup name).isSome then throw .malformed

def bindAnchor (anchor : Option String) (n : Nat) : Grammar Unit :=
  match anchor with
  | none => return
  | some name => modify fun s => { s with anchors := (name, n) :: s.anchors }

def addNode (n : Node) : Grammar Nat := do
  let s ← get
  set { s with nodes := s.nodes.push n }
  return s.nodes.size

def empty : Grammar Nat :=
  addNode ⟨.null, .scalar ""⟩

/-- A collection. Its anchor stands for it already while its parts are read. -/
def collection (p : Properties) (standard : Tag) (parts : Grammar Shape) : Grammar Nat := do
  let tag := collectionTag p.tag standard
  let n ← addNode ⟨tag, .sequence []⟩
  bindAnchor p.anchor n
  let shape ← parts
  modify fun s => { s with nodes := s.nodes.setIfInBounds n ⟨tag, shape⟩ }
  return n

def scalar (p : Properties) (plain : Bool) (text : String) : Grammar Nat := do
  let n ← addNode ⟨scalarTag p.tag plain text, .scalar text⟩
  bindAnchor p.anchor n
  return n

/-- Where a node stands: whether block collections may begin there, and whether a sequence may
stand there without being indented. -/
inductive Setting where
  | flow
  | block
  | blockValue
  deriving DecidableEq, Repr

mutual

def node : Nat → Setting → Grammar Nat
  | 0, _ => throw .malformed
  | fuel + 1, setting => do
    match ← peek with
    | some (.alias name) =>
      skip
      let s ← get
      match s.anchors.lookup name with
      | some n => return n
      | none => throw .malformed
    | _ =>
      let p ← properties
      let next ← peek
      checkAnchor p.anchor
      match next with
      | some (.scalar text plain) =>
        skip
        scalar p plain text
      | some .flowSequenceStart =>
        skip
        collection p .seq (return .sequence (← flowItems fuel true []))
      | some .flowMappingStart =>
        skip
        collection p .map (return .mapping (← flowEntries fuel true []))
      | _ =>
        if setting == .blockValue && next == some .blockEntry then
          collection p .seq (return .sequence (← indentlessItems fuel []))
        else if setting != .flow && next == some .blockSequenceStart then
          skip
          collection p .seq (return .sequence (← blockItems fuel []))
        else if setting != .flow && next == some .blockMappingStart then
          skip
          collection p .map (return .mapping (← blockEntries fuel []))
        else if p.anchor.isSome || p.tag.isSome then scalar p true ""
        else throw .malformed

/-- A node, or nothing before one of the tokens given. -/
def nodeUnless : Nat → Setting → List Token → Grammar Nat
  | 0, _, _ => throw .malformed
  | fuel + 1, setting, ends => do
    if ← at? ends then empty else node fuel setting

def blockItems : Nat → List Nat → Grammar (List Nat)
  | 0, _ => throw .malformed
  | fuel + 1, done => do
    if ← pass? .blockEntry then
      let n ← nodeUnless fuel .block [.blockEntry, .blockEnd]
      blockItems fuel (n :: done)
    else
      expect .blockEnd
      return done.reverse

/-- The items of a block sequence that is not indented. -/
def indentlessItems : Nat → List Nat → Grammar (List Nat)
  | 0, _ => throw .malformed
  | fuel + 1, done => do
    if ← pass? .blockEntry then
      let n ← nodeUnless fuel .block [.blockEntry, .key, .value, .blockEnd]
      indentlessItems fuel (n :: done)
    else return done.reverse

def blockEntries : Nat → List (Nat × Nat) → Grammar (List (Nat × Nat))
  | 0, _ => throw .malformed
  | fuel + 1, done => do
    if ← pass? .key then
      let ends := [Token.key, .value, .blockEnd]
      let k ← nodeUnless fuel .blockValue ends
      let v ← if ← pass? .value then nodeUnless fuel .blockValue ends else empty
      blockEntries fuel ((k, v) :: done)
    else
      expect .blockEnd
      return done.reverse

/-- The items of a flow sequence up to its end. An item with a key is a mapping of one entry. -/
def flowItems : Nat → Bool → List Nat → Grammar (List Nat)
  | 0, _, _ => throw .malformed
  | fuel + 1, first, done => do
    if ← pass? .flowSequenceEnd then return done.reverse
    if !first then expect .flowEntry
    if ← pass? .key then
      let k ← nodeUnless fuel .flow [.value, .flowEntry, .flowSequenceEnd]
      let v ← if ← pass? .value then nodeUnless fuel .flow [.flowEntry, .flowSequenceEnd]
        else empty
      let n ← addNode ⟨.map, .mapping [(k, v)]⟩
      flowItems fuel false (n :: done)
    else if ← pass? .flowSequenceEnd then return done.reverse
    else
      let n ← node fuel .flow
      flowItems fuel false (n :: done)

def flowEntries : Nat → Bool → List (Nat × Nat) → Grammar (List (Nat × Nat))
  | 0, _, _ => throw .malformed
  | fuel + 1, first, done => do
    if ← pass? .flowMappingEnd then return done.reverse
    if !first then expect .flowEntry
    if ← pass? .key then
      let k ← nodeUnless fuel .flow [.value, .flowEntry, .flowMappingEnd]
      let v ← if ← pass? .value then nodeUnless fuel .flow [.flowEntry, .flowMappingEnd]
        else empty
      flowEntries fuel false ((k, v) :: done)
    else if ← pass? .flowMappingEnd then return done.reverse
    else
      let k ← node fuel .flow
      let v ← empty
      flowEntries fuel false ((k, v) :: done)

end

/-- The directives in front of a document. The version is given at most once and is one; a handle
is given at most once. -/
def directives : Nat → Bool → List (String × String) → Grammar (List (String × String))
  | 0, _, _ => throw .malformed
  | fuel + 1, versioned, handles => do
    match ← peek with
    | some (.version major) =>
      if versioned || major != 1 then throw .malformed
      skip
      directives fuel true handles
    | some (.tagHandle handle expansion) =>
      if (handles.lookup handle).isSome then throw .malformed
      skip
      directives fuel versioned ((handle, expansion) :: handles)
    | some .otherDirective =>
      skip
      directives fuel versioned handles
    | _ => return handles

def isDirective : Token → Bool
  | .version _ => true
  | .tagHandle _ _ => true
  | .otherDirective => true
  | _ => false

/-- Document ends are passed; nothing else may follow. -/
def close : Nat → Grammar Unit
  | 0 => return
  | fuel + 1 => do
    match ← peek with
    | none => return
    | some .documentEnd =>
      skip
      close fuel
    | some _ => throw .malformed

/-- The document, if there is one; a second one may not follow. -/
def document (bound : Nat) : Grammar (Option Nat) := do
  match ← peek with
  | none => return none
  | some t =>
    if isDirective t || t == .documentStart then
      let handles ← directives bound false []
      modify fun s => { s with handles := handles ++ standardHandles }
      expect .documentStart
      match ← peek with
      | none => return some (← empty)
      | some next =>
        let n ← if isDirective next || next == .documentStart || next == .documentEnd
          then empty else node bound .block
        close bound
        return some n
    else
      let n ← node bound .block
      close bound
      return some n

end Grammar

def Document.ofTokens (tokens : Tokens) : Except Fault (Option Document) := do
  let bound := 4 * tokens.items.length + 8
  let (root, final) ← (Grammar.document bound).run
    { tokens := tokens.items, fault := tokens.fault, handles := Grammar.standardHandles,
      anchors := [], nodes := #[] }
  return root.map fun n => ⟨final.nodes, n⟩

end NameLint.Yaml
