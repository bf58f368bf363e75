import NameLint.Value.SetOrder
import NameLint.Yaml.Node
import NameLint.Yaml.Scalar

/-!
# Building values

What the nodes of a document stand for is found level by level from the root. A
collection is first only opened; its parts are looked at when its turn comes, and
by then it may be known under other numbers too. Merge keys bring in the entries of
other mappings, in front of the mapping's own. They are taken out of the mapping when
its turn comes, which every other way to that mapping sees from then on.
-/

namespace NameLint.Yaml

/-- What a node stands for, with the parts of collections by their numbers. -/
inductive Meaning where
  | scalar (v : Value)
  | list (items : List Nat)
  | map (entries : List (Value × Nat))
  | set (members : List Value)
  | pairs (pairs : List (Nat × Nat))
  deriving Inhabited

structure BuildState where
  nodes : Array Node
  /-- What is known so far. -/
  meanings : Array (Option Meaning)
  /-- The collections in the order in which they were opened. -/
  opened : Array Nat

/-- Finding out what nodes stand for. -/
abbrev Builder := StateT BuildState (Except Fault)

namespace Builder

def node (n : Nat) : Builder Node := do
  return (← get).nodes.getD n default

def meaning? (n : Nat) : Builder (Option Meaning) := do
  return (← get).meanings.getD n none

def learn (n : Nat) (m : Meaning) : Builder Unit :=
  modify fun s => { s with meanings := s.meanings.setIfInBounds n (some m) }

/-- A collection is opened; it waits for its turn. -/
def openNode (n : Nat) (m : Meaning) : Builder Unit := do
  learn n m
  modify fun s => { s with opened := s.opened.push n }

def replace (n : Nat) (new : Node) : Builder Unit :=
  modify fun s => { s with nodes := s.nodes.setIfInBounds n new }

def entriesOf (n : Nat) : Builder (List (Nat × Nat)) := do
  match (← node n).shape with
  | .mapping entries => return entries
  | _ => throw .malformed

def setEntries (n : Nat) (entries : List (Nat × Nat)) : Builder Unit := do
  replace n ⟨(← node n).tag, .mapping entries⟩

/-- The text of a node that a scalar tag is on: the node's own, or that under the first value key of
a mapping. -/
def textOf : Nat → Nat → Builder String
  | 0, _ => throw .malformed
  | fuel + 1, n => do
    match (← node n).shape with
    | .scalar text => return text
    | .sequence _ => throw .malformed
    | .mapping entries =>
      let s ← get
      match entries.find? fun e => (s.nodes.getD e.1 default).tag == .value with
      | some (_, v) => textOf fuel v
      | none => throw .malformed

/-- The value of a node with a scalar tag. Only the text of a scalar is a timestamp. -/
def scalarValue (n : Nat) : Builder Value := do
  let s ← get
  let text ← textOf (s.nodes.size + 1) n
  let this ← node n
  match this.tag, this.shape with
  | .timestamp, .mapping _ => throw .wrongKind
  | tag, _ => Scalar.value tag text

/-- A node is looked at for the first time: scalars get their values, collections are opened. -/
def look (n : Nat) : Builder Unit := do
  if (← meaning? n).isSome then return
  match (← node n).tag with
  | .seq => openNode n (.list [])
  | .omap => openNode n (.pairs [])
  | .pairs => openNode n (.pairs [])
  | .map => openNode n (.map [])
  | .set => openNode n (.set [])
  | .merge => throw .malformed
  | .value => throw .malformed
  | .other => throw .malformed
  | _ => learn n (.scalar (← scalarValue n))

/-- The value of a node that is a key. Collections are none. -/
def keyValue (n : Nat) : Builder Value := do
  look n
  match ← meaning? n with
  | some (.scalar v) => return v
  | _ => throw .malformed

/-- Merging stops after so many steps. -/
def mergeSteps : Nat := 1000000000

mutual

/-- The merge keys of a mapping are replaced by the entries that they bring in, and its value keys
become texts. -/
def flatten : Nat → Nat → Builder Unit
  | 0, _ => throw .malformed
  | fuel + 1, n => do
    let brought ← gather fuel n 0 []
    if !brought.isEmpty then setEntries n (brought ++ (← entriesOf n))

/-- The entries that the merge keys of a mapping bring in, from the entry with number `index` on. -/
def gather : Nat → Nat → Nat → List (Nat × Nat) → Builder (List (Nat × Nat))
  | 0, _, _, _ => throw .malformed
  | fuel + 1, n, index, brought => do
    let entries ← entriesOf n
    match entries[index]? with
    | none => return brought
    | some (k, v) =>
      let key ← node k
      match key.tag with
      | .merge =>
        setEntries n (entries.eraseIdx index)
        let more ← broughtBy fuel v
        gather fuel n index (brought ++ more)
      | .value =>
        replace k { key with tag := .str }
        gather fuel n (index + 1) brought
      | _ => gather fuel n (index + 1) brought

/-- The entries that the value of a merge key brings in; of several mappings the last comes first.
-/
def broughtBy : Nat → Nat → Builder (List (Nat × Nat))
  | 0, _ => throw .malformed
  | fuel + 1, n => do
    match (← node n).shape with
    | .mapping _ =>
      flatten fuel n
      entriesOf n
    | .sequence items =>
      let parts ← items.mapM fun item => do
        let _ ← entriesOf item
        flatten fuel item
        entriesOf item
      return parts.reverse.flatten
    | .scalar _ => throw .malformed

end

def mappingEntries (n : Nat) : Builder (List (Value × Nat)) := do
  let _ ← entriesOf n
  flatten mergeSteps n
  (← entriesOf n).mapM fun (k, v) => do
    let key ← keyValue k
    look v
    return (key, v)

/-- The first entry with that key takes the part and keeps its place; a new key goes to the end. -/
def put : List (Value × Nat) → Value → Nat → List (Value × Nat)
  | [], key, part => [(key, part)]
  | (k, p) :: rest, key, part =>
    if k.same key then (k, part) :: rest else (k, p) :: put rest key part

/-- Each key once, with the last of its parts. -/
def unique (entries : List (Value × Nat)) : List (Value × Nat) :=
  entries.foldl (fun done e => put done e.1 e.2) []

def singlePair (n : Nat) : Builder (Nat × Nat) := do
  match ← entriesOf n with
  | [(k, v)] =>
    look k
    look v
    return (k, v)
  | _ => throw .malformed

/-- The parts of a collection are looked at. A tag that does not fit the node is malformed. -/
def expand (n : Nat) : Builder Unit := do
  let this ← node n
  match this.tag, this.shape with
  | .seq, .sequence items =>
    for item in items do look item
    learn n (.list items)
  | .omap, .sequence items => learn n (.pairs (← items.mapM singlePair))
  | .pairs, .sequence items => learn n (.pairs (← items.mapM singlePair))
  | .map, .mapping _ => learn n (.map (unique (← mappingEntries n)))
  | .set, .mapping _ =>
    learn n (.set (Value.inSetOrder ((unique (← mappingEntries n)).map Prod.fst)))
  | _, _ => throw .malformed

/-- The opened collections are expanded in turn, from the one with number `turn` on. -/
def expandAll : Nat → Nat → Builder Unit
  | 0, _ => return
  | fuel + 1, turn => do
    match (← get).opened[turn]? with
    | none => return
    | some n =>
      expand n
      expandAll fuel (turn + 1)

end Builder

def Document.meanings (d : Document) : Except Fault (Array (Option Meaning)) := do
  let build : Builder Unit := do
    Builder.look d.root
    Builder.expandAll (d.nodes.size + 1) 0
  let (_, final) ← build.run
    { nodes := d.nodes, meanings := d.nodes.map fun _ => none, opened := #[] }
  return final.meanings

/-- Unfolding values; those without a collection inside of itself are kept. -/
abbrev Unfold := StateM (Array (Option Value))

namespace Meaning

/-- The value of a node, and whether a collection inside of itself was met. `path` are the
collections that are being unfolded; the first mappings of a document, up to `outer` of them, are
not among them. -/
def unfold (meanings : Array (Option Meaning)) : Nat → Nat → List Nat → Nat → Unfold (Value × Bool)
  | 0, _, _, _ => return (.null, false)
  | fuel + 1, outer, path, n => do
    match (← get).getD n none with
    | some v => return (v, false)
    | none =>
      let meaning := (meanings.getD n none).getD (.scalar .null)
      if path.contains n then
        match meaning with
        | .map _ => return (.again true, true)
        | _ => return (.again false, true)
      else
        let part (outer : Nat) (path : List Nat) (n : Nat) : Unfold (Value × Bool) :=
          unfold meanings fuel outer path n
        let (v, cut) ←
          match meaning with
          | .scalar v => pure (v, false)
          | .set members => pure (.set members, false)
          | .list items => do
            let parts ← items.mapM (part 0 (n :: path))
            pure (.list (parts.map Prod.fst), parts.any Prod.snd)
          | .pairs couples => do
            let parts ← couples.mapM fun (k, v) => do
              let (key, a) ← part 0 (n :: path) k
              let (item, b) ← part 0 (n :: path) v
              return (Value.tuple [key, item], a || b)
            pure (.list (parts.map Prod.fst), parts.any Prod.snd)
          | .map entries => do
            let inner := if outer == 0 then n :: path else path
            let parts ← entries.mapM fun (k, v) => do
              let (item, a) ← part (outer - 1) inner v
              return ((k, item), a)
            pure (.map (parts.map Prod.fst), parts.any Prod.snd)
        if !cut then modify fun known => known.setIfInBounds n (some v)
        return (v, cut)

end Meaning

/-- The mappings that a configuration is looked up through: the document, its rules and a rule. -/
def outerMappings : Nat := 3

def Document.value (d : Document) : Except Fault Value := do
  let meanings ← d.meanings
  let unfolded := Meaning.unfold meanings (d.nodes.size + outerMappings + 1) outerMappings [] d.root
  let known : Array (Option Value) := Array.replicate meanings.size none
  return (unfolded.run known).1.1

end NameLint.Yaml
