import NameLint.Tree.Location

/-!
# Syntax nodes

A node has a type, fields in their order, a location and the comments in front
of it. The value of a field is an `Item`: a plain value, a sequence, a record or
again a node. Nodes are told apart by their `id`, not by what they hold; a node
reached by two paths is one node with one `id`.
-/

namespace NameLint

inductive Item where
  | plain (v : Value)
  | tuple (items : List Item)
  | record (entries : List (String × Item))
  | node (id : Nat) (type : String) (fields : List (String × Item)) (loc : Option Location)
      (comments : List Comment)

instance : Inhabited Item := ⟨.plain .null⟩

structure Node where
  id : Nat
  type : String
  fields : List (String × Item)
  loc : Option Location
  comments : List Comment

namespace Item

def ofNode (n : Node) : Item :=
  .node n.id n.type n.fields n.loc n.comments

def node? : Item → Option Node
  | .node id type fields loc comments => some ⟨id, type, fields, loc, comments⟩
  | _ => none

theorem ofNode_of_node? {i : Item} {n : Node} (h : i.node? = some n) : i = .ofNode n := by
  cases i with
  | plain v => cases h
  | tuple items => cases h
  | record entries => cases h
  | node id type fields loc comments => cases h; rfl

def text? : Item → Option String
  | .plain (.text s) => some s
  | _ => none

/-- Whether the item counts as true: not null, false, zero or empty. -/
def truthy : Item → Bool
  | .plain v => v.truthy
  | .tuple items => !items.isEmpty
  | .record entries => !entries.isEmpty
  | .node _ _ _ _ _ => true

mutual

/-- The text of the item as part of another text. -/
def written : Item → String
  | .plain v => v.written
  | .tuple items => Value.inTuple (writtenItems items)
  | .record entries => "mappingproxy(" ++ Value.inBraces (writtenEntries entries) ++ ")"
  | .node _ type fields loc comments =>
    "SyntaxNode(type=" ++ Text.quoted type ++ ", fields=mappingproxy(" ++
      Value.inBraces (writtenEntries fields) ++ "), loc=" ++ Location.writtenOption loc ++
      ", leading_comments=" ++ Value.inTuple (comments.map Comment.written) ++ ")"

def writtenItems : List Item → List String
  | [] => []
  | i :: rest => written i :: writtenItems rest

def writtenEntries : List (String × Item) → List String
  | [] => []
  | (k, i) :: rest => (Text.quoted k ++ ": " ++ written i) :: writtenEntries rest

end

/-- The text of the item on its own. -/
def shown : Item → String
  | .plain v => v.shown
  | .record entries => Value.inBraces (writtenEntries entries)
  | i => i.written

mutual

/-- The first obstacle to the text of the item, where `room` calls may be nested. A record takes two
and a node three before what they hold. -/
def obstacle? : Nat → Item → Option Value.Obstacle
  | room, .plain v => v.obstacle? room
  | room, .tuple items => if room == 0 then some .depth else obstacleIn? (room - 1) items
  | room, .record entries => if room < 2 then some .depth else entryObstacle? (room - 2) entries
  | room, .node _ _ fields loc comments =>
    if room < 5 then some .depth
    else
      ((entryObstacle? (room - 5) fields).or (Location.obstacleOption? (room - 3) loc)).or
        (comments.findSome? (Comment.obstacle? (room - 4)))

def obstacleIn? : Nat → List Item → Option Value.Obstacle
  | _, [] => none
  | room, i :: rest => (obstacle? room i).or (obstacleIn? room rest)

def entryObstacle? : Nat → List (String × Item) → Option Value.Obstacle
  | _, [] => none
  | room, (k, i) :: rest =>
    ((Value.obstacle? room (.text k)).or (obstacle? room i)).or (entryObstacle? room rest)

end

def shownObstacle? (room : Nat) : Item → Option Value.Obstacle
  | .plain v => v.shownObstacle? room
  | i => i.obstacle? room

/-- The text of the item on its own, if there is room for it. -/
def textFor [Stack] (w : Writing) (i : Item) : Except Fault String :=
  match i.shownObstacle? (Stack.room w) with
  | none => return i.shown
  | some obstacle => throw (.ofObstacle obstacle)

mutual

/-- The number of nodes in an item, counted along every path. -/
def size : Item → Nat
  | .plain _ => 0
  | .tuple items => sizeOfAll items
  | .record entries => sizeOfFields entries
  | .node _ _ fields _ _ => 1 + sizeOfFields fields

def sizeOfAll : List Item → Nat
  | [] => 0
  | i :: rest => size i + sizeOfAll rest

def sizeOfFields : List (String × Item) → Nat
  | [] => 0
  | (_, i) :: rest => size i + sizeOfFields rest

end

end Item

namespace Node

def get? (n : Node) (key : String) : Option Item :=
  n.fields.lookup key

/-- The node directly under a field. -/
def child? (n : Node) (key : String) : Option Node :=
  (n.get? key).bind Item.node?

def isType (n : Node) (type : String) : Bool :=
  n.type == type

/-- What stands in the name field. -/
def name (n : Node) : Item :=
  (n.get? "name").getD (.plain .null)

/-- The nodes that a field holds directly or in a sequence. -/
def childrenIn : Item → List Node
  | .node id type fields loc comments => [⟨id, type, fields, loc, comments⟩]
  | .tuple items => items.filterMap Item.node?
  | _ => []

/-- The direct children in the order of the fields. -/
def children (n : Node) : List Node :=
  n.fields.flatMap fun field => childrenIn field.2

def size (n : Node) : Nat :=
  1 + Item.sizeOfFields n.fields

end Node

end NameLint
