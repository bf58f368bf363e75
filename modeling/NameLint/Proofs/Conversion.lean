import NameLint.Proofs.ClosingOrder

/-!
# Conversion by recursion

The item of a tree by recursion, the numbers of the nodes aside: what stands in a
list or object is converted from the last to the first, and then the comments and
the location of a node are read. Only this reading can fail, so conversion fails as
the first node does whose reading fails, from right to left and from the bottom up.
-/

namespace NameLint

namespace Item

mutual

/-- The item with all its nodes numbered alike. -/
def anonymous : Item → Item
  | .plain v => .plain v
  | .tuple items => .tuple (anonymousAll items)
  | .record entries => .record (anonymousEntries entries)
  | .node _ type fields loc comments => .node 0 type (anonymousEntries fields) loc comments

def anonymousAll : List Item → List Item
  | [] => []
  | i :: rest => anonymous i :: anonymousAll rest

def anonymousEntries : List (String × Item) → List (String × Item)
  | [] => []
  | (k, i) :: rest => (k, anonymous i) :: anonymousEntries rest

end

end Item

namespace Source

mutual

/-- The item of a tree by recursion, its nodes numbered alike. The fields of a node are the entries
outside its bookkeeping, and its comments and location are read from the entries as they arrived. -/
def convert : Source → Except Fault Item
  | .scalar v => return .plain v
  | .list _ items => return .tuple (← convertAll items)
  | .object _ entries =>
    match typeOf? entries with
    | none => return .record (← convertEntries (fun _ => true) entries)
    | some type => do
      let fields ← convertEntries (fun key => !bookkeeping.contains key) entries
      let comments ← Comment.readAll (Assembly.rawValue entries "leadingComments")
      let loc ← Location.read (Assembly.rawValue entries "loc")
      return .node 0 type fields loc comments

/-- The items of a sequence, the last one converted first. -/
def convertAll : List Source → Except Fault (List Item)
  | [] => return []
  | s :: rest => do
    let later ← convertAll rest
    return (← convert s) :: later

/-- The items of the entries under some of the keys, the last one converted first. -/
def convertEntries (kept : String → Bool) :
    List (String × Source) → Except Fault (List (String × Item))
  | [] => return []
  | (k, s) :: rest => do
    let later ← convertEntries kept rest
    if kept k then return (k, ← convert s) :: later else return later

end

def isNode : Source → Bool
  | .object _ entries => (typeOf? entries).isSome
  | _ => false

theorem isScalar_of_isNode {s : Source} (typed : s.isNode = true) : s.isScalar = false := by
  cases s with
  | scalar v => cases typed
  | list label items => rfl
  | object label entries => rfl

/-- What goes wrong in reading the comments and the location of a node, if anything does. -/
def readingFault? : Source → Option Fault
  | .object _ entries =>
    match typeOf? entries with
    | none => none
    | some _ =>
      (Fault.of? (Comment.readAll (Assembly.rawValue entries "leadingComments"))).or
        (Fault.of? (Location.read (Assembly.rawValue entries "loc")))
  | _ => none

theorem of?_convertAll_cons (s : Source) (rest : List Source) :
    Fault.of? (convertAll (s :: rest)) =
      (Fault.of? (convertAll rest)).or (Fault.of? s.convert) := by
  rw [convertAll]
  cases convertAll rest with
  | error fault => rfl
  | ok later =>
    cases s.convert with
    | error fault => rfl
    | ok item => rfl

theorem convertEntries_filter (kept : String → Bool) (entries : List (String × Source)) :
    convertEntries kept entries =
      convertEntries (fun _ => true) (entries.filter fun e => kept e.1) := by
  induction entries with
  | nil => rfl
  | cons e rest ih =>
    obtain ⟨key, s⟩ := e
    rw [convertEntries, ih, List.filter_cons]
    split
    · rw [convertEntries]
      rfl
    · cases convertEntries (fun _ => true) (rest.filter fun e => kept e.1) with
      | error fault => rfl
      | ok later => rfl

theorem of?_convertEntries (entries : List (String × Source)) :
    Fault.of? (convertEntries (fun _ => true) entries) =
      Fault.of? (convertAll (entries.map Prod.snd)) := by
  induction entries with
  | nil => rfl
  | cons e rest ih =>
    obtain ⟨key, s⟩ := e
    rw [List.map_cons, of?_convertAll_cons, ← ih, convertEntries]
    cases convertEntries (fun _ => true) rest with
    | error fault => rfl
    | ok later =>
      cases s.convert with
      | error fault => rfl
      | ok item => rfl

/-- What goes wrong first in a list or object: something that stands in it, or else its own
reading. -/
theorem of?_convert (s : Source) :
    Fault.of? s.convert = (Fault.of? (convertAll s.content)).or s.readingFault? := by
  cases s with
  | scalar v => rfl
  | list label items =>
    have none : readingFault? (.list label items) = none := rfl
    rw [convert, content, none, Option.or_none]
    cases convertAll items with
    | error fault => rfl
    | ok items => rfl
  | object label entries =>
    rw [convert, content, readingFault?, parts]
    cases typeOf? entries with
    | none =>
      dsimp only
      rw [Option.or_none, ← of?_convertEntries]
      cases convertEntries (fun _ => true) entries with
      | error fault => rfl
      | ok fields => rfl
    | some type =>
      dsimp only
      rw [← of?_convertEntries, ← convertEntries_filter fun key => !bookkeeping.contains key]
      cases convertEntries (fun key => !bookkeeping.contains key) entries with
      | error fault => rfl
      | ok fields =>
        cases Comment.readAll (Assembly.rawValue entries "leadingComments") with
        | error fault => rfl
        | ok comments =>
          cases Location.read (Assembly.rawValue entries "loc") with
          | error fault => rfl
          | ok loc => rfl

theorem findSome?_reached (s : Source) :
    s.reached.findSome? readingFault? =
      ((reachedAll s.content).findSome? readingFault?).or s.readingFault? := by
  rw [reached]
  cases scalar : s.isScalar with
  | true =>
    cases s with
    | scalar v => rw [content, reachedAll]; rfl
    | list label items => cases scalar
    | object label entries => cases scalar
  | false =>
    rw [if_neg (by decide), List.findSome?_append, List.findSome?_singleton]

/-- Conversion fails if and only if the reading of some node fails, and it fails as the first such
node does, from right to left and from the bottom up. -/
theorem of?_convertAll (items : List Source) :
    Fault.of? (convertAll items) = (reachedAll items).findSome? readingFault? := by
  induction items using reachedAll.induct with
  | case1 =>
    rw [reachedAll]
    rfl
  | case2 s rest ih ih' =>
    rw [of?_convertAll_cons, ih, of?_convert, ih', ← findSome?_reached, reachedAll_cons,
      List.findSome?_append]

end Source

end NameLint
