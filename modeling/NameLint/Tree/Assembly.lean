import NameLint.Tree.Node
import NameLint.Tree.Source
import Std.Data.HashMap

/-!
# Assembling nodes

A tree is turned into nodes from the bottom up with an explicit stack, so that
depth costs no recursion. A list or object is opened, which puts what stands in
it on the stack, and closed once that is done, which assembles its item from
those of its content. Items are kept under labels; content that has an item when
its surroundings are opened is not opened again. Every closing makes a new node.
-/

namespace NameLint

/-- The items assembled so far, and the `id` of the next node. -/
structure Assembly where
  done : Std.HashMap Nat Item
  nextId : Nat

namespace Assembly

/-- What is still to be done with a list or an object. -/
inductive Task where
  | opening (s : Source)
  | closing (s : Source)

/-- The item of something that stands in a list or an object. -/
def resolve (a : Assembly) (s : Source) : Except Fault Item :=
  match s, s.label? with
  | .scalar v, _ => return .plain v
  | _, some label =>
    match a.done[label]? with
    | some item => return item
    | none => throw .missingKey
  | _, none => throw .missingKey

def resolveAll (a : Assembly) : List Source → Except Fault (List Item)
  | [] => return []
  | s :: rest => do
    let first ← a.resolve s
    return first :: (← a.resolveAll rest)

def resolveEntries (a : Assembly) :
    List (String × Source) → Except Fault (List (String × Item))
  | [] => return []
  | (k, s) :: rest => do
    let first ← a.resolve s
    return (k, first) :: (← a.resolveEntries rest)

/-- The value under a key as it arrived; null where there is none. -/
def rawValue (entries : List (String × Source)) (key : String) : Value :=
  match entries.lookup key with
  | some s => s.toValue
  | none => .null

/-- The item of a list or object whose content is done. Comments are read before the location. -/
def assemble (a : Assembly) : Source → Except Fault Item
  | .scalar v => return .plain v
  | .list _ items => return .tuple (← a.resolveAll items)
  | .object _ entries =>
    match Source.typeOf? entries with
    | none => return .record (← a.resolveEntries entries)
    | some type => do
      let fields ← a.resolveEntries (Source.parts entries)
      let comments ← Comment.readAll (rawValue entries "leadingComments")
      let loc ← Location.read (rawValue entries "loc")
      return .node a.nextId type fields loc comments

/-- The item of a list or object is assembled and kept. -/
def close (a : Assembly) (s : Source) : Except Fault Assembly := do
  let item ← a.assemble s
  match s.label? with
  | some label => return ⟨a.done.insert label item, a.nextId + 1⟩
  | none => return a

def isPending (a : Assembly) (s : Source) : Bool :=
  match s.label? with
  | some label => !a.done.contains label
  | none => false

/-- What is to be opened in a list or object, the last of its content first. -/
def pending (a : Assembly) (s : Source) : List Task :=
  ((s.content.filter a.isPending).map Task.opening).reverse

/-- The steps that a task can still cause: two for each list and object in what is opened. -/
def Task.weight : Task → Nat
  | .opening s => 2 * s.size
  | .closing _ => 1

/-- The steps that a stack can still cause. -/
def weight : List Task → Nat
  | [] => 0
  | t :: stack => t.weight + weight stack

theorem weight_cons (t : Task) (stack : List Task) :
    weight (t :: stack) = t.weight + weight stack := rfl

theorem weight_append (front back : List Task) :
    weight (front ++ back) = weight front + weight back := by
  induction front with
  | nil => simp [weight]
  | cons t rest ih => simp only [List.cons_append, weight_cons, ih]; omega

theorem weight_reverse (stack : List Task) : weight stack.reverse = weight stack := by
  induction stack with
  | nil => rfl
  | cons t rest ih =>
    simp only [List.reverse_cons, weight_append, ih, weight]
    omega

theorem sizeOfAll_filter_le (p : Source → Bool) (items : List Source) :
    Source.sizeOfAll (items.filter p) ≤ Source.sizeOfAll items := by
  induction items with
  | nil => simp
  | cons s rest ih =>
    by_cases h : p s <;> simp only [List.filter_cons, h, Source.sizeOfAll] <;> simp <;>
      first | exact ih | (simp only [Source.sizeOfAll]; omega) | omega

theorem sizeOfAll_map_snd (entries : List (String × Source)) :
    Source.sizeOfAll (entries.map Prod.snd) = Source.sizeOfEntries entries := by
  induction entries with
  | nil => rfl
  | cons e rest ih => obtain ⟨k, s⟩ := e; simp [Source.sizeOfAll, Source.sizeOfEntries, ih]

theorem sizeOfEntries_filter_le (p : String × Source → Bool) (entries : List (String × Source)) :
    Source.sizeOfEntries (entries.filter p) ≤ Source.sizeOfEntries entries := by
  induction entries with
  | nil => simp
  | cons e rest ih =>
    obtain ⟨k, s⟩ := e
    by_cases h : p (k, s)
    · simp only [List.filter_cons, h, if_true, Source.sizeOfEntries]; omega
    · simp only [List.filter_cons, h, Source.sizeOfEntries]; simp; omega

theorem weight_map_opening (items : List Source) :
    weight (items.map Task.opening) = 2 * Source.sizeOfAll items := by
  induction items with
  | nil => rfl
  | cons s rest ih =>
    rw [List.map_cons, weight_cons, ih]
    simp only [Task.weight, Source.sizeOfAll]
    omega

theorem sizeOfAll_content_lt (s : Source) (h : 0 < s.size) :
    Source.sizeOfAll s.content < s.size := by
  cases s with
  | scalar v => simp [Source.size] at h
  | list label items => simp only [Source.content, Source.size]; omega
  | object label entries =>
    have parts : Source.sizeOfEntries (Source.parts entries) ≤ Source.sizeOfEntries entries := by
      unfold Source.parts
      split
      · exact sizeOfEntries_filter_le _ entries
      · exact Nat.le_refl _
    simp only [Source.content, Source.size, sizeOfAll_map_snd]
    omega

/-- Opening a list or object leaves fewer steps than before. -/
theorem weight_open_lt (a : Assembly) (s : Source) (stack : List Task) (h : 0 < s.size) :
    weight (a.pending s ++ Task.closing s :: stack) < weight (Task.opening s :: stack) := by
  have small := sizeOfAll_content_lt s h
  have filtered := sizeOfAll_filter_le a.isPending s.content
  rw [weight_append, weight_cons, weight_cons, pending, weight_reverse, weight_map_opening]
  simp only [Task.weight]
  omega

/-- All tasks on the stack, the first one on top. -/
def run (a : Assembly) : List Task → Except Fault Assembly
  | [] => return a
  | .closing s :: stack => do
    let next ← a.close s
    next.run stack
  | .opening s :: stack =>
    if s.isScalar then a.run stack else a.run (a.pending s ++ .closing s :: stack)
termination_by stack => (weight stack, stack.length)
decreasing_by
  · rw [weight_cons]
    simp only [Task.weight]
    exact Prod.Lex.left _ _ (by omega)
  · rw [weight_cons]
    simp only [Task.weight]
    by_cases zero : s.size = 0
    · rw [zero]; simp only [Nat.mul_zero, Nat.zero_add]
      exact Prod.Lex.right _ (by simp)
    · exact Prod.Lex.left _ _ (by omega)
  · rename_i h
    have pos := Source.size_pos_of_isScalar_eq_false (Bool.eq_false_iff.mpr h)
    exact Prod.Lex.left _ _ (weight_open_lt a s stack pos)

end Assembly

/-- What a tree fails with whose root is no object with a type. It is quoted, if it has a text. -/
def Source.refusal [Stack] (s : Source) : Fault :=
  ((s.toValue.obstacle? (Stack.room .notANode)).map Fault.ofObstacle).getD (.notANode s.toValue)

/-- The node that a tree stands for, its nodes numbered from `nextId` on, and the next number. A
tree whose root is no object with a type is none. -/
def Node.ofSource [Stack] (s : Source) (nextId : Nat) : Except Fault (Node × Nat) := do
  match s with
  | .object label entries =>
    match Source.typeOf? entries with
    | none => throw s.refusal
    | some _ =>
      let final ← Assembly.run ⟨∅, nextId⟩ [.opening s]
      match (final.done[label]?).bind Item.node? with
      | some root => return (root, final.nextId)
      | none => throw .missingKey
  | _ => throw s.refusal

end NameLint
