import Mathlib.Data.List.Basic
import NameLint.Engine.Check
import NameLint.Proofs.Retained

/-!
# Trees carried over

A function on trees carries them over if what stands in a list or object stays there,
itself carried over, and the new labels tell the same as the old ones. Such trees are
opened and closed in the same order. Where also each list and object is assembled into
the old item, carried over in turn, the whole tree becomes the old node, carried over,
and conversion fails where it failed before.
-/

namespace NameLint

namespace Source

/-- Whether a function on trees keeps which lists and objects there are, under labels that another
function gives them. -/
structure Carries (g : Source → Source) (f : Nat → Nat) : Prop where
  injective : f.Injective
  scalar : ∀ v, g (.scalar v) = .scalar v
  label : ∀ s, (g s).label? = s.label?.map f
  content : ∀ s, (g s).content = s.content.map g
  isNode : ∀ s, (g s).isNode = s.isNode

namespace Carries

variable {g : Source → Source} {f : Nat → Nat}

theorem isNew (carries : Carries g f) (known : List Nat) (s : Source) :
    (g s).isNew (known.map f) = s.isNew known := by
  rw [Source.isNew, Source.isNew, carries.label]
  cases s.label? with
  | none => rfl
  | some label =>
    have same : (known.map f).contains (f label) = known.contains label := by
      rw [Bool.eq_iff_iff, List.contains_iff_mem, List.contains_iff_mem,
        List.mem_map_of_injective carries.injective]
    exact congrArg not same

theorem labels (carries : Carries g f) (order : List Source) :
    Source.labels (order.map g) = (Source.labels order).map f := by
  rw [Source.labels, Source.labels, List.filterMap_map, List.map_filterMap]
  congr 1
  funext s
  exact carries.label s

/-- What is carried over is opened in the same order. -/
theorem enteredAll (carries : Carries g f) (known : List Nat) (items : List Source) :
    Source.enteredAll (known.map f) (items.map g) = (Source.enteredAll known items).map g := by
  induction known, items using enteredAll.induct with
  | case1 known =>
    rw [List.map_nil, Source.enteredAll, Source.enteredAll]
    rfl
  | case2 known s rest new ih ih' =>
    rw [List.map_cons, Source.enteredAll, carries.isNew, if_pos new, ih, carries.labels,
      ← List.map_append, carries.content, ih', Source.enteredAll, if_pos new, List.map_cons,
      List.map_append]
  | case3 known s rest old ih =>
    rw [List.map_cons, Source.enteredAll, carries.isNew, if_neg old, ih, Source.enteredAll,
      if_neg old]

end Carries

end Source

namespace Assembly

open Source

/-- Whether the second assembly has the items of the first, carried over, under their new labels. -/
structure Follows (f : Nat → Nat) (h : Item → Item) (a b : Assembly) : Prop where
  nextId : b.nextId = a.nextId
  done : ∀ label, b.done[f label]? = a.done[label]?.map h

theorem empty_follows (f : Nat → Nat) (h : Item → Item) (nextId : Nat) :
    Follows f h ⟨∅, nextId⟩ ⟨∅, nextId⟩ :=
  ⟨rfl, fun label => by simp⟩

/-- Whether two attempts fail alike, or the second gives an assembly that follows the first. -/
def Together (f : Nat → Nat) (h : Item → Item) (x y : Except Fault Assembly) : Prop :=
  (∃ fault, x = .error fault ∧ y = .error fault) ∨
    ∃ a b, x = .ok a ∧ y = .ok b ∧ Follows f h a b

/-- Whether a list or object that is carried over is assembled into the item carried over, wherever
the items of its content were. -/
def Assembles (g : Source → Source) (f : Nat → Nat) (h : Item → Item) (s : Source) : Prop :=
  ∀ a b, Follows f h a b → b.assemble (g s) = (a.assemble s).map h

namespace Follows

variable {g : Source → Source} {f : Nat → Nat} {h : Item → Item} {a b : Assembly}

theorem resolve (follows : Follows f h a b) (carries : Carries g f)
    (plain : ∀ v, h (.plain v) = .plain v) (s : Source) :
    b.resolve (g s) = (a.resolve s).map h := by
  cases named : s.label? with
  | none =>
    cases s with
    | scalar v =>
      rw [carries.scalar]
      exact congrArg Except.ok (plain v).symm
    | list label items => cases named
    | object label entries => cases named
  | some label =>
    have renamed : (g s).label? = some (f label) := by
      rw [carries.label, named]
      rfl
    rw [resolve_of_label renamed, resolve_of_label named, follows.done]
    cases a.done[label]? with
    | none => rfl
    | some item => rfl

theorem resolveAll (follows : Follows f h a b) (carries : Carries g f)
    (plain : ∀ v, h (.plain v) = .plain v) (items : List Source) :
    b.resolveAll (items.map g) = (a.resolveAll items).map (List.map h) := by
  induction items with
  | nil => rfl
  | cons s rest ih =>
    rw [List.map_cons, Assembly.resolveAll, Assembly.resolveAll,
      follows.resolve carries plain, ih]
    cases a.resolve s with
    | error fault => rfl
    | ok item =>
      cases a.resolveAll rest with
      | error fault => rfl
      | ok found => rfl

theorem resolveEntries (follows : Follows f h a b) (carries : Carries g f)
    (plain : ∀ v, h (.plain v) = .plain v) (entries : List (String × Source)) :
    b.resolveEntries (entries.map fun e => (e.1, g e.2)) =
      (a.resolveEntries entries).map (List.map fun e => (e.1, h e.2)) := by
  induction entries with
  | nil => rfl
  | cons e rest ih =>
    obtain ⟨key, s⟩ := e
    rw [List.map_cons, Assembly.resolveEntries, Assembly.resolveEntries,
      follows.resolve carries plain, ih]
    cases a.resolve s with
    | error fault => rfl
    | ok item =>
      cases a.resolveEntries rest with
      | error fault => rfl
      | ok found => rfl

/-- Closing a list or object leaves an assembly that follows. -/
theorem close (follows : Follows f h a b) (carries : Carries g f) {s : Source}
    (assembles : Assembles g f h s) : Together f h (a.close s) (b.close (g s)) := by
  rw [Assembly.close, Assembly.close, assembles a b follows, carries.label]
  cases a.assemble s with
  | error fault => exact Or.inl ⟨fault, rfl, rfl⟩
  | ok item =>
    cases s.label? with
    | none => exact Or.inr ⟨a, b, rfl, rfl, follows⟩
    | some label =>
      refine Or.inr ⟨_, _, rfl, rfl, ?_, ?_⟩
      · show b.nextId + 1 = a.nextId + 1
        rw [follows.nextId]
      · intro other
        show (b.done.insert (f label) (h item))[f other]? =
          (a.done.insert label item)[other]?.map h
        rw [Std.HashMap.getElem?_insert, Std.HashMap.getElem?_insert, follows.done]
        by_cases own : label = other
        · simp [own]
        · simp [own, carries.injective.eq_iff]

theorem closeAll (follows : Follows f h a b) (carries : Carries g f) {order : List Source}
    (assembles : ∀ s ∈ order, Assembles g f h s) :
    Together f h (a.closeAll order) (b.closeAll (order.map g)) := by
  induction order with
  | nil => exact Or.inr ⟨a, b, rfl, rfl, follows⟩
  | cons s later ih =>
    rw [List.map_cons, Assembly.closeAll, Assembly.closeAll]
    rcases ih fun d hd => assembles d (List.mem_cons_of_mem s hd) with
      ⟨fault, one, other⟩ | ⟨c, d, one, other, follows⟩
    · rw [one, other]
      exact Or.inl ⟨fault, rfl, rfl⟩
    · rw [one, other]
      exact follows.close carries (assembles s List.mem_cons_self)

end Follows

end Assembly

theorem TreeInput.root_of_isNode [Stack] {s : Source} (node : s.isNode = true) :
    (TreeInput.source s).root = (do
      let b ← Assembly.closeAll ⟨∅, 0⟩ (Source.enteredAll [] s.content)
      let item ← b.assemble s
      item.node?.elim (throw .missingKey) pure) := by
  rw [TreeInput.root, Node.ofSource_of_isNode node]
  cases Assembly.closeAll ⟨∅, 0⟩ (Source.enteredAll [] s.content) with
  | error fault => rfl
  | ok b =>
    show ((b.assemble s >>= fun item => _) >>= fun r => _) = (b.assemble s >>= fun item => _)
    cases b.assemble s with
    | error fault => rfl
    | ok item =>
      simp only [bind, Except.bind]
      cases item.node? with
      | none => rfl
      | some root => rfl

open Source Assembly in
/-- A tree that is carried over becomes the node of the tree, carried over. -/
theorem root_of_carried [Stack] {g : Source → Source} {f : Nat → Nat} {h : Item → Item}
    {m : Node → Node}
    (carries : Carries g f) (nodes : ∀ i, (h i).node? = i.node?.map m) {s : Source}
    (node : s.isNode = true) (assembles : ∀ d ∈ s.reached, Assembles g f h d) :
    (TreeInput.source (g s)).root = (TreeInput.source s).root.map m := by
  have container := isScalar_of_isNode node
  have order := carries.enteredAll [] s.content
  rw [List.map_nil] at order
  have below : ∀ d ∈ enteredAll [] s.content, Assembles g f h d := fun d hd =>
    assembles d (mem_reached_of_mem_entered container (List.mem_cons_of_mem s hd))
  rw [TreeInput.root_of_isNode node, TreeInput.root_of_isNode ((carries.isNode s).trans node),
    carries.content, order]
  rcases (empty_follows f h 0).closeAll carries below with
    ⟨fault, one, other⟩ | ⟨c, d, one, other, follows⟩
  · rw [one, other]
    rfl
  · have own := assembles s (self_mem_reached container) c d follows
    rw [one, other]
    show (d.assemble (g s) >>= fun item => _) = (c.assemble s >>= fun item => _).map m
    rw [own]
    cases c.assemble s with
    | error fault => rfl
    | ok item =>
      show (h item).node?.elim _ _ = Except.map m (item.node?.elim _ _)
      rw [nodes]
      cases item.node? with
      | none => rfl
      | some root => rfl

end NameLint
