import NameLint.Proofs.Parts
import NameLint.Proofs.StackConversion

/-!
# What remains of the closings

A list or object may be closed several times, and each closing makes an item of
its own. Whatever is closed takes the newest items of what stands in it. The
closings whose items remain in the tree are therefore the last one and, from each
that remains, the newest before it for everything it holds. They are what the
paths of the tree lead to, and the last closing of anything is among them.
-/

namespace NameLint

namespace Source

/-- The closings whose items remain in the tree, each given by the order from it on, in which what
is closed before stands behind: the last closing, and with a closing the newest one before it for
everything that stands in its list or object. -/
inductive Retained (order : List Source) : List Source → Prop where
  | root : Retained order order
  | part {holder c : Source} {between after : List Source}
      (above : Retained order (holder :: (between ++ c :: after))) (inside : c ∈ holder.content)
      (newest : ∀ d ∈ between, d.label? ≠ c.label?) : Retained order (c :: after)

theorem Retained.suffix {order rest : List Source} (h : Retained order rest) : rest <:+ order := by
  induction h with
  | root => exact List.suffix_refl order
  | part above inside newest ih =>
    rename_i holder c between after
    have tail : (c :: after) <:+ holder :: (between ++ c :: after) :=
      ⟨holder :: between, rfl⟩
    exact tail.trans ih

theorem mem_reachedAll_of_mem_enteredAll {known : List Nat} {items : List Source} {x : Source}
    (h : x ∈ enteredAll known items) : x ∈ reachedAll items := by
  induction known, items using enteredAll.induct with
  | case1 known =>
    rw [enteredAll] at h
    cases h
  | case2 known s rest new ih ih' =>
    have container := isScalar_of_isNew new
    rw [enteredAll, if_pos new] at h
    rw [reachedAll_cons, List.mem_append, mem_reached, ← mem_reachedAll]
    rcases List.mem_cons.mp h with rfl | h
    · exact Or.inr ⟨container, Or.inl rfl⟩
    · rcases List.mem_append.mp h with below | later
      · exact Or.inr ⟨container, Or.inr (ih' below)⟩
      · exact Or.inl (ih later)
  | case3 known s rest old ih =>
    rw [enteredAll, if_neg old] at h
    rw [reachedAll_cons, List.mem_append]
    exact Or.inl (ih h)

theorem mem_reached_of_mem_entered {s x : Source} (container : s.isScalar = false)
    (h : x ∈ s.entered) : x ∈ s.reached := by
  rcases List.mem_cons.mp h with rfl | below
  · exact self_mem_reached container
  · exact mem_reached.mpr
      ⟨container, Or.inr (mem_reachedAll.mp (mem_reachedAll_of_mem_enteredAll below))⟩

theorem size_le_sizeOfAll {c : Source} {items : List Source} (h : c ∈ items) :
    c.size ≤ sizeOfAll items := by
  induction items with
  | nil => cases h
  | cons s rest ih =>
    rw [sizeOfAll]
    rcases List.mem_cons.mp h with rfl | later
    · omega
    · have bound := ih later
      omega

/-- Nothing stands in itself. -/
theorem not_mem_content {c : Source} (container : c.isScalar = false) : c ∉ c.content := by
  intro h
  have small := size_le_sizeOfAll h
  have fewer := Assembly.sizeOfAll_content_lt c (size_pos_of_isScalar_eq_false container)
  omega

/-- Whatever is entered stands in the sequence, or in something that is entered before it. -/
theorem mem_content_of_split {known : List Nat} {items front after : List Source} {x : Source}
    (h : enteredAll known items = front ++ x :: after) :
    x ∈ items ∨ ∃ y ∈ front, x ∈ y.content := by
  induction known, items using enteredAll.induct generalizing front after with
  | case1 known =>
    rw [enteredAll] at h
    cases front <;> cases h
  | case2 known s rest new ih ih' =>
    rw [enteredAll, if_pos new] at h
    cases front with
    | nil =>
      cases h
      exact Or.inl List.mem_cons_self
    | cons first front =>
      obtain ⟨rfl, tail⟩ := List.cons.inj h
      rcases List.append_eq_append_iff.mp tail with ⟨extra, hfront, hlater⟩ | ⟨extra, hbelow, hrest⟩
      · rcases ih hlater with direct | ⟨y, hy, hx⟩
        · exact Or.inl (List.mem_cons_of_mem s direct)
        · refine Or.inr ⟨y, List.mem_cons_of_mem s ?_, hx⟩
          rw [hfront]
          exact List.mem_append_right _ hy
      · cases extra with
        | nil =>
          have start : enteredAll known rest = [] ++ x :: after := hrest.symm
          rcases ih start with direct | ⟨y, hy, hx⟩
          · exact Or.inl (List.mem_cons_of_mem s direct)
          · cases hy
        | cons own extra =>
          obtain ⟨rfl, _⟩ := List.cons.inj hrest
          rcases ih' hbelow with direct | ⟨y, hy, hx⟩
          · exact Or.inr ⟨s, List.mem_cons_self, direct⟩
          · exact Or.inr ⟨y, List.mem_cons_of_mem s hy, hx⟩
  | case3 known s rest old ih =>
    rw [enteredAll, if_neg old] at h
    rcases ih h with direct | above
    · exact Or.inl (List.mem_cons_of_mem s direct)
    · exact Or.inr above

/-- Where labels are coherent, whatever stands in a list of parts of the tree stands there for a
first time. -/
theorem exists_first {c : Source} (s : LabelledSource) {order : List Source}
    (parts : ∀ d ∈ order, d ∈ s.tree.reached) (h : c ∈ order) :
    ∃ front after, order = front ++ c :: after ∧ ∀ d ∈ front, d.label? ≠ c.label? := by
  obtain ⟨front, after, split, first⟩ := List.eq_append_cons_of_mem h
  refine ⟨front, after, split, ?_⟩
  intro d hd same
  have member : d ∈ order := by
    rw [split]
    exact List.mem_append_left _ hd
  obtain rfl := s.coherent d (parts d member) c (parts c h) same
  exact first hd

/-- The last closing of anything remains in the tree. -/
theorem retained_of_first (s : LabelledSource)
    (container : s.tree.isScalar = false) {front after : List Source} {c : Source}
    (split : s.tree.entered = front ++ c :: after) (first : ∀ d ∈ front, d.label? ≠ c.label?) :
    Retained s.tree.entered (c :: after) := by
  -- By induction on how much is closed later: what holds `c` is then closed later as well.
  induction length : front.length using Nat.strongRecOn generalizing front after c with
  | ind n ih =>
    cases front with
    | nil =>
      rw [List.nil_append] at split
      rw [split]
      exact Retained.root
    | cons root front =>
      obtain ⟨y, hy, inside⟩ : ∃ y ∈ root :: front, c ∈ y.content := by
        obtain ⟨rfl, rest⟩ := List.cons.inj split
        rcases mem_content_of_split rest with direct | ⟨y, hy, hc⟩
        · exact ⟨s.tree, List.mem_cons_self, direct⟩
        · exact ⟨y, List.mem_cons_of_mem _ hy, hc⟩
      have parts : ∀ d ∈ root :: front, d ∈ s.tree.reached := by
        intro d hd
        apply mem_reached_of_mem_entered container
        rw [split]
        exact List.mem_append_left _ hd
      obtain ⟨before, between, holds, firstHolder⟩ := exists_first s parts hy
      have split' : s.tree.entered = before ++ y :: (between ++ c :: after) := by
        rw [split, holds, List.append_assoc]
        rfl
      have shorter : before.length < n := by
        rw [← length, holds]
        simp
      have above := ih before.length shorter split' firstHolder rfl
      refine Retained.part above inside ?_
      intro d hd
      apply first
      rw [holds]
      exact List.mem_append_right _ (List.mem_cons_of_mem _ hd)

/-- Where something first stands in a list is determined by its label. -/
theorem eq_of_first_split {front front' after after' : List Source} {c c' : Source}
    (same : c.label? = c'.label?) (h : front ++ c :: after = front' ++ c' :: after')
    (first : ∀ d ∈ front, d.label? ≠ c.label?) (first' : ∀ d ∈ front', d.label? ≠ c'.label?) :
    c :: after = c' :: after' := by
  induction front generalizing front' with
  | nil =>
    cases front' with
    | nil => exact h
    | cons d front' =>
      obtain ⟨rfl, _⟩ := List.cons.inj h
      exact absurd same (first' c List.mem_cons_self)
  | cons d front ih =>
    cases front' with
    | nil =>
      obtain ⟨rfl, _⟩ := List.cons.inj h
      exact absurd same.symm (first d List.mem_cons_self)
    | cons d' front' =>
      obtain ⟨_, tail⟩ := List.cons.inj h
      exact ih tail (fun e he => first e (List.mem_cons_of_mem d he))
        fun e he => first' e (List.mem_cons_of_mem d' he)

end Source

namespace Assembly

/-- Whether closing the first of the order, after all that stands behind it, makes the item. -/
def Makes (a : Assembly) (item : Item) : List Source → Prop
  | [] => False
  | s :: later => ∃ b, a.closeAll later = .ok b ∧ b.assemble s = .ok item

/-- The item kept under a label was made by the newest closing for it. -/
theorem exists_makes_of_done {nextId : Nat} {order : List Source} {b : Assembly} {label : Nat}
    {item : Item} (closed : Assembly.closeAll ⟨∅, nextId⟩ order = .ok b)
    (kept : b.done[label]? = some item) :
    ∃ between c after, order = between ++ c :: after ∧ c.label? = some label ∧
      (∀ d ∈ between, d.label? ≠ some label) ∧ Makes ⟨∅, nextId⟩ item (c :: after) := by
  induction order generalizing b with
  | nil =>
    cases closed
    simp at kept
  | cons s later ih =>
    obtain ⟨a, before, closed⟩ := Fault.bind_eq_ok.mp closed
    -- The item is an older one, made before `s` was closed.
    have older : a.done[label]? = some item → s.label? ≠ some label →
        ∃ between c after, s :: later = between ++ c :: after ∧ c.label? = some label ∧
          (∀ d ∈ between, d.label? ≠ some label) ∧ Makes ⟨∅, nextId⟩ item (c :: after) := by
      intro kept other
      obtain ⟨between, c, after, split, named, newest, makes⟩ := ih before kept
      refine ⟨s :: between, c, after, by rw [split, List.cons_append], named, ?_, makes⟩
      intro d hd
      rcases List.mem_cons.mp hd with rfl | hd
      · exact other
      · exact newest d hd
    cases named : s.label? with
    | none =>
      obtain ⟨made, _, closed⟩ := Fault.bind_eq_ok.mp closed
      rw [named] at closed older
      cases closed
      exact older kept (by simp)
    | some own =>
      obtain ⟨made, assembled, rfl⟩ := close_eq_ok named closed
      rw [Std.HashMap.getElem?_insert] at kept
      split at kept
      · rename_i same
        obtain rfl : own = label := by simpa using same
        cases kept
        exact ⟨[], s, later, rfl, named, by simp, a, before, assembled⟩
      · rename_i other
        rw [named] at older
        exact older kept (by simpa using other)

theorem nextId_closeAll {a b : Assembly} {order : List Source}
    (containers : ∀ c ∈ order, c.isScalar = false) (closed : a.closeAll order = .ok b) :
    b.nextId = a.nextId + order.length := by
  induction order generalizing b with
  | nil =>
    cases closed
    rfl
  | cons s later ih =>
    obtain ⟨c, before, closed⟩ := Fault.bind_eq_ok.mp closed
    obtain ⟨label, named⟩ := Source.exists_label_of_container (containers s List.mem_cons_self)
    obtain ⟨item, _, rfl⟩ := close_eq_ok named closed
    have count := ih (fun d hd => containers d (List.mem_cons_of_mem s hd)) before
    rw [List.length_cons]
    dsimp only
    omega

theorem resolveAll_map_snd {a : Assembly} {entries : List (String × Source)}
    {found : List (String × Item)} (h : a.resolveEntries entries = .ok found) :
    a.resolveAll (entries.map Prod.snd) = .ok (found.map Prod.snd) := by
  induction entries generalizing found with
  | nil =>
    cases h
    rfl
  | cons e rest ih =>
    obtain ⟨key, s⟩ := e
    obtain ⟨first, resolved, h⟩ := Fault.bind_eq_ok.mp h
    obtain ⟨others, rest, h⟩ := Fault.bind_eq_ok.mp h
    cases h
    rw [List.map_cons, resolveAll, resolved, ih rest]
    rfl

/-- What stands in an assembled item are the items of what stands in its source. -/
theorem resolveAll_content {a : Assembly} {s : Source} {item : Item}
    (h : a.assemble s = .ok item) : a.resolveAll s.content = .ok item.content := by
  rcases assemble_cases h with ⟨v, rfl, rfl⟩ | ⟨label, items, found, rfl, resolved, rfl⟩ |
    ⟨label, entries, found, rfl, untyped, resolved, rfl⟩ |
    ⟨label, entries, type, fields, comments, loc, rfl, _, resolved, _, _, rfl⟩
  · rfl
  · exact resolved
  · rw [Source.content, Source.parts, untyped]
    exact resolveAll_map_snd resolved
  · exact resolveAll_map_snd resolved

theorem resolveAll_getElem? {a : Assembly} {items : List Source} {found : List Item}
    (h : a.resolveAll items = .ok found) (k : Nat) :
    items[k]? = none ∧ found[k]? = none ∨
      ∃ c i, items[k]? = some c ∧ found[k]? = some i ∧ a.resolve c = .ok i := by
  induction items generalizing found k with
  | nil =>
    cases h
    exact Or.inl ⟨rfl, rfl⟩
  | cons s rest ih =>
    obtain ⟨first, resolved, h⟩ := Fault.bind_eq_ok.mp h
    obtain ⟨others, rest, h⟩ := Fault.bind_eq_ok.mp h
    cases h
    cases k with
    | zero => exact Or.inr ⟨s, first, rfl, rfl, resolved⟩
    | succ k => simpa using ih rest k

end Assembly

section Positions

variable {s : Source} {nextId : Nat}

/-- What stands in a retained item: plain values, and the items of the newest closings before. -/
theorem makes_child (s : LabelledSource) (container : s.tree.isScalar = false) {holder : Source}
    {later : List Source} {item : Item}
    (retained : Source.Retained s.tree.entered (holder :: later))
    (makes : Assembly.Makes ⟨∅, nextId⟩ item (holder :: later)) (k : Nat) :
    holder.content[k]? = none ∧ item.content[k]? = none ∨
      ∃ c i, holder.content[k]? = some c ∧ item.content[k]? = some i ∧
        ((∃ v, c = .scalar v ∧ i = .plain v) ∨
          ∃ between after, later = between ++ c :: after ∧ (∀ d ∈ between, d.label? ≠ c.label?) ∧
            Assembly.Makes ⟨∅, nextId⟩ i (c :: after)) := by
  obtain ⟨b, closed, assembled⟩ := makes
  rcases Assembly.resolveAll_getElem? (Assembly.resolveAll_content assembled) k with
    none | ⟨c, i, hc, hi, resolved⟩
  · exact Or.inl none
  · refine Or.inr ⟨c, i, hc, hi, ?_⟩
    cases scalar : c.isScalar with
    | true =>
      cases c with
      | scalar v => cases resolved; exact Or.inl ⟨v, rfl, rfl⟩
      | list label items => cases scalar
      | object label entries => cases scalar
    | false =>
      obtain ⟨label, named⟩ := Source.exists_label_of_container scalar
      have kept := (Assembly.resolve_eq_ok_iff named i).mp resolved
      obtain ⟨between, d, after, split, named', newest, makes⟩ :=
        Assembly.exists_makes_of_done closed kept
      have members : ∀ e ∈ holder :: later, e ∈ s.tree.reached := fun e he =>
        Source.mem_reached_of_mem_entered container (retained.suffix.mem he)
      have inside : c ∈ s.tree.reached := Source.mem_reached_of_mem_content
        (members holder List.mem_cons_self) (List.mem_of_getElem? hc) scalar
      have entered : d ∈ s.tree.reached := by
        apply members d
        rw [split]
        exact List.mem_cons_of_mem _ (List.mem_append_right _ List.mem_cons_self)
      -- The label stands for `c` alone, so what was closed under it is `c`.
      obtain rfl := s.coherent d entered c inside (named'.trans named.symm)
      rw [← named'] at newest
      exact Or.inr ⟨between, after, split, newest, makes⟩

/-- A path leads through the tree as it arrived and through its item alike, and what it leads to is
retained. -/
theorem makes_part (s : LabelledSource) (container : s.tree.isScalar = false) {holder : Source}
    {later : List Source} {item : Item}
    (retained : Source.Retained s.tree.entered (holder :: later))
    (makes : Assembly.Makes ⟨∅, nextId⟩ item (holder :: later)) (p : List Nat) :
    holder.part? p = none ∧ item.part? p = none ∨
      ∃ c i, holder.part? p = some c ∧ item.part? p = some i ∧
        ((∃ v, c = .scalar v ∧ i = .plain v) ∨
          ∃ after, Source.Retained s.tree.entered (c :: after) ∧
            Assembly.Makes ⟨∅, nextId⟩ i (c :: after)) := by
  induction p generalizing holder later item with
  | nil => exact Or.inr ⟨holder, item, rfl, rfl, Or.inr ⟨later, retained, makes⟩⟩
  | cons k p ih =>
    rw [Source.part?, Item.part?]
    rcases makes_child s container retained makes k with
      ⟨hc, hi⟩ | ⟨c, i, hc, hi, ⟨v, rfl, rfl⟩ | ⟨between, after, rfl, newest, makes'⟩⟩
    · rw [hc, hi]
      exact Or.inl ⟨rfl, rfl⟩
    · rw [hc, hi, Option.bind_some, Option.bind_some]
      cases p with
      | nil => exact Or.inr ⟨_, _, rfl, rfl, Or.inl ⟨v, rfl, rfl⟩⟩
      | cons j p => exact Or.inl ⟨rfl, rfl⟩
    · rw [hc, hi, Option.bind_some, Option.bind_some]
      exact ih (Source.Retained.part retained (List.mem_of_getElem? hc) newest) makes'

/-- Whatever is retained stands at some path. -/
theorem exists_part_of_retained (s : LabelledSource) (container : s.tree.isScalar = false)
    {root : Item} (makes : Assembly.Makes ⟨∅, nextId⟩ root s.tree.entered) {rest : List Source}
    (retained : Source.Retained s.tree.entered rest) :
    ∀ c after, rest = c :: after → ∃ p i, s.tree.part? p = some c ∧ root.part? p = some i ∧
      Assembly.Makes ⟨∅, nextId⟩ i (c :: after) := by
  induction retained with
  | root =>
    intro c after start
    rw [start] at makes
    obtain ⟨rfl, _⟩ := List.cons.inj start
    exact ⟨[], root, rfl, rfl, makes⟩
  | part above inside newest ih =>
    rename_i holder c between after
    intro c' after' split
    obtain ⟨rfl, rfl⟩ := List.cons.inj split
    obtain ⟨p, item, hp, hitem, made⟩ := ih holder _ rfl
    obtain ⟨k, hk⟩ := List.getElem?_of_mem inside
    rcases makes_child s container above made k with
      ⟨none, _⟩ | ⟨d, i, hd, hi, ⟨v, rfl, rfl⟩ | ⟨between', after', split', newest', made'⟩⟩
    · rw [hk] at none
      cases none
    · obtain rfl : c = .scalar v := Option.some.inj (hk.symm.trans hd)
      have member := Source.mem_reached_of_mem_entered container
        ((Source.Retained.part above inside newest).suffix.mem List.mem_cons_self)
      cases Source.isScalar_of_mem_reached member
    · obtain rfl : c = d := Option.some.inj (hk.symm.trans hd)
      rw [← Source.eq_of_first_split rfl split' newest newest'] at made'
      refine ⟨p ++ [k], i, ?_, ?_, made'⟩
      · rw [Source.part?_append, hp, Option.bind_some, Source.part?, hk]
        rfl
      · rw [Item.part?_append, hitem, Option.bind_some, Item.part?, hi]
        rfl

/-- The root is the item of the last closing. -/
theorem makes_root [Stack] {root : Node} {next : Nat} (typed : s.isNode = true)
    (converted : Node.ofSource s nextId = .ok (root, next)) :
    Assembly.Makes ⟨∅, nextId⟩ (.ofNode root) s.entered := by
  rw [Node.ofSource_of_isNode typed] at converted
  obtain ⟨b, closed, converted⟩ := Fault.bind_eq_ok.mp converted
  obtain ⟨item, assembled, converted⟩ := Fault.bind_eq_ok.mp converted
  cases node : item.node? with
  | none =>
    rw [node] at converted
    cases converted
  | some n =>
    rw [node] at converted
    cases converted
    rw [Item.ofNode_of_node? node] at assembled
    exact ⟨b, closed, assembled⟩

/-- The number of a node counts what is closed before it. -/
theorem makes_id (container : s.isScalar = false) {c : Source} {after : List Source} {i : Item}
    (retained : Source.Retained s.entered (c :: after))
    (makes : Assembly.Makes ⟨∅, nextId⟩ i (c :: after)) :
    i.node?.isSome = c.isNode ∧ ∀ n, i.node? = some n → n.id = nextId + after.length := by
  obtain ⟨b, closed, assembled⟩ := makes
  have containers : ∀ d ∈ after, d.isScalar = false := fun d hd =>
    Source.isScalar_of_mem_reached (Source.mem_reached_of_mem_entered container
      (retained.suffix.mem (List.mem_cons_of_mem c hd)))
  have count := Assembly.nextId_closeAll containers closed
  obtain ⟨isNode, number⟩ := Assembly.node?_assemble assembled
  refine ⟨isNode, ?_⟩
  intro n hn
  rw [number n hn]
  exact count

/-- A node stands where an object with a type stood, and it comes from a retained closing. -/
theorem retained_of_at {root n : Node} {p : List Nat} (s : LabelledSource)
    (container : s.tree.isScalar = false)
    (makes : Assembly.Makes ⟨∅, nextId⟩ (.ofNode root) s.tree.entered) (h : root.at? p = some n) :
    ∃ c after, s.tree.part? p = some c ∧ c.isNode = true ∧
      Source.Retained s.tree.entered (c :: after) ∧
      n.id = nextId + after.length := by
  obtain ⟨i, hi, node⟩ := Option.bind_eq_some_iff.mp h
  rcases makes_part s container Source.Retained.root makes p with
    ⟨_, none⟩ | ⟨c, i', hc, hi', ⟨v, rfl, rfl⟩ | ⟨after, retained, made⟩⟩
  · rw [hi] at none
    cases none
  · obtain rfl := Option.some.inj (hi.symm.trans hi')
    cases node
  · obtain rfl := Option.some.inj (hi.symm.trans hi')
    obtain ⟨isNode, number⟩ := makes_id container retained made
    rw [node] at isNode
    exact ⟨c, after, hc, isNode.symm, retained, number n node⟩

theorem at_of_retained {root : Node} {c : Source} {after : List Source} (s : LabelledSource)
    (container : s.tree.isScalar = false)
    (makes : Assembly.Makes ⟨∅, nextId⟩ (.ofNode root) s.tree.entered) (isNode : c.isNode = true)
    (retained : Source.Retained s.tree.entered (c :: after)) :
    ∃ p n, s.tree.part? p = some c ∧ root.at? p = some n ∧ n.id = nextId + after.length := by
  obtain ⟨p, i, hc, hi, made⟩ :=
    exists_part_of_retained s container makes retained c after rfl
  obtain ⟨isNode', number⟩ := makes_id container retained made
  rw [isNode] at isNode'
  obtain ⟨n, hn⟩ := Option.isSome_iff_exists.mp isNode'
  refine ⟨p, n, hc, ?_, number n hn⟩
  rw [Node.at?, hi]
  exact hn

end Positions

end NameLint
