import NameLint.Tree.Assembly

/-!
# The order of closings

Which lists and objects are opened, and in which order they are closed, depends
on labels only: something is opened if its label has no item when its
surroundings are opened. The list of what is opened, in reading order, is computed
here by recursion, and a run is shown to close it from the last entry on. What is
closed finds everything that stands in it done.
-/

namespace NameLint

namespace Source

def labels (order : List Source) : List Nat :=
  order.filterMap label?

theorem labels_append (front back : List Source) :
    labels (front ++ back) = labels front ++ labels back :=
  List.filterMap_append

theorem mem_labels {order : List Source} {label : Nat} :
    label ∈ labels order ↔ ∃ s ∈ order, s.label? = some label :=
  List.mem_filterMap

/-- Whether the source is a list or an object whose label is not among these. -/
def isNew (known : List Nat) (s : Source) : Bool :=
  s.label?.any fun label => !known.contains label

theorem isNew_iff {known : List Nat} {s : Source} :
    s.isNew known = true ↔ ∃ label, s.label? = some label ∧ label ∉ known := by
  simp [isNew, Option.any_eq_true]

theorem isScalar_of_isNew {known : List Nat} {s : Source} (h : s.isNew known = true) :
    s.isScalar = false := by
  cases s with
  | scalar v => cases h
  | list label items => rfl
  | object label entries => rfl

/-- What stands in a source is smaller, or there is nothing. -/
theorem content_shrinks (s : Source) (rest : List Source) :
    Prod.Lex (· < ·) (· < ·) (sizeOfAll s.content, s.content.length)
      (sizeOfAll (s :: rest), (s :: rest).length) := by
  rw [sizeOfAll]
  by_cases zero : s.size = 0
  · have scalar : s.content = [] := by
      cases s with
      | scalar v => rfl
      | list label items => simp only [size] at zero; omega
      | object label entries => simp only [size] at zero; omega
    rw [scalar, zero, Nat.zero_add]
    by_cases none : sizeOfAll rest = 0
    · rw [none]
      exact Prod.Lex.right _ (by simp)
    · exact Prod.Lex.left _ _ (by simp only [sizeOfAll]; omega)
  · have small := Assembly.sizeOfAll_content_lt s (by omega)
    exact Prod.Lex.left _ _ (by omega)

theorem rest_shrinks (s : Source) (rest : List Source) :
    Prod.Lex (· < ·) (· < ·) (sizeOfAll rest, rest.length)
      (sizeOfAll (s :: rest), (s :: rest).length) := by
  rw [sizeOfAll]
  by_cases zero : s.size = 0
  · rw [zero, Nat.zero_add]
    exact Prod.Lex.right _ (by simp)
  · exact Prod.Lex.left _ _ (by omega)

/-- The lists and objects that a sequence leads to, along every path: from the last to the first,
each behind what stands in it. -/
def reachedAll : List Source → List Source
  | [] => []
  | s :: rest => reachedAll rest ++ if s.isScalar then [] else reachedAll s.content ++ [s]
termination_by items => (sizeOfAll items, items.length)
decreasing_by
  · exact rest_shrinks s rest
  · exact content_shrinks s rest

/-- The lists and objects of a tree, along every path, from right to left and from the bottom up. -/
def reached (s : Source) : List Source :=
  if s.isScalar then [] else reachedAll s.content ++ [s]

theorem reachedAll_cons (s : Source) (rest : List Source) :
    reachedAll (s :: rest) = reachedAll rest ++ s.reached := by
  rw [reachedAll, reached]

theorem reachedAll_singleton (s : Source) : reachedAll [s] = s.reached := by
  rw [reachedAll_cons, reachedAll, List.nil_append]

theorem mem_reachedAll {items : List Source} {x : Source} :
    x ∈ reachedAll items ↔ ∃ s ∈ items, x ∈ s.reached := by
  induction items with
  | nil => simp [reachedAll]
  | cons s rest ih =>
    rw [reachedAll_cons, List.mem_append, ih]
    simp [or_comm]

theorem mem_reached {s x : Source} :
    x ∈ s.reached ↔ s.isScalar = false ∧ (x = s ∨ ∃ c ∈ s.content, x ∈ c.reached) := by
  rw [reached]
  cases s.isScalar with
  | true => simp
  | false => simp [mem_reachedAll, or_comm]

theorem self_mem_reached {s : Source} (container : s.isScalar = false) : s ∈ s.reached :=
  mem_reached.mpr ⟨container, Or.inl rfl⟩

theorem exists_label_of_container {s : Source} (container : s.isScalar = false) :
    ∃ label, s.label? = some label := by
  cases s with
  | scalar v => cases container
  | list label items => exact ⟨label, rfl⟩
  | object label entries => exact ⟨label, rfl⟩

theorem isScalar_of_mem_reached {s x : Source} (h : x ∈ s.reached) : x.isScalar = false := by
  have all : ∀ items : List Source, x ∈ reachedAll items → x.isScalar = false := by
    intro items h
    induction items using reachedAll.induct with
    | case1 =>
      rw [reachedAll] at h
      cases h
    | case2 s rest ih ih' =>
      rw [reachedAll_cons, List.mem_append, mem_reached, ← mem_reachedAll] at h
      rcases h with later | ⟨container, rfl | below⟩
      · exact ih later
      · exact container
      · exact ih' below
  apply all [s]
  rw [reachedAll_singleton]
  exact h

theorem exists_label_of_mem_reached {s x : Source} (h : x ∈ s.reached) :
    ∃ label, x.label? = some label :=
  exists_label_of_container (isScalar_of_mem_reached h)

theorem mem_reachedAll_trans {items : List Source} {x y : Source} (inner : x ∈ y.reached)
    (outer : y ∈ reachedAll items) : x ∈ reachedAll items := by
  induction items using reachedAll.induct with
  | case1 =>
    rw [reachedAll] at outer
    cases outer
  | case2 s rest ih ih' =>
    rw [reachedAll_cons, List.mem_append] at *
    rcases outer with later | first
    · exact Or.inl (ih later)
    · right
      rw [mem_reached, ← mem_reachedAll] at first
      obtain ⟨container, rfl | below⟩ := first
      · exact inner
      · exact mem_reached.mpr ⟨container, Or.inr (mem_reachedAll.mp (ih' below))⟩

theorem mem_reached_of_mem_content {s holder c : Source} (outer : holder ∈ s.reached)
    (inner : c ∈ holder.content) (container : c.isScalar = false) : c ∈ s.reached := by
  have inside : c ∈ holder.reached :=
    mem_reached.mpr ⟨isScalar_of_mem_reached outer, Or.inr ⟨c, inner, self_mem_reached container⟩⟩
  rw [← reachedAll_singleton] at outer ⊢
  exact mem_reachedAll_trans inside outer

/-- Whether labels say which lists and objects are the same: two that the tree leads to and that
have one label are equal. -/
def Coherent (s : Source) : Prop :=
  ∀ c ∈ s.reached, ∀ d ∈ s.reached, c.label? = d.label? → c = d

/-- The lists and objects that are opened for a sequence, in reading order, if the labels in `known`
have items when its surroundings are opened. What comes later in the sequence is done first. -/
def enteredAll (known : List Nat) : List Source → List Source
  | [] => []
  | s :: rest =>
    if s.isNew known then
      s :: (enteredAll (labels (enteredAll known rest) ++ known) s.content ++ enteredAll known rest)
    else enteredAll known rest
termination_by items => (sizeOfAll items, items.length)
decreasing_by
  · exact rest_shrinks s rest
  · exact content_shrinks s rest
  · exact rest_shrinks s rest

/-- Whatever stands in the sequence is entered, unless it is known. -/
theorem label_mem_enteredAll {known : List Nat} {items : List Source} {c : Source} {label : Nat}
    (member : c ∈ items) (named : c.label? = some label) :
    label ∈ labels (enteredAll known items) ++ known := by
  induction items with
  | nil => cases member
  | cons s rest ih =>
    rw [enteredAll]
    rcases List.mem_cons.mp member with rfl | later
    · by_cases new : c.isNew known = true
      · rw [if_pos new]
        exact List.mem_append_left _ (mem_labels.mpr ⟨c, List.mem_cons_self, named⟩)
      · rw [isNew_iff] at new
        by_cases old : label ∈ known
        · exact List.mem_append_right _ old
        · exact absurd ⟨label, named, old⟩ new
    · have found := ih later
      split
      · rw [← List.cons_append, labels_append, List.append_assoc]
        exact List.mem_append_right _ found
      · exact found

def entered (s : Source) : List Source :=
  s :: enteredAll [] s.content

end Source

/-- A tree as it arrives, whose labels say which lists and objects are the same. -/
structure LabelledSource where
  tree : Source
  coherent : tree.Coherent

namespace Assembly

/-- Lists and objects closed one after the other, the last one first. -/
def closeAll (a : Assembly) : List Source → Except Fault Assembly
  | [] => return a
  | s :: later => do
    let b ← a.closeAll later
    b.close s

theorem closeAll_append (a : Assembly) (front later : List Source) :
    a.closeAll (front ++ later) = (do
      let b ← a.closeAll later
      b.closeAll front) := by
  induction front with
  | nil =>
    cases h : a.closeAll later with
    | error fault => exact h
    | ok b => exact h
  | cons s front ih =>
    rw [List.cons_append, closeAll, ih]
    cases a.closeAll later with
    | error fault => rfl
    | ok b => rfl

/-- Whether the labels with items are these. -/
def Covers (a : Assembly) (known : List Nat) : Prop :=
  ∀ label, a.done.contains label = true ↔ label ∈ known

theorem isPending_of_covers {a : Assembly} {known : List Nat} (covers : a.Covers known)
    (s : Source) : a.isPending s = s.isNew known := by
  unfold isPending Source.isNew
  cases s.label? with
  | none => rfl
  | some label =>
    have same : a.done.contains label = known.contains label := by
      rw [Bool.eq_iff_iff, covers label, List.contains_iff_mem]
    exact congrArg not same

theorem resolve_of_label {s : Source} {label : Nat} (named : s.label? = some label)
    (a : Assembly) : a.resolve s = a.done[label]?.elim (.error .missingKey) .ok := by
  cases s with
  | scalar v => cases named
  | list own items =>
    cases named
    unfold resolve Source.label?
    dsimp only
    cases a.done[label]? with
    | none => rfl
    | some item => rfl
  | object own entries =>
    cases named
    unfold resolve Source.label?
    dsimp only
    cases a.done[label]? with
    | none => rfl
    | some item => rfl

theorem resolve_eq_ok_iff {a : Assembly} {s : Source} {label : Nat} (named : s.label? = some label)
    (item : Item) : a.resolve s = .ok item ↔ a.done[label]? = some item := by
  rw [resolve_of_label named]
  cases a.done[label]? with
  | none => simp
  | some other => simp

/-- What can be assembled, and from what. -/
theorem assemble_cases {a : Assembly} {s : Source} {item : Item} (h : a.assemble s = .ok item) :
    (∃ v, s = .scalar v ∧ item = .plain v) ∨
    (∃ label items found, s = .list label items ∧ a.resolveAll items = .ok found ∧
      item = .tuple found) ∨
    (∃ label entries found, s = .object label entries ∧ Source.typeOf? entries = none ∧
      a.resolveEntries entries = .ok found ∧ item = .record found) ∨
    ∃ label entries type fields comments loc, s = .object label entries ∧
      Source.typeOf? entries = some type ∧
      a.resolveEntries (Source.parts entries) = .ok fields ∧
      Comment.readAll (rawValue entries "leadingComments") = .ok comments ∧
      Location.read (rawValue entries "loc") = .ok loc ∧
      item = .node a.nextId type fields loc comments := by
  cases s with
  | scalar v =>
    cases h
    exact Or.inl ⟨v, rfl, rfl⟩
  | list label items =>
    obtain ⟨found, resolved, h⟩ := Fault.bind_eq_ok.mp h
    cases h
    exact Or.inr (Or.inl ⟨label, items, found, rfl, resolved, rfl⟩)
  | object label entries =>
    rw [assemble] at h
    cases typed : Source.typeOf? entries with
    | none =>
      rw [typed] at h
      obtain ⟨found, resolved, h⟩ := Fault.bind_eq_ok.mp h
      cases h
      exact Or.inr (Or.inr (Or.inl ⟨label, entries, found, rfl, typed, resolved, rfl⟩))
    | some type =>
      rw [typed] at h
      obtain ⟨fields, resolved, h⟩ := Fault.bind_eq_ok.mp h
      obtain ⟨comments, commented, h⟩ := Fault.bind_eq_ok.mp h
      obtain ⟨loc, located, h⟩ := Fault.bind_eq_ok.mp h
      cases h
      exact Or.inr (Or.inr (Or.inr ⟨label, entries, type, fields, comments, loc, rfl, typed,
        resolved, commented, located, rfl⟩))

theorem close_of_label {s : Source} {label : Nat} (named : s.label? = some label) (a : Assembly) :
    a.close s =
      (a.assemble s).map fun item => ⟨a.done.insert label item, a.nextId + 1⟩ := by
  rw [close, named]
  cases a.assemble s with
  | error fault => rfl
  | ok item => rfl

/-- What was closed last has its item. -/
theorem resolve_insert {s : Source} {label : Nat} (named : s.label? = some label)
    (done : Std.HashMap Nat Item) (item : Item) (nextId : Nat) :
    resolve ⟨done.insert label item, nextId⟩ s = .ok item := by
  rw [resolve_eq_ok_iff named]
  exact Std.HashMap.getElem?_insert_self

/-- A node with one field is made from the item of that field. -/
theorem assemble_of_field {a : Assembly} {label : Nat} {type key : String} {child : Source}
    {item : Item} (field : Source.bookkeeping.contains key = false)
    (resolved : a.resolve child = .ok item) :
    a.assemble (.object label [("type", .scalar (.text type)), (key, child)]) =
      .ok (.node a.nextId type [(key, item)] none []) := by
  have typed : Source.typeOf? [("type", .scalar (.text type)), (key, child)] = some type := rfl
  have parts : Source.parts [("type", .scalar (.text type)), (key, child)] = [(key, child)] := by
    have hidden : Source.bookkeeping.contains "type" = true := by decide
    rw [Source.parts, typed]
    dsimp only
    rw [List.filter_cons_of_neg (by rw [hidden]; decide),
      List.filter_cons_of_pos (by rw [field]; rfl), List.filter_nil]
  have raw : ∀ other, Source.bookkeeping.contains other = true → other ≠ "type" →
      rawValue [("type", .scalar (.text type)), (key, child)] other = .null := by
    intro other noted apart
    have early : (other == "type") = false := by simpa using apart
    have late : (other == key) = false := by
      rw [beq_eq_false_iff_ne]
      rintro rfl
      rw [field] at noted
      cases noted
    rw [rawValue, List.lookup_cons, early]
    dsimp only
    rw [List.lookup_cons, late]
    rfl
  rw [assemble, typed]
  dsimp only
  rw [parts, raw "leadingComments" (by decide) (by decide), raw "loc" (by decide) (by decide),
    resolveEntries, resolved]
  rfl

theorem close_eq_ok {a b : Assembly} {s : Source} {label : Nat} (named : s.label? = some label)
    (h : a.close s = .ok b) :
    ∃ item, a.assemble s = .ok item ∧ b = ⟨a.done.insert label item, a.nextId + 1⟩ := by
  rw [close_of_label named] at h
  cases assembled : a.assemble s with
  | error fault => rw [assembled] at h; cases h
  | ok item => rw [assembled] at h; cases h; exact ⟨item, rfl, rfl⟩

theorem close_covers {a b : Assembly} {s : Source} {known : List Nat} (covers : a.Covers known)
    (h : a.close s = .ok b) : b.Covers (Source.labels [s] ++ known) := by
  intro label
  cases named : s.label? with
  | none =>
    obtain ⟨item, _, h⟩ := Fault.bind_eq_ok.mp h
    rw [named] at h
    cases h
    simp [Source.labels, named, covers label]
  | some own =>
    obtain ⟨item, _, rfl⟩ := close_eq_ok named h
    simp [Source.labels, named, Std.HashMap.contains_insert, covers label, eq_comm (a := own)]

/-- Closing gives items to the labels of what is closed, and to no others. -/
theorem closeAll_covers {a b : Assembly} {order : List Source} {known : List Nat}
    (covers : a.Covers known) (h : a.closeAll order = .ok b) :
    b.Covers (Source.labels order ++ known) := by
  induction order generalizing b with
  | nil =>
    cases h
    exact covers
  | cons s later ih =>
    obtain ⟨c, closed, last⟩ := Fault.bind_eq_ok.mp h
    have step := close_covers (ih closed) last
    rw [← List.append_assoc, ← Source.labels_append] at step
    exact step

def openings (known : List Nat) (items : List Source) : List Task :=
  ((items.filter (Source.isNew known)).map Task.opening).reverse

theorem pending_of_covers {a : Assembly} {known : List Nat} (covers : a.Covers known)
    (s : Source) : a.pending s = openings known s.content := by
  rw [pending, openings, List.filter_congr fun c _ => isPending_of_covers covers c]

theorem openings_cons (known : List Nat) (s : Source) (rest : List Source) :
    openings known (s :: rest) =
      openings known rest ++ if s.isNew known then [Task.opening s] else [] := by
  unfold openings
  rw [List.filter_cons]
  split
  · rw [List.map_cons, List.reverse_cons]
  · rw [List.append_nil]

/-- The tasks for a sequence close what is entered for it, and then the rest of the stack runs. -/
theorem run_openings {a : Assembly} {known : List Nat} (covers : a.Covers known)
    (items : List Source) (stack : List Task) :
    a.run (openings known items ++ stack) = (do
      let b ← a.closeAll (Source.enteredAll known items)
      b.run stack) := by
  -- The induction follows `enteredAll`: the later items run first, then the content of the first.
  induction known, items using Source.enteredAll.induct generalizing a stack with
  | case1 known =>
    rw [Source.enteredAll]
    rfl
  | case2 known s rest new ih ih' =>
    rw [openings_cons, if_pos new, List.append_assoc, ih covers, Source.enteredAll, if_pos new,
      closeAll, closeAll_append]
    cases closed : a.closeAll (Source.enteredAll known rest) with
    | error fault => rfl
    | ok b =>
      have covers' := closeAll_covers covers closed
      show b.run (.opening s :: stack) = _
      rw [run, if_neg (by rw [Source.isScalar_of_isNew new]; decide), pending_of_covers covers',
        ih' covers']
      show (b.closeAll _ >>= fun c => c.run (.closing s :: stack)) =
        ((b.closeAll _ >>= fun c => c.close s) >>= fun c => c.run stack)
      cases b.closeAll (Source.enteredAll
          (Source.labels (Source.enteredAll known rest) ++ known) s.content) with
      | error fault => rfl
      | ok c =>
        show c.run (.closing s :: stack) = _
        rw [run]
        rfl
  | case3 known s rest old ih =>
    rw [openings_cons, if_neg old, List.append_nil, ih covers, Source.enteredAll, if_neg old]

theorem empty_covers (nextId : Nat) : (Assembly.mk ∅ nextId).Covers [] := by
  intro label
  simp

/-- A run from nothing closes what is entered for the tree. -/
theorem run_opening (s : Source) (nextId : Nat) (container : s.isScalar = false) :
    Assembly.run ⟨∅, nextId⟩ [.opening s] = Assembly.closeAll ⟨∅, nextId⟩ s.entered := by
  have covers := empty_covers nextId
  rw [run, if_neg (by rw [container]; decide), pending_of_covers covers, run_openings covers,
    Source.entered, closeAll]
  cases Assembly.closeAll ⟨∅, nextId⟩ (Source.enteredAll [] s.content) with
  | error fault => rfl
  | ok b =>
    show b.run [.closing s] = b.close s
    rw [run]
    cases b.close s with
    | error fault => rfl
    | ok c =>
      show c.run [] = _
      rw [run]
      rfl

end Assembly

end NameLint
