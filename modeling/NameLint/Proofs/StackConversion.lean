import NameLint.Proofs.Conversion

/-!
# Assembling is conversion

Assembling with a stack comes to conversion by recursion, the numbers of the nodes
aside. The stack closes a shared list or object as often as it was opened, but all
its items are alike: every item that is kept is the one that conversion gives.
-/

namespace NameLint

namespace Assembly

/-- Whether a source has an item, and it is the one that conversion gives. -/
def Resolves (a : Assembly) (s : Source) : Prop :=
  ∃ item, a.resolve s = .ok item ∧ s.convert = .ok item.anonymous

theorem resolveAll_of_resolves {a : Assembly} {items : List Source}
    (h : ∀ s ∈ items, a.Resolves s) :
    ∃ found, a.resolveAll items = .ok found ∧
      Source.convertAll items = .ok (Item.anonymousAll found) := by
  induction items with
  | nil => exact ⟨[], rfl, rfl⟩
  | cons s rest ih =>
    obtain ⟨item, resolved, converted⟩ := h s List.mem_cons_self
    obtain ⟨found, all, all'⟩ := ih fun c hc => h c (List.mem_cons_of_mem s hc)
    refine ⟨item :: found, ?_, ?_⟩
    · rw [resolveAll, resolved, all]
      rfl
    · rw [Source.convertAll, all', converted]
      rfl

theorem resolveEntries_of_resolves {a : Assembly} {entries : List (String × Source)}
    (h : ∀ e ∈ entries, a.Resolves e.2) :
    ∃ found, a.resolveEntries entries = .ok found ∧
      Source.convertEntries (fun _ => true) entries = .ok (Item.anonymousEntries found) := by
  induction entries with
  | nil => exact ⟨[], rfl, rfl⟩
  | cons e rest ih =>
    obtain ⟨key, s⟩ := e
    obtain ⟨item, resolved, converted⟩ := h (key, s) List.mem_cons_self
    obtain ⟨found, all, all'⟩ := ih fun e he => h e (List.mem_cons_of_mem _ he)
    refine ⟨(key, item) :: found, ?_, ?_⟩
    · rw [resolveEntries, resolved, all]
      rfl
    · rw [Source.convertEntries, all', converted]
      rfl

/-- What is assembled from converted content is converted. -/
theorem assemble_eq_convert {a : Assembly} {s : Source} (h : ∀ c ∈ s.content, a.Resolves c) :
    (a.assemble s).map Item.anonymous = s.convert := by
  cases s with
  | scalar v => rfl
  | list label items =>
    rw [Source.content] at h
    obtain ⟨found, resolved, converted⟩ := resolveAll_of_resolves h
    rw [assemble, resolved, Source.convert, converted]
    rfl
  | object label entries =>
    have parts : ∀ e ∈ Source.parts entries, a.Resolves e.2 :=
      fun e he => h e.2 (List.mem_map_of_mem he)
    obtain ⟨found, resolved, converted⟩ := resolveEntries_of_resolves parts
    rw [assemble, Source.convert]
    cases type : Source.typeOf? entries with
    | none =>
      rw [Source.parts, type] at resolved converted
      dsimp only at resolved converted ⊢
      rw [resolved, converted]
      rfl
    | some type =>
      have kept : Source.convertEntries (fun key => !Source.bookkeeping.contains key) entries =
          .ok (Item.anonymousEntries found) := by
        rw [Source.convertEntries_filter, ← converted, Source.parts, type]
      dsimp only
      rw [resolved, kept]
      cases Comment.readAll (rawValue entries "leadingComments") with
      | error fault => rfl
      | ok comments =>
        cases Location.read (rawValue entries "loc") with
        | error fault => rfl
        | ok loc => rfl

/-- Whether all items kept for lists and objects of a tree are those that conversion gives. -/
def Holds (a : Assembly) (tree : Source) : Prop :=
  ∀ c ∈ tree.reached, ∀ label, c.label? = some label → ∀ item, a.done[label]? = some item →
    c.convert = .ok item.anonymous

theorem Holds.resolves {a : Assembly} {tree : Source} {known : List Nat} (holds : a.Holds tree)
    (covers : a.Covers known) {c : Source} (inside : c.isScalar = false → c ∈ tree.reached)
    (supplied : ∀ label, c.label? = some label → label ∈ known) : a.Resolves c := by
  have container : ∀ label, c.label? = some label → c ∈ tree.reached → a.Resolves c := by
    intro label named member
    obtain ⟨item, kept⟩ : ∃ item, a.done[label]? = some item := by
      rw [← Option.isSome_iff_exists, Std.HashMap.isSome_getElem?_eq_contains]
      exact (covers label).mpr (supplied label named)
    exact ⟨item, (resolve_eq_ok_iff named item).mpr kept, holds c member label named item kept⟩
  cases c with
  | scalar v => exact ⟨.plain v, rfl, rfl⟩
  | list label items => exact container label rfl (inside rfl)
  | object label entries => exact container label rfl (inside rfl)

theorem of?_close {a : Assembly} {s : Source} (h : ∀ c ∈ s.content, a.Resolves c) :
    Fault.of? (a.close s) = Fault.of? s.convert := by
  rw [← assemble_eq_convert h, close]
  cases a.assemble s with
  | error fault => rfl
  | ok item =>
    cases s.label? with
    | none => rfl
    | some label => rfl

/-- Closing keeps the invariant, since a label stands for one list or object only. -/
theorem Holds.close {a b : Assembly} {tree s : Source} (coherent : tree.Coherent)
    (holds : a.Holds tree) (member : s ∈ tree.reached) (h : ∀ c ∈ s.content, a.Resolves c)
    (closed : a.close s = .ok b) : b.Holds tree := by
  obtain ⟨own, named⟩ := Source.exists_label_of_mem_reached member
  obtain ⟨made, assembled, rfl⟩ := close_eq_ok named closed
  have converted := assemble_eq_convert h
  rw [assembled] at converted
  intro c hc label hlabel item kept
  rw [Std.HashMap.getElem?_insert] at kept
  split at kept
  · rename_i same
    obtain rfl : own = label := by simpa using same
    obtain rfl := coherent s member c hc (named.trans hlabel.symm)
    cases kept
    exact converted.symm
  · exact holds c hc label hlabel item kept

/-- What stands in a list or object is done once the items entered for it are closed. -/
theorem Holds.resolves_content {a b : Assembly} {tree s : Source} {known : List Nat}
    (holds : b.Holds tree) (inside : s ∈ tree.reached) (covers : a.Covers known)
    (closed : a.closeAll (Source.enteredAll known s.content) = .ok b) :
    ∀ c ∈ s.content, b.Resolves c := by
  intro c hc
  apply holds.resolves (closeAll_covers covers closed)
  · intro container
    exact Source.mem_reached_of_mem_content inside hc container
  · intro label named
    exact Source.label_mem_enteredAll hc named

/-- Closing what is entered for a sequence fails as its conversion does, and keeps the items that
conversion gives. -/
theorem closeAll_enteredAll {tree : Source} (coherent : tree.Coherent) {a : Assembly}
    {known : List Nat} {items : List Source}
    (inside : ∀ c ∈ items, c.isScalar = false → c ∈ tree.reached)
    (covers : a.Covers known) (holds : a.Holds tree) :
    Fault.of? (a.closeAll (Source.enteredAll known items)) =
        Fault.of? (Source.convertAll items) ∧
      ∀ b, a.closeAll (Source.enteredAll known items) = .ok b → b.Holds tree := by
  induction known, items using Source.enteredAll.induct generalizing a with
  | case1 known =>
    rw [Source.enteredAll]
    refine ⟨rfl, ?_⟩
    intro b h
    cases h
    exact holds
  | case2 known s rest new ih ih' =>
    have member : s ∈ tree.reached := inside s List.mem_cons_self (Source.isScalar_of_isNew new)
    obtain ⟨faults, kept⟩ := ih (fun c hc => inside c (List.mem_cons_of_mem s hc)) covers holds
    rw [Source.enteredAll, if_pos new, closeAll, closeAll_append, Source.of?_convertAll_cons,
      ← faults]
    cases closed : a.closeAll (Source.enteredAll known rest) with
    | error fault => exact ⟨rfl, fun b h => by cases h⟩
    | ok b =>
      have covers' := closeAll_covers covers closed
      obtain ⟨faults', kept'⟩ := ih'
        (fun c hc => Source.mem_reached_of_mem_content member hc) covers' (kept b closed)
      rw [Source.of?_convert, ← faults']
      show Fault.of? (b.closeAll _ >>= fun c => c.close s) = _ ∧
        ∀ d, (b.closeAll _ >>= fun c => c.close s) = .ok d → d.Holds tree
      cases closed' : b.closeAll (Source.enteredAll
          (Source.labels (Source.enteredAll known rest) ++ known) s.content) with
      | error fault => exact ⟨rfl, fun d h => by cases h⟩
      | ok c =>
        have holds' := kept' c closed'
        have resolved := holds'.resolves_content member covers' closed'
        have own := of?_close resolved
        rw [Source.of?_convert, ← faults', closed'] at own
        exact ⟨own, fun d h => holds'.close coherent member resolved h⟩
  | case3 known s rest old ih =>
    have done : a.Resolves s := by
      apply holds.resolves covers (inside s List.mem_cons_self)
      intro label named
      rw [Source.isNew_iff] at old
      by_cases member : label ∈ known
      · exact member
      · exact absurd ⟨label, named, member⟩ old
    obtain ⟨item, _, converted⟩ := done
    obtain ⟨faults, kept⟩ := ih (fun c hc => inside c (List.mem_cons_of_mem s hc)) covers holds
    rw [Source.enteredAll, if_neg old, Source.of?_convertAll_cons, ← faults, converted]
    exact ⟨(Option.or_none).symm, kept⟩

theorem empty_holds (tree : Source) (nextId : Nat) : (Assembly.mk ∅ nextId).Holds tree := by
  intro c hc label named item kept
  simp at kept

/-- An assembled item is a node if and only if its source is an object with a type, and it has the
next number. -/
theorem node?_assemble {a : Assembly} {s : Source} {item : Item} (h : a.assemble s = .ok item) :
    item.node?.isSome = s.isNode ∧ ∀ n, item.node? = some n → n.id = a.nextId := by
  rcases assemble_cases h with ⟨v, rfl, rfl⟩ | ⟨label, items, found, rfl, _, rfl⟩ |
    ⟨label, entries, found, rfl, untyped, _, rfl⟩ |
    ⟨label, entries, type, fields, comments, loc, rfl, typed, _, _, _, rfl⟩
  · exact ⟨rfl, fun n hn => by cases hn⟩
  · exact ⟨rfl, fun n hn => by cases hn⟩
  · rw [Source.isNode, untyped]
    exact ⟨rfl, fun n hn => by cases hn⟩
  · rw [Source.isNode, typed]
    exact ⟨rfl, fun n hn => by cases hn; rfl⟩

end Assembly

namespace Node

theorem ofSource_of_isNode_eq_false [Stack] {s : Source} (h : s.isNode = false) (nextId : Nat) :
    ofSource s nextId = .error s.refusal := by
  cases s with
  | scalar v => rfl
  | list label items => rfl
  | object label entries =>
    have untyped : Source.typeOf? entries = none := by simpa [Source.isNode] using h
    rw [ofSource, untyped]
    rfl

/-- The node of an object with a type is what closing it last leaves under its label. -/
theorem ofSource_of_isNode [Stack] {s : Source} (h : s.isNode = true) (nextId : Nat) :
    ofSource s nextId = (do
      let b ← Assembly.closeAll ⟨∅, nextId⟩ (Source.enteredAll [] s.content)
      let item ← b.assemble s
      match item.node? with
      | some root => return (root, b.nextId + 1)
      | none => throw .missingKey) := by
  cases s with
  | scalar v => cases h
  | list label items => cases h
  | object label entries =>
    obtain ⟨type, typed⟩ : ∃ type, Source.typeOf? entries = some type := by
      simpa [Source.isNode, Option.isSome_iff_exists] using h
    rw [ofSource, typed]
    dsimp only
    rw [Assembly.run_opening _ _ rfl, Source.entered, Assembly.closeAll]
    cases Assembly.closeAll ⟨∅, nextId⟩ (Source.enteredAll [] (Source.object label entries).content)
      with
    | error fault => rfl
    | ok b =>
      have closing := Assembly.close_of_label (s := .object label entries) rfl b
      show (b.close (.object label entries) >>= fun final => _) = _
      rw [closing]
      cases assembled : b.assemble (.object label entries) with
      | error fault =>
        show Except.error fault = (b.assemble _ >>= fun item => _)
        rw [assembled]
        rfl
      | ok item =>
        show (match ((b.done.insert label item)[label]?).bind Item.node? with
          | some root => Except.ok (root, b.nextId + 1)
          | none => Except.error .missingKey) = (b.assemble _ >>= fun item => _)
        rw [assembled, Std.HashMap.getElem?_insert_self]
        rfl

/-- The stack and the recursion come to the same. -/
theorem map_ofSource [Stack] (s : LabelledSource) (h : s.tree.isNode = true)
    (nextId : Nat) :
    (ofSource s.tree nextId).map (fun r => (Item.ofNode r.1).anonymous) = s.tree.convert := by
  have member := Source.self_mem_reached (Source.isScalar_of_isNode h)
  have covers := Assembly.empty_covers nextId
  obtain ⟨faults, kept⟩ := Assembly.closeAll_enteredAll s.coherent
    (fun c hc => Source.mem_reached_of_mem_content member hc) covers
    (Assembly.empty_holds s.tree nextId)
  have own := Source.of?_convert s.tree
  rw [ofSource_of_isNode h]
  cases closed : Assembly.closeAll ⟨∅, nextId⟩ (Source.enteredAll [] s.tree.content) with
  | error fault =>
    rw [← faults, closed] at own
    exact (Fault.of?_eq_some.mp own).symm
  | ok b =>
    have resolved := (kept b closed).resolves_content member covers closed
    rw [← Assembly.assemble_eq_convert resolved]
    show ((b.assemble s.tree >>= fun item => _) : Except Fault (Node × Nat)).map _ = _
    cases assembled : b.assemble s.tree with
    | error fault => rfl
    | ok item =>
      obtain ⟨isNode, _⟩ := Assembly.node?_assemble assembled
      rw [h] at isNode
      obtain ⟨root, node⟩ := Option.isSome_iff_exists.mp isNode
      rw [Item.ofNode_of_node? node]
      rfl

/-- Conversion of an object with a type fails as the first node whose reading fails. -/
theorem of?_ofSource [Stack] (s : LabelledSource) (h : s.tree.isNode = true)
    (nextId : Nat) :
    Fault.of? (ofSource s.tree nextId) = s.tree.reached.findSome? Source.readingFault? := by
  rw [Source.findSome?_reached, ← Source.of?_convertAll, ← Source.of?_convert,
    ← map_ofSource s h nextId]
  cases ofSource s.tree nextId with
  | error fault => rfl
  | ok r => rfl

end Node

def sharedName : Source :=
  .object 1 [("type", .scalar (.text "Identifier")), ("name", .scalar (.text "foo_bar"))]

/-- A tree that holds the identifier twice, the second time in a list. -/
def sharedTwice : Source :=
  .object 0 [("type", .scalar (.text "Program")), ("first", sharedName),
    ("second", .list 2 [sharedName])]

theorem content_sharedName : sharedName.content = [.scalar (.text "foo_bar")] := by
  rfl

theorem content_sharedTwice : sharedTwice.content = [sharedName, .list 2 [sharedName]] := by
  rfl

theorem reached_sharedTwice :
    sharedTwice.reached = [sharedName, .list 2 [sharedName], sharedName, sharedTwice] := by
  have root : sharedTwice.isScalar = false := rfl
  have name : sharedName.isScalar = false := rfl
  have list : (Source.list 2 [sharedName]).isScalar = false := rfl
  have items : (Source.list 2 [sharedName]).content = [sharedName] := rfl
  have leaf : (Source.scalar (.text "foo_bar")).isScalar = true := rfl
  simp [Source.reached, Source.reachedAll, content_sharedTwice, content_sharedName, root, name,
    list, items, leaf]

theorem sharedTwice_coherent : sharedTwice.Coherent := by
  intro c hc d hd same
  rw [reached_sharedTwice] at hc hd
  simp only [List.mem_cons, List.not_mem_nil, or_false] at hc hd
  rcases hc with rfl | rfl | rfl | rfl <;> rcases hd with rfl | rfl | rfl | rfl <;>
    first | rfl | cases same

end NameLint
