import NameLint.Proofs.TreeFindings

/-!
# Well-typed trees

What a parser gives: locations with whole lines and columns, comments with texts,
and keys of properties whose name is a text, where these are there at all. All
other entries may hold anything. Such a tree can be converted, and its nodes are
typed in the same way: what a node holds was read from the object that it was
made from, and the key of a property was made from the object under that entry.
-/

namespace NameLint

namespace Value

def isInt : Value → Bool
  | .int _ => true
  | _ => false

theorem isInt_iff {v : Value} : v.isInt = true ↔ ∃ n, v = .int n := by
  cases v <;> simp [isInt]

def isText : Value → Bool
  | .text _ => true
  | _ => false

theorem isText_iff {v : Value} : v.isText = true ↔ ∃ s, v = .text s := by
  cases v <;> simp [isText]

/-- Whether the value is a mapping with a whole line and column. -/
def isPosition : Value → Bool
  | .map entries =>
    (Entries.get? entries "line").any isInt && (Entries.get? entries "column").any isInt
  | _ => false

/-- Whether the value is null or a mapping with a position to begin and one to end at. -/
def isLocation : Value → Bool
  | .null => true
  | .map data => 
    (Entries.get? data "start").any isPosition && (Entries.get? data "end").any isPosition
  | _ => false

/-- Whether a mapping has texts for its type and its value, and a location, as far as it has them.
What is no mapping is no comment and may be anything. -/
def isComment : Value → Bool
  | .map data =>
    (Entries.get? data "type").all isText && (Entries.get? data "value").all isText &&
      ((Entries.get? data "loc").getD .null).isLocation
  | _ => true

/-- Whether the value is null or a list of comments. -/
def areComments : Value → Bool
  | .null => true
  | .list items => items.all isComment
  | _ => false

theorem exists_of_isPosition {v : Value} (h : v.isPosition = true) :
    ∃ entries line column, v = .map entries ∧ Entries.get? entries "line" = some (.int line) ∧
      Entries.get? entries "column" = some (.int column) := by
  cases v with
  | map entries =>
    rw [isPosition, Bool.and_eq_true, Option.any_eq_true, Option.any_eq_true] at h
    obtain ⟨⟨line, hline, whole⟩, ⟨column, hcolumn, whole'⟩⟩ := h
    obtain ⟨n, rfl⟩ := isInt_iff.mp whole
    obtain ⟨m, rfl⟩ := isInt_iff.mp whole'
    exact ⟨entries, n, m, rfl, hline, hcolumn⟩
  | _ => cases h

theorem truthy_of_get? {entries : Entries} {key : String} {v : Value}
    (h : Entries.get? entries key = some v) : (Value.map entries).truthy = true := by
  cases entries with
  | nil => cases h
  | cons e rest => rfl

end Value

structure Location.IsWhole (l : Location) : Prop where
  startLine : l.startLine.isInt = true
  startColumn : l.startColumn.isInt = true
  endLine : l.endLine.isInt = true
  endColumn : l.endColumn.isInt = true

/-- A location with whole positions to begin and to end at is read as it is. -/
theorem Location.read_of_positions {data first last : Entries} {line column line' column' : Int}
    (hstart : Entries.get? data "start" = some (.map first))
    (hstop : Entries.get? data "end" = some (.map last))
    (hline : Entries.get? first "line" = some (.int line))
    (hcolumn : Entries.get? first "column" = some (.int column))
    (hline' : Entries.get? last "line" = some (.int line'))
    (hcolumn' : Entries.get? last "column" = some (.int column')) :
    Location.read (.map data) =
      .ok (some ⟨.int line, .int column, .int line', .int column'⟩) := by
  have position : position? (.map first) = .ok (some first) := by
    rw [position?, hline]
    rfl
  simp only [read, hstart, hstop, orElse, Value.truthy_of_get? hline,
    Value.truthy_of_get? hline', if_true, position, hline', hcolumn', Option.getD_some]
  show Except.ok (some (Location.mk _ _ _ _)) = _
  rw [hline, hcolumn]
  rfl

/-- Locations of the right kind are read. -/
theorem Location.read_of_isLocation {v : Value} (h : v.isLocation = true) :
    ∃ loc, Location.read v = .ok loc ∧ ∀ l, loc = some l → l.IsWhole := by
  cases v with
  | null => exact ⟨none, rfl, fun l hl => by cases hl⟩
  | map data =>
    rw [Value.isLocation, Bool.and_eq_true, Option.any_eq_true, Option.any_eq_true] at h
    obtain ⟨⟨start, hstart, begins⟩, ⟨stop, hstop, ends⟩⟩ := h
    obtain ⟨first, line, column, rfl, hline, hcolumn⟩ := Value.exists_of_isPosition begins
    obtain ⟨last, line', column', rfl, hline', hcolumn'⟩ := Value.exists_of_isPosition ends
    refine ⟨_, read_of_positions hstart hstop hline hcolumn hline' hcolumn', ?_⟩
    intro l hl
    cases hl
    exact ⟨rfl, rfl, rfl, rfl⟩
  | _ => cases h

/-- Whether a comment has a text and, if it has one, a whole location. -/
structure Comment.IsTyped (c : Comment) : Prop where
  value : c.value.isText = true
  loc : ∀ l, c.loc = some l → l.IsWhole

theorem Comment.readItems_of_areComments {items : List Value}
    (h : ∀ v ∈ items, v.isComment = true) :
    ∃ comments, Comment.readItems items = .ok comments ∧ ∀ c ∈ comments, c.IsTyped := by
  induction items with
  | nil => exact ⟨[], rfl, fun c hc => by cases hc⟩
  | cons v rest ih =>
    obtain ⟨later, readLater, typedLater⟩ := ih fun w hw => h w (List.mem_cons_of_mem v hw)
    have own := h v List.mem_cons_self
    cases v with
    | map data =>
      rw [Value.isComment, Bool.and_eq_true, Bool.and_eq_true] at own
      obtain ⟨⟨_, valued⟩, located⟩ := own
      obtain ⟨loc, readLoc, whole⟩ := Location.read_of_isLocation located
      refine ⟨⟨(Entries.get? data "type").getD (.text ""),
        (Entries.get? data "value").getD (.text ""), loc⟩ :: later, ?_, ?_⟩
      · rw [readItems, read, readLoc, readLater]
        rfl
      · intro c hc
        rcases List.mem_cons.mp hc with rfl | hc
        · refine ⟨?_, whole⟩
          show ((Entries.get? data "value").getD (.text "")).isText = true
          cases found : Entries.get? data "value" with
          | none => rfl
          | some value =>
            rw [found] at valued
            exact valued
        · exact typedLater c hc
    | _ => exact ⟨later, readLater, typedLater⟩

/-- Comments of the right kind are read. -/
theorem Comment.readAll_of_areComments {v : Value} (h : v.areComments = true) :
    ∃ comments, Comment.readAll v = .ok comments ∧ ∀ c ∈ comments, c.IsTyped := by
  cases v with
  | null => exact ⟨[], rfl, fun c hc => by cases hc⟩
  | list items =>
    rw [Value.areComments, List.all_eq_true] at h
    obtain ⟨comments, read, typed⟩ := readItems_of_areComments h
    cases items with
    | nil => exact ⟨[], rfl, fun c hc => by cases hc⟩
    | cons v rest => exact ⟨comments, read, typed⟩
  | _ => cases h

/-- Whether a key has a text for its name, if it has one. -/
def Node.IsNamedByText (key : Node) : Prop :=
  key.name = .plain .null ∨ ∃ s, key.name = .plain (.text s)

/-- Whether the location and the comments of a node are typed, and so is the name of the key of a
property. -/
structure Node.IsTyped (n : Node) : Prop where
  loc : ∀ l, n.loc = some l → l.IsWhole
  comments : ∀ c ∈ n.comments, c.IsTyped
  key : n.type = "Property" → ∀ key, n.child? "key" = some key → key.IsNamedByText

theorem Node.IsTyped.hasPlace {n : Node} (typed : n.IsTyped) : n.HasPlace := by
  intro l hl
  have whole := typed.loc l hl
  obtain ⟨line, hline⟩ := Value.isInt_iff.mp whole.startLine
  obtain ⟨column, hcolumn⟩ := Value.isInt_iff.mp whole.startColumn
  exact ⟨line, column, hline, hcolumn⟩

namespace Source

def isNamedByText : Source → Bool
  | .object _ entries =>
    (typeOf? entries).isNone ||
      match entries.lookup "name" with
      | none => true
      | some (.scalar .null) => true
      | some (.scalar (.text _)) => true
      | some _ => false
  | _ => true

/-- Whether a list or object is typed: an object with a type has a location and comments of the
right kinds, and the name of the key of a property is a text. -/
def isWellTyped : Source → Bool
  | .object _ entries =>
    match typeOf? entries with
    | none => true
    | some type =>
      (Assembly.rawValue entries "loc").isLocation &&
        (Assembly.rawValue entries "leadingComments").areComments &&
        (type != "Property" || (entries.lookup "key").all isNamedByText)
  | _ => true

theorem isWellTyped_object {label : Nat} {entries : List (String × Source)} {type : String}
    (typed : typeOf? entries = some type) (h : (object label entries).isWellTyped = true) :
    (Assembly.rawValue entries "loc").isLocation = true ∧
      (Assembly.rawValue entries "leadingComments").areComments = true ∧
      (type = "Property" → ∀ key, entries.lookup "key" = some key → key.isNamedByText = true) := by
  rw [isWellTyped, typed] at h
  simp only [Bool.and_eq_true] at h
  obtain ⟨⟨located, commented⟩, named⟩ := h
  refine ⟨located, commented, ?_⟩
  intro property key hkey
  rw [property, hkey] at named
  exact named

/-- The comments and the location of what is typed can be read. -/
theorem readingFault?_of_isWellTyped {s : Source} (h : s.isWellTyped = true) :
    s.readingFault? = none := by
  cases s with
  | scalar v => rfl
  | list label items => rfl
  | object label entries =>
    rw [readingFault?]
    cases typed : typeOf? entries with
    | none => rfl
    | some type =>
      obtain ⟨located, commented, _⟩ := isWellTyped_object typed h
      obtain ⟨loc, readLoc, _⟩ := Location.read_of_isLocation located
      obtain ⟨comments, readComments, _⟩ := Comment.readAll_of_areComments commented
      dsimp only
      rw [readLoc, readComments]
      rfl

/-- Dropping the entries under other keys does not change what stands under a key. -/
theorem lookup_filter_of_kept (kept : String → Bool) {key : String} (h : kept key = true)
    (entries : List (String × Source)) :
    (entries.filter fun e => kept e.1).lookup key = entries.lookup key := by
  induction entries with
  | nil => rfl
  | cons e rest ih =>
    obtain ⟨k, s⟩ := e
    rw [List.filter_cons]
    split
    · rw [List.lookup_cons, List.lookup_cons, ih]
    · rename_i dropped
      have other : (key == k) = false := by
        rw [beq_eq_false_iff_ne]
        rintro rfl
        exact dropped h
      rw [List.lookup_cons, other, ih]

/-- Entries outside the bookkeeping are parts. -/
theorem lookup_parts {key : String} (kept : (!bookkeeping.contains key) = true)
    (entries : List (String × Source)) : (parts entries).lookup key = entries.lookup key := by
  unfold parts
  split
  · exact lookup_filter_of_kept (fun k => !bookkeeping.contains k) kept entries
  · rfl

end Source

/-- A tree in which all comments and locations can be read can be converted. -/
theorem exists_root_of_readable [Stack] (s : LabelledSource) (node : s.tree.isNode = true)
    (readable : ∀ c ∈ s.tree.reached, c.readingFault? = none) :
    ∃ root, (TreeInput.source s.tree).root = .ok root := by
  have faultless : Fault.of? (Node.ofSource s.tree 0) = none := by
    rw [Node.of?_ofSource s node, List.findSome?_eq_none_iff]
    exact readable
  rw [TreeInput.root]
  cases converted : Node.ofSource s.tree 0 with
  | error fault =>
    rw [converted] at faultless
    cases faultless
  | ok result => exact ⟨result.1, rfl⟩

/-- A well-typed tree can be converted. -/
theorem exists_root_of_isWellTyped [Stack] (s : LabelledSource) (node : s.tree.isNode = true)
    (typed : ∀ c ∈ s.tree.reached, c.isWellTyped = true) :
    ∃ root, (TreeInput.source s.tree).root = .ok root :=
  exists_root_of_readable s node fun c hc =>
    Source.readingFault?_of_isWellTyped (typed c hc)

namespace Assembly

/-- Under a key stands the item of what stands under it in the source, at the same place. -/
theorem lookup_resolveEntries {a : Assembly} {entries : List (String × Source)}
    {found : List (String × Item)} (h : a.resolveEntries entries = .ok found) (key : String) :
    entries.lookup key = none ∧ found.lookup key = none ∨
      ∃ (k : Nat) (s : Source) (i : Item), entries.lookup key = some s ∧ found.lookup key = some i ∧
        (entries.map Prod.snd)[k]? = some s ∧ (found.map Prod.snd)[k]? = some i ∧
        a.resolve s = .ok i := by
  induction entries generalizing found with
  | nil =>
    cases h
    exact Or.inl ⟨rfl, rfl⟩
  | cons e rest ih =>
    obtain ⟨k, s⟩ := e
    obtain ⟨first, resolved, h⟩ := Fault.bind_eq_ok.mp h
    obtain ⟨others, rest, h⟩ := Fault.bind_eq_ok.mp h
    cases h
    rw [List.lookup_cons, List.lookup_cons]
    cases own : key == k with
    | true => exact Or.inr ⟨0, s, first, rfl, rfl, rfl, rfl, resolved⟩
    | false =>
      rcases ih rest with missing | ⟨j, s', i, hs, hi, hs', hi', resolved'⟩
      · exact Or.inl missing
      · exact Or.inr ⟨j + 1, s', i, hs, hi, by simpa using hs', by simpa using hi', resolved'⟩

/-- What a node holds comes from the object that it was made from. -/
theorem node_of_makes {a : Assembly} {c : Source} {after : List Source} {n : Node}
    (made : a.Makes (.ofNode n) (c :: after)) :
    ∃ (b : Assembly) (label : Nat) (entries : List (String × Source)), c = .object label entries ∧
      Source.typeOf? entries = some n.type ∧
      b.resolveEntries (Source.parts entries) = .ok n.fields ∧
      Comment.readAll (rawValue entries "leadingComments") = .ok n.comments ∧
      Location.read (rawValue entries "loc") = .ok n.loc := by
  obtain ⟨b, closed, assembled⟩ := made
  rcases assemble_cases assembled with ⟨v, _, item⟩ | ⟨label, items, found, _, _, item⟩ |
    ⟨label, entries, found, _, _, _, item⟩ |
    ⟨label, entries, type, fields, comments, loc, object, typed, resolved, commented, located,
      item⟩
  · cases item
  · cases item
  · cases item
  · obtain ⟨id, type', fields', loc', comments'⟩ := n
    cases item
    exact ⟨b, label, entries, object, typed, resolved, commented, located⟩

end Assembly

/-- A node that was made from an object whose name is a text is named by that text. -/
theorem isNamedByText_of_makes {a : Assembly} {c : Source} {after : List Source} {key : Node}
    (made : a.Makes (.ofNode key) (c :: after)) (named : c.isNamedByText = true) :
    key.IsNamedByText := by
  obtain ⟨b, label, entries, rfl, typed, resolved, _, _⟩ := Assembly.node_of_makes made
  rw [Source.isNamedByText, typed] at named
  unfold Node.IsNamedByText Node.name Node.get?
  rcases Assembly.lookup_resolveEntries resolved "name" with ⟨_, missing⟩ |
    ⟨k, s, i, hs, hi, _, _, resolved⟩
  · rw [missing]
    exact Or.inl rfl
  · rw [Source.lookup_parts (by decide)] at hs
    rw [hs] at named
    rw [hi]
    cases s with
    | scalar v =>
      cases resolved
      cases v with
      | null => exact Or.inl rfl
      | text s => exact Or.inr ⟨s, rfl⟩
      | _ => cases named
    | list label items => cases named
    | object label entries => cases named

/-- What a visited node holds comes from an object of the tree, and a node under one of its fields
from what stands there. -/
theorem exists_source_of_visited [Stack] {root : Node} (s : LabelledSource)
    (converted : (TreeInput.source s.tree).root = .ok root) {v : Visit} (hv : v ∈ root.preorder) :
    ∃ label entries, Source.object label entries ∈ s.tree.reached ∧
      Source.typeOf? entries = some v.node.type ∧
      Comment.readAll (Assembly.rawValue entries "leadingComments") = .ok v.node.comments ∧
      Location.read (Assembly.rawValue entries "loc") = .ok v.node.loc ∧
      ∀ field, (!Source.bookkeeping.contains field) = true → ∀ child,
        v.node.child? field = some child → ∃ d later, entries.lookup field = some d ∧
          Assembly.Makes ⟨∅, 0⟩ (.ofNode child) (d :: later) := by
  have container := Source.isScalar_of_isNode (isNode_of_root converted)
  obtain ⟨p, hp⟩ := Node.exists_at_of_mem_preorder hv
  obtain ⟨c, after, retained, made⟩ := makes_of_at s container (makes_of_root converted) hp
  have inside := Source.mem_reached_of_mem_entered container
    (retained.suffix.mem List.mem_cons_self)
  obtain ⟨b, label, entries, rfl, type, resolved, commented, located⟩ := Assembly.node_of_makes made
  refine ⟨label, entries, inside, type, commented, located, ?_⟩
  intro field kept child hchild
  obtain ⟨i, hi, node⟩ := Option.bind_eq_some_iff.mp hchild
  rcases Assembly.lookup_resolveEntries resolved field with ⟨_, missing⟩ |
    ⟨k, d, i', hd, hi', atSource, atItem, _⟩
  · rw [Node.get?, missing] at hi
    cases hi
  · obtain rfl := Option.some.inj (hi.symm.trans hi')
    rw [Source.lookup_parts kept] at hd
    -- The child is what is made at the place of its entry.
    rcases makes_child s container retained made k with
      ⟨none, _⟩ | ⟨d', j, hd', hj, ⟨w, _, rfl⟩ | ⟨between, later, _, _, made'⟩⟩
    · cases atSource.symm.trans none
    · cases atItem.symm.trans hj
      cases node
    · obtain rfl : d = d' := Option.some.inj (atSource.symm.trans hd')
      obtain rfl : i = j := Option.some.inj (atItem.symm.trans hj)
      rw [Item.ofNode_of_node? node] at made'
      exact ⟨d, later, hd, made'⟩

/-- The nodes of a well-typed tree are typed. -/
theorem isTyped_of_visited [Stack] {root : Node} (s : LabelledSource)
    (typed : ∀ c ∈ s.tree.reached, c.isWellTyped = true)
    (converted : (TreeInput.source s.tree).root = .ok root) {v : Visit} (hv : v ∈ root.preorder) :
    v.node.IsTyped := by
  obtain ⟨label, entries, inside, type, commented, located, children⟩ :=
    exists_source_of_visited s converted hv
  obtain ⟨isLocation, areComments, named⟩ := Source.isWellTyped_object type (typed _ inside)
  obtain ⟨loc, readLoc, whole⟩ := Location.read_of_isLocation isLocation
  obtain ⟨comments, readComments, allTyped⟩ := Comment.readAll_of_areComments areComments
  refine ⟨?_, ?_, ?_⟩
  · cases readLoc.symm.trans located
    exact whole
  · cases readComments.symm.trans commented
    exact allTyped
  · intro property key hkey
    obtain ⟨d, later, hd, made⟩ := children "key" (by decide) key hkey
    exact isNamedByText_of_makes made (named property d hd)

end NameLint
