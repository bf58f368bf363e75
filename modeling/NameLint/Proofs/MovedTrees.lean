import NameLint.Proofs.Bookkeeping
import NameLint.Proofs.TypedTrees

/-!
# Moving code down a file

Every line in the locations of nodes and of comments grows by one number, which may be
negative; columns and everything else stay. Where the locations are whole throughout,
what a moved tree becomes is what the tree becomes, moved in turn: the same nodes under
the same numbers, with the lines of their locations and comments grown.
-/

namespace NameLint

/-- A line further down. What is no whole number stays. -/
def Value.moved (c : Int) : Value → Value
  | .int n => .int (n + c)
  | v => v

def Location.moved (c : Int) (l : Location) : Location :=
  { l with startLine := l.startLine.moved c, endLine := l.endLine.moved c }

def Comment.moved (c : Int) (comment : Comment) : Comment :=
  { comment with loc := comment.loc.map (Location.moved c) }

def Comment.IsWhole (comment : Comment) : Prop :=
  ∀ l, comment.loc = some l → l.IsWhole

namespace Item

mutual

def moved (c : Int) : Item → Item
  | .plain v => .plain v
  | .tuple items => .tuple (movedAll c items)
  | .record entries => .record (movedEntries c entries)
  | .node id type fields loc comments =>
    .node id type (movedEntries c fields) (loc.map (Location.moved c))
      (comments.map (Comment.moved c))

def movedAll (c : Int) : List Item → List Item
  | [] => []
  | i :: rest => moved c i :: movedAll c rest

def movedEntries (c : Int) : List (String × Item) → List (String × Item)
  | [] => []
  | (key, i) :: rest => (key, moved c i) :: movedEntries c rest

end

theorem movedAll_eq_map (c : Int) : movedAll c = List.map (moved c) := by
  funext items
  induction items with
  | nil => rfl
  | cons i rest ih => rw [movedAll, ih, List.map_cons]

theorem movedEntries_eq_map (c : Int) :
    movedEntries c = List.map fun e => (e.1, moved c e.2) := by
  funext entries
  induction entries with
  | nil => rfl
  | cons e rest ih => rw [movedEntries, ih, List.map_cons]

end Item

def Node.moved (c : Int) (n : Node) : Node :=
  ⟨n.id, n.type, Item.movedEntries c n.fields, n.loc.map (Location.moved c),
    n.comments.map (Comment.moved c)⟩

theorem Item.node?_moved (c : Int) (i : Item) : (i.moved c).node? = i.node?.map (Node.moved c) := by
  cases i with
  | plain v => rfl
  | tuple items => rfl
  | record entries => rfl
  | node id type fields loc comments => rfl

namespace Source

/-- Entries in which what stands under a key is changed as the key says. -/
def changed (f : String → Source → Source) (entries : List (String × Source)) :
    List (String × Source) :=
  entries.map fun e => (e.1, f e.1 e.2)

theorem lookup_changed (f : String → Source → Source) (entries : List (String × Source))
    (key : String) : (changed f entries).lookup key = (entries.lookup key).map (f key) := by
  induction entries with
  | nil => rfl
  | cons e rest ih =>
    rw [changed, List.map_cons, List.lookup_cons, List.lookup_cons]
    by_cases own : key = e.1
    · simp [own]
    · have other : (key == e.1) = false := by simpa using own
      rw [other]
      exact ih

/-- An object in which what stands under some keys is changed. -/
def changedUnder (keys : List String) (f : Source → Source) : Source → Source
  | .object label entries =>
    .object label (changed (fun key s => if keys.contains key then f s else s) entries)
  | s => s

def movedLine (c : Int) : Source → Source
  | .scalar v => .scalar (v.moved c)
  | s => s

def movedPosition (c : Int) : Source → Source :=
  changedUnder ["line"] (movedLine c)

def movedLocation (c : Int) : Source → Source :=
  changedUnder ["start", "end"] (movedPosition c)

def movedComment (c : Int) : Source → Source :=
  changedUnder ["loc"] (movedLocation c)

def movedComments (c : Int) : Source → Source
  | .list label items => .list label (items.map (movedComment c))
  | s => s

/-- The keys of a node that hold comments. -/
def commentLists : List String :=
  ["leadingComments", "trailingComments", "innerComments", "comments"]

/-- What stands under a key of an object, which may be a node, further down; `tree` is what it
becomes where it is a tree. -/
def movedUnder (c : Int) (isNode : Bool) (key : String) (s tree : Source) : Source :=
  if isNode && key == "loc" then movedLocation c s
  else if isNode && commentLists.contains key then movedComments c s
  else tree

mutual

/-- A tree further down: every location of a node or a comment is. -/
def moved (c : Int) : Source → Source
  | .scalar v => .scalar v
  | .list label items => .list label (movedAll c items)
  | .object label entries => .object label (movedEntries c (typeOf? entries).isSome entries)

def movedAll (c : Int) : List Source → List Source
  | [] => []
  | s :: rest => moved c s :: movedAll c rest

/-- The entries of an object, which may be a node, further down. -/
def movedEntries (c : Int) (isNode : Bool) : List (String × Source) → List (String × Source)
  | [] => []
  | (key, s) :: rest =>
    (key, movedUnder c isNode key s (moved c s)) :: movedEntries c isNode rest

end

section Moved

variable (c : Int)

theorem movedAll_eq_map (items : List Source) : movedAll c items = items.map (moved c) := by
  induction items with
  | nil => rfl
  | cons s rest ih => rw [movedAll, ih, List.map_cons]

theorem movedEntries_eq_changed (isNode : Bool) (entries : List (String × Source)) :
    movedEntries c isNode entries =
      changed (fun key s => movedUnder c isNode key s (s.moved c)) entries := by
  induction entries with
  | nil => rfl
  | cons e rest ih =>
    rw [movedEntries, ih]
    rfl

theorem lookup_movedEntries (isNode : Bool) (entries : List (String × Source)) (key : String) :
    (movedEntries c isNode entries).lookup key =
      (entries.lookup key).map fun s => movedUnder c isNode key s (s.moved c) := by
  rw [movedEntries_eq_changed, lookup_changed]

theorem label?_moved (s : Source) : (s.moved c).label? = s.label? := by
  cases s with
  | scalar v => rfl
  | list label items => rfl
  | object label entries => rfl

theorem typeOf?_movedEntries (isNode : Bool) (entries : List (String × Source)) :
    typeOf? (movedEntries c isNode entries) = typeOf? entries := by
  have own : ∀ s tree, movedUnder c isNode "type" s tree = tree := by
    intro s tree
    cases isNode <;> rfl
  simp only [typeOf?, lookup_movedEntries, own]
  cases entries.lookup "type" with
  | none => rfl
  | some s =>
    cases s with
    | scalar v => rfl
    | list label items => rfl
    | object label entries => rfl

theorem isNode_moved (s : Source) : (s.moved c).isNode = s.isNode := by
  cases s with
  | scalar v => rfl
  | list label items => rfl
  | object label entries =>
    show (typeOf? (movedEntries c _ entries)).isSome = (typeOf? entries).isSome
    rw [typeOf?_movedEntries]

/-- What is no bookkeeping is moved as a tree. -/
theorem movedUnder_of_part {key : String} (part : (!bookkeeping.contains key) = true)
    (isNode : Bool) (s tree : Source) : movedUnder c isNode key s tree = tree := by
  have loc : ¬ key = "loc" := by
    rintro rfl
    exact absurd part (by decide)
  have comments : ¬ key ∈ commentLists := by
    intro member
    simp only [commentLists, List.mem_cons, List.not_mem_nil, or_false] at member
    rcases member with rfl | rfl | rfl | rfl <;> exact absurd part (by decide)
  simp [movedUnder, loc, comments]

theorem parts_movedEntries (entries : List (String × Source)) :
    parts (movedEntries c (typeOf? entries).isSome entries) =
      (parts entries).map fun e => (e.1, e.2.moved c) := by
  rw [parts, parts, typeOf?_movedEntries, movedEntries_eq_changed, changed]
  cases typeOf? entries with
  | none => rfl
  | some type =>
    dsimp only
    rw [List.filter_map]
    refine List.map_congr_left ?_
    intro e he
    rw [movedUnder_of_part c (List.mem_filter.mp he).2]

theorem content_moved (s : Source) : (s.moved c).content = s.content.map (moved c) := by
  cases s with
  | scalar v => rfl
  | list label items => exact movedAll_eq_map c items
  | object label entries =>
    show (parts (movedEntries c _ entries)).map Prod.snd = _
    rw [parts_movedEntries, List.map_map, content, List.map_map]
    rfl

/-- A tree is carried over by moving it. -/
theorem carries_moved : Carries (moved c) id := by
  refine ⟨Function.injective_id, fun _ => rfl, ?_, content_moved c, isNode_moved c⟩
  intro s
  rw [label?_moved, Option.map_id]
  rfl

end Moved

section Reading

variable {s : Source} {l : Location} {entries : List (String × Source)} (c : Int)

/-- Whether an object has this line and this column. -/
def HasPosition (s : Source) (line column : Int) : Prop :=
  ∃ label entries, s = .object label entries ∧
    entries.lookup "line" = some (.scalar (.int line)) ∧
    entries.lookup "column" = some (.scalar (.int column))

theorem HasPosition.moved {line column : Int} (h : s.HasPosition line column) :
    (s.movedPosition c).HasPosition (line + c) column := by
  obtain ⟨label, entries, rfl, hline, hcolumn⟩ := h
  refine ⟨label, _, rfl, ?_, ?_⟩
  · rw [lookup_changed, hline]
    rfl
  · rw [lookup_changed, hcolumn]
    rfl

theorem HasPosition.toValue {line column : Int} (h : s.HasPosition line column) :
    ∃ data, s.toValue = .map data ∧ Entries.get? data "line" = some (.int line) ∧
      Entries.get? data "column" = some (.int column) := by
  obtain ⟨label, entries, rfl, hline, hcolumn⟩ := h
  refine ⟨toEntries entries, rfl, ?_, ?_⟩
  · rw [get?_toEntries, hline]
    rfl
  · rw [get?_toEntries, hcolumn]
    rfl

/-- Whether an object has the positions of this location. -/
def HasLocation (s : Source) (l : Location) : Prop :=
  ∃ label entries start stop line column line' column', s = .object label entries ∧
    entries.lookup "start" = some start ∧ start.HasPosition line column ∧
    entries.lookup "end" = some stop ∧ stop.HasPosition line' column' ∧
    l = ⟨.int line, .int column, .int line', .int column'⟩

theorem HasLocation.moved (h : s.HasLocation l) : (s.movedLocation c).HasLocation (l.moved c) := by
  obtain ⟨label, entries, start, stop, line, column, line', column', rfl, hstart, begins, hstop,
    ends, rfl⟩ := h
  refine ⟨label, _, _, _, _, _, _, _, rfl, ?_, begins.moved c, ?_, ends.moved c, rfl⟩
  · rw [lookup_changed, hstart]
    rfl
  · rw [lookup_changed, hstop]
    rfl

theorem HasLocation.read (h : s.HasLocation l) : Location.read s.toValue = .ok (some l) := by
  obtain ⟨label, entries, start, stop, line, column, line', column', rfl, hstart, begins, hstop,
    ends, rfl⟩ := h
  obtain ⟨first, hfirst, hline, hcolumn⟩ := begins.toValue
  obtain ⟨last, hlast, hline', hcolumn'⟩ := ends.toValue
  refine Location.read_of_positions ?_ ?_ hline hcolumn hline' hcolumn'
  · rw [get?_toEntries, hstart, Option.map_some, hfirst]
  · rw [get?_toEntries, hstop, Option.map_some, hlast]

theorem HasLocation.isWhole (h : s.HasLocation l) : l.IsWhole := by
  obtain ⟨_, _, _, _, line, column, line', column', _, _, _, _, _, rfl⟩ := h
  exact ⟨rfl, rfl, rfl, rfl⟩

def isWhole : Source → Bool
  | .scalar v => v.isInt
  | _ => false

theorem isWhole_iff : s.isWhole = true ↔ ∃ n, s = .scalar (.int n) := by
  cases s with
  | scalar v => simp [isWhole, Value.isInt_iff]
  | list label items => simp [isWhole]
  | object label entries => simp [isWhole]

def isPosition : Source → Bool
  | .object _ entries =>
    (entries.lookup "line").any isWhole && (entries.lookup "column").any isWhole
  | _ => false

theorem hasPosition_of_isPosition (h : s.isPosition = true) :
    ∃ line column, s.HasPosition line column := by
  cases s with
  | object label entries =>
    rw [isPosition, Bool.and_eq_true, Option.any_eq_true, Option.any_eq_true] at h
    obtain ⟨⟨first, hline, whole⟩, ⟨second, hcolumn, whole'⟩⟩ := h
    obtain ⟨line, rfl⟩ := isWhole_iff.mp whole
    obtain ⟨column, rfl⟩ := isWhole_iff.mp whole'
    exact ⟨line, column, label, entries, rfl, hline, hcolumn⟩
  | _ => cases h

def isLocation : Source → Bool
  | .object _ entries =>
    (entries.lookup "start").any isPosition && (entries.lookup "end").any isPosition
  | _ => false

theorem hasLocation_of_isLocation (h : s.isLocation = true) : ∃ l, s.HasLocation l := by
  cases s with
  | object label entries =>
    rw [isLocation, Bool.and_eq_true, Option.any_eq_true, Option.any_eq_true] at h
    obtain ⟨⟨start, hstart, begins⟩, ⟨stop, hstop, ends⟩⟩ := h
    obtain ⟨line, column, begins⟩ := hasPosition_of_isPosition begins
    obtain ⟨line', column', ends⟩ := hasPosition_of_isPosition ends
    exact ⟨_, label, entries, start, stop, line, column, line', column', rfl, hstart, begins,
      hstop, ends, rfl⟩
  | _ => cases h

/-- The location of a node is read further down. -/
theorem read_loc_moved (h : (entries.lookup "loc").any isLocation = true) :
    ∃ l, l.IsWhole ∧ Location.read (Assembly.rawValue entries "loc") = .ok (some l) ∧
      Location.read (Assembly.rawValue (movedEntries c true entries) "loc") =
        .ok (some (l.moved c)) := by
  rw [Option.any_eq_true] at h
  obtain ⟨loc, hloc, whole⟩ := h
  obtain ⟨l, located⟩ := hasLocation_of_isLocation whole
  refine ⟨l, located.isWhole, ?_, ?_⟩
  · rw [Assembly.rawValue, hloc]
    exact located.read
  · rw [Assembly.rawValue, lookup_movedEntries, hloc]
    exact (located.moved c).read

/-- Whether the source is null, or an object with a whole location. -/
def isCommentLoc : Source → Bool
  | .scalar .null => true
  | s => s.isLocation

/-- Where a comment has a location, it is read further down. -/
theorem read_commentLoc_moved (h : (entries.lookup "loc").all isCommentLoc = true) :
    ∃ loc : Option Location, (∀ l, loc = some l → l.IsWhole) ∧
      Location.read (((entries.lookup "loc").map toValue).getD .null) = .ok loc ∧
      Location.read (((entries.lookup "loc").map fun s => (s.movedLocation c).toValue).getD .null) =
        .ok (loc.map (Location.moved c)) := by
  cases found : entries.lookup "loc" with
  | none => exact ⟨none, nofun, rfl, rfl⟩
  | some s =>
    rw [found] at h
    by_cases whole : s.isLocation = true
    · obtain ⟨l, located⟩ := hasLocation_of_isLocation whole
      refine ⟨some l, ?_, located.read, (located.moved c).read⟩
      intro l' same
      cases same
      exact located.isWhole
    · cases s with
      | scalar v =>
        cases v with
        | null => exact ⟨none, nofun, rfl, rfl⟩
        | _ => cases h
      | list label items => cases h
      | object label entries => exact absurd h whole

/-- Whether a value holds no others. -/
def isAtom : Value → Bool
  | .list _ => false
  | .tuple _ => false
  | .map _ => false
  | _ => true

/-- Whether a comment, if this is one, has no location or a whole one. -/
def isMovableComment : Source → Bool
  | .scalar v => isAtom v
  | .list _ _ => true
  | .object _ entries => (entries.lookup "loc").all isCommentLoc

/-- A comment is read further down. -/
theorem read_comment_moved (h : (entries.lookup "loc").all isCommentLoc = true) (label : Nat) :
    ∃ comment data, comment.IsWhole ∧ Comment.read (toEntries entries) = .ok comment ∧
      (movedComment c (.object label entries)).toValue = .map data ∧
      Comment.read data = .ok (comment.moved c) := by
  obtain ⟨loc, whole, read, read'⟩ := read_commentLoc_moved c h
  have own : (["loc"].contains "loc") = true := by decide
  have type : (["loc"].contains "type") = false := by decide
  have value : (["loc"].contains "value") = false := by decide
  refine ⟨⟨((entries.lookup "type").map toValue).getD (.text ""),
    ((entries.lookup "value").map toValue).getD (.text ""), loc⟩, _, whole, ?_, rfl, ?_⟩
  · simp only [Comment.read, get?_toEntries, read]
    rfl
  · simp only [Comment.read, get?_toEntries, lookup_changed, own, type, value, if_true,
      Option.map_map, Function.comp_def, read', Bool.false_eq_true, if_false]
    rfl

/-- The comments of a list are read further down. -/
theorem readItems_moved {items : List Source} (h : ∀ s ∈ items, s.isMovableComment = true) :
    ∃ comments, (∀ k ∈ comments, k.IsWhole) ∧
      Comment.readItems (toValues items) = .ok comments ∧
      Comment.readItems (toValues (items.map (movedComment c))) =
        .ok (comments.map (Comment.moved c)) := by
  induction items with
  | nil => exact ⟨[], nofun, rfl, rfl⟩
  | cons s rest ih =>
    obtain ⟨later, whole, read, read'⟩ := ih fun d hd => h d (List.mem_cons_of_mem s hd)
    have own := h s List.mem_cons_self
    cases s with
    | scalar v =>
      cases v with
      | map data => cases own
      | _ => exact ⟨later, whole, read, read'⟩
    | list label items => exact ⟨later, whole, read, read'⟩
    | object label entries =>
      obtain ⟨comment, data, whole', first, value, first'⟩ := read_comment_moved c own label
      refine ⟨comment :: later, ?_, ?_, ?_⟩
      · intro k hk
        rcases List.mem_cons.mp hk with rfl | hk
        · exact whole'
        · exact whole k hk
      · show Comment.readItems (.map (toEntries entries) :: toValues rest) = _
        rw [Comment.readItems, first, read]
        rfl
      · rw [List.map_cons, toValues, value, Comment.readItems, first', read']
        rfl

def areMovableComments : Source → Bool
  | .scalar v => isAtom v
  | .list _ items => items.all isMovableComment
  | .object _ _ => true

theorem readAll_of_isAtom {v : Value} (h : isAtom v = true) {comments : List Comment}
    (read : Comment.readAll v = .ok comments) : comments = [] := by
  unfold Comment.readAll at read
  split at read
  · cases read
    rfl
  · cases v with
    | list items => cases h
    | tuple items => cases h
    | _ => cases read <;> rfl

/-- Comments are read further down, or cannot be read in either place. -/
theorem readAll_moved (h : s.areMovableComments = true) :
    (∃ fault, Comment.readAll s.toValue = .error fault ∧
      Comment.readAll (s.movedComments c).toValue = .error fault) ∨
    ∃ comments, (∀ k ∈ comments, k.IsWhole) ∧ Comment.readAll s.toValue = .ok comments ∧
      Comment.readAll (s.movedComments c).toValue = .ok (comments.map (Comment.moved c)) := by
  cases s with
  | scalar v =>
    cases read : Comment.readAll v with
    | error fault => exact Or.inl ⟨fault, read, read⟩
    | ok comments =>
      obtain rfl := readAll_of_isAtom h read
      exact Or.inr ⟨[], nofun, read, read⟩
  | list label items =>
    rw [areMovableComments, List.all_eq_true] at h
    obtain ⟨comments, whole, read, read'⟩ := readItems_moved c h
    refine Or.inr ⟨comments, whole, ?_, ?_⟩
    · exact (Comment.readAll_list (toValues items)).trans read
    · exact (Comment.readAll_list (toValues (items.map (movedComment c)))).trans read'
  | object label entries =>
    have none := Comment.readAll_map (toEntries entries)
    exact Or.inr ⟨[], nofun, none, none⟩

/-- The comments in front of a node are read further down, or cannot be read in either place. -/
theorem readAll_leadingComments_moved
    (h : (entries.lookup "leadingComments").all areMovableComments = true) :
    (∃ fault, Comment.readAll (Assembly.rawValue entries "leadingComments") = .error fault ∧
      Comment.readAll (Assembly.rawValue (movedEntries c true entries) "leadingComments") =
        .error fault) ∨
    ∃ comments, (∀ k ∈ comments, k.IsWhole) ∧
      Comment.readAll (Assembly.rawValue entries "leadingComments") = .ok comments ∧
      Comment.readAll (Assembly.rawValue (movedEntries c true entries) "leadingComments") =
        .ok (comments.map (Comment.moved c)) := by
  rw [Assembly.rawValue, Assembly.rawValue, lookup_movedEntries]
  cases found : entries.lookup "leadingComments" with
  | none => exact Or.inr ⟨[], by simp, rfl, rfl⟩
  | some s =>
    rw [found] at h
    exact readAll_moved c h

end Reading

/-- Whether an object with a type has a scalar for its value, if it has one. -/
def hasScalarValue : Source → Bool
  | .object _ entries => (typeOf? entries).isNone || (entries.lookup "value").all isScalar
  | _ => true

/-- Whether a list or object can be moved without being read in another way. An object with a type
has a whole location, and so have the comments in front of it, if they have any; the key of a
property has a text for its name and a scalar for its value, if it has them. -/
def isMovable : Source → Bool
  | .object _ entries =>
    match typeOf? entries with
    | none => true
    | some type =>
      (entries.lookup "loc").any isLocation &&
        (entries.lookup "leadingComments").all areMovableComments &&
        (type != "Property" ||
          (entries.lookup "key").all fun key => key.isNamedByText && key.hasScalarValue)
  | _ => true

theorem isMovable_object {label : Nat} {entries : List (String × Source)} {type : String}
    (typed : typeOf? entries = some type) (h : (object label entries).isMovable = true) :
    (entries.lookup "loc").any isLocation = true ∧
      (entries.lookup "leadingComments").all areMovableComments = true ∧
      (type = "Property" → ∀ key, entries.lookup "key" = some key →
        key.isNamedByText = true ∧ key.hasScalarValue = true) := by
  rw [isMovable, typed] at h
  simp only [Bool.and_eq_true] at h
  obtain ⟨⟨located, commented⟩, named⟩ := h
  refine ⟨located, commented, ?_⟩
  intro property key hkey
  rw [property, hkey] at named
  simpa using named

end Source

open Source in
/-- What can be moved is assembled into what was assembled before, moved. -/
theorem Assembly.assembles_moved (c : Int) {s : Source} (movable : s.isMovable = true) :
    Assembles (Source.moved c) id (Item.moved c) s := by
  intro a b follows
  have plain : ∀ v, Item.moved c (.plain v) = .plain v := fun _ => rfl
  have all := follows.resolveAll (carries_moved c) plain
  have fields := follows.resolveEntries (carries_moved c) plain
  simp only [← Item.movedAll_eq_map, ← Item.movedEntries_eq_map] at all fields
  cases s with
  | scalar v => rfl
  | list label items =>
    show (do return Item.tuple (← b.resolveAll (Source.movedAll c items))) =
      Except.map _ (do return Item.tuple (← a.resolveAll items))
    rw [Source.movedAll_eq_map, all]
    cases a.resolveAll items with
    | error fault => rfl
    | ok found => rfl
  | object label entries =>
    show b.assemble (.object label (Source.movedEntries c _ entries)) = _
    have parts := parts_movedEntries c entries
    rw [assemble, assemble, typeOf?_movedEntries]
    cases typed : typeOf? entries with
    | none =>
      have record : Source.movedEntries c false entries =
          entries.map fun e => (e.1, e.2.moved c) := movedEntries_eq_changed c false entries
      dsimp only [Option.isSome_none]
      rw [record, fields]
      cases a.resolveEntries entries with
      | error fault => rfl
      | ok found => rfl
    | some type =>
      obtain ⟨located, commented, _⟩ := isMovable_object typed movable
      obtain ⟨l, _, readLoc, readLoc'⟩ := read_loc_moved c located
      rw [typed] at parts
      dsimp only
      rw [parts, fields, Option.isSome_some, readLoc, readLoc', follows.nextId]
      cases a.resolveEntries (Source.parts entries) with
      | error fault => rfl
      | ok found =>
        rcases readAll_leadingComments_moved c commented with
          ⟨fault, read, read'⟩ | ⟨comments, _, read, read'⟩
        · rw [read, read']
          rfl
        · rw [read, read']
          rfl

/-- What a movable tree becomes further down. -/
theorem root_of_moved [Stack] (c : Int) {s : Source} (node : s.isNode = true)
    (movable : ∀ d ∈ s.reached, d.isMovable = true) :
    (TreeInput.source (s.moved c)).root = (TreeInput.source s).root.map (Node.moved c) :=
  root_of_carried (Source.carries_moved c) (Item.node?_moved c) node
    fun d hd => Assembly.assembles_moved c (movable d hd)

/-- Whether a node has a whole location, and so have its comments, and the key of a property has a
text for its name and a plain value, as far as it has them. -/
structure Node.IsMovable (n : Node) : Prop where
  loc : ∃ l, n.loc = some l ∧ l.IsWhole
  comments : ∀ k ∈ n.comments, k.IsWhole
  key : n.type = "Property" → ∀ key, n.child? "key" = some key →
    key.IsNamedByText ∧ ∀ i, key.get? "value" = some i → ∃ v, i = .plain v

theorem Node.IsMovable.hasPlace {n : Node} (movable : n.IsMovable) : n.HasPlace := by
  obtain ⟨own, located, whole⟩ := movable.loc
  intro l hl
  cases located.symm.trans hl
  obtain ⟨line, hline⟩ := Value.isInt_iff.mp whole.startLine
  obtain ⟨column, hcolumn⟩ := Value.isInt_iff.mp whole.startColumn
  exact ⟨line, column, hline, hcolumn⟩

/-- A node that was made from an object whose value is a scalar has that plain value. -/
theorem plain_value_of_makes {a : Assembly} {d : Source} {after : List Source} {key : Node}
    (made : a.Makes (.ofNode key) (d :: after)) (scalar : d.hasScalarValue = true) {i : Item}
    (h : key.get? "value" = some i) : ∃ v, i = .plain v := by
  obtain ⟨b, label, entries, rfl, typed, resolved, _, _⟩ := Assembly.node_of_makes made
  rw [Source.hasScalarValue, typed] at scalar
  rcases Assembly.lookup_resolveEntries resolved "value" with ⟨_, missing⟩ |
    ⟨k, s, i', hs, hi, _, _, resolved⟩
  · rw [Node.get?, missing] at h
    cases h
  · obtain rfl := Option.some.inj (h.symm.trans hi)
    rw [Source.lookup_parts (by decide)] at hs
    rw [hs] at scalar
    cases s with
    | scalar v =>
      cases resolved
      exact ⟨v, rfl⟩
    | list label items => cases scalar
    | object label entries => cases scalar

/-- The nodes of a movable tree are movable. -/
theorem isMovable_of_visited [Stack] {root : Node} (s : LabelledSource)
    (movable : ∀ d ∈ s.tree.reached, d.isMovable = true)
    (converted : (TreeInput.source s.tree).root = .ok root) {v : Visit} (hv : v ∈ root.preorder) :
    v.node.IsMovable := by
  obtain ⟨label, entries, inside, type, commented, located, children⟩ :=
    exists_source_of_visited s converted hv
  obtain ⟨hasLoc, hasComments, named⟩ := Source.isMovable_object type (movable _ inside)
  obtain ⟨l, whole, readLoc, _⟩ := Source.read_loc_moved 0 hasLoc
  refine ⟨⟨l, ?_, whole⟩, ?_, ?_⟩
  · exact Except.ok.inj (located.symm.trans readLoc)
  · rcases Source.readAll_leadingComments_moved 0 hasComments with
      ⟨fault, read, _⟩ | ⟨comments, allWhole, read, _⟩
    · cases read.symm.trans commented
    · cases read.symm.trans commented
      exact allWhole
  · intro property key hkey
    obtain ⟨d, later, hd, made⟩ := children "key" (by decide) key hkey
    obtain ⟨text, scalar⟩ := named property d hd
    exact ⟨isNamedByText_of_makes made text, fun i hi => plain_value_of_makes made scalar hi⟩

end NameLint
