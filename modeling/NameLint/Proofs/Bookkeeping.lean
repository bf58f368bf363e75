import NameLint.Proofs.CarriedTrees
import NameLint.Proofs.Defaults
import NameLint.Proofs.Exemptions

/-!
# What counts in a tree

Some keys of a node are there for other programs: where it stands in the text, the
comments behind it and in it, its tokens. They may be there or not and may hold
anything, at every depth, and a run comes to the same. What is quoted as it arrived
counts as a whole: locations, and the type and the text of a comment. Labels only tell
which lists and objects are the same, so other labels that tell the same do as well.
-/

namespace NameLint

theorem Comment.readAll_list (items : List Value) :
    readAll (.list items) = readItems items := by
  cases items with
  | nil => rfl
  | cons v rest => rfl

theorem Comment.readAll_map (entries : Entries) : readAll (.map entries) = .ok [] := by
  cases entries with
  | nil => rfl
  | cons e rest => rfl

namespace Source

/-- The keys of a node that are there for other programs. -/
def remarks : List String :=
  ["range", "start", "end", "trailingComments", "innerComments", "comments", "tokens"]

inductive Role where
  /-- Nodes and all that they are made of. -/
  | tree
  /-- The comments in front of a node. -/
  | comments
  /-- One of these comments. -/
  | comment
  /-- A value that is taken as it arrived. -/
  | quoted

namespace Role

/-- What the items of a list are. -/
def item : Role → Role
  | .comments => .comment
  | .quoted => .quoted
  | _ => .tree

/-- What stands under a key of an object, which may be a node. Under some keys of a comment
everything is taken as it arrived. -/
def under (quotes : List String) (role : Role) (isNode : Bool) (key : String) : Role :=
  match role with
  | .quoted => .quoted
  | .comment => if quotes.contains key then .quoted else .tree
  | _ =>
    if isNode && key == "loc" then .quoted
    else if isNode && key == "leadingComments" then .comments
    else .tree

end Role

mutual

/-- What counts in a tree, under other labels: a node has no remarks. -/
def seen (quotes : List String) (rename : Nat → Nat) : Role → Source → Source
  | .quoted, s => .scalar s.toValue
  | _, .scalar v => .scalar v
  | role, .list label items => .list (rename label) (seenAll quotes rename role.item items)
  | role, .object label entries =>
    .object (rename label) (seenEntries quotes rename role (typeOf? entries).isSome entries)

def seenAll (quotes : List String) (rename : Nat → Nat) (role : Role) : List Source → List Source
  | [] => []
  | s :: rest => seen quotes rename role s :: seenAll quotes rename role rest

def seenEntries (quotes : List String) (rename : Nat → Nat) (role : Role) (isNode : Bool) :
    List (String × Source) → List (String × Source)
  | [] => []
  | (key, s) :: rest =>
    if isNode && remarks.contains key then seenEntries quotes rename role isNode rest
    else (key, seen quotes rename (role.under quotes isNode key) s) ::
      seenEntries quotes rename role isNode rest

end

/-- Whether two trees differ only in remarks, and labels tell the same in both: a tree has finitely
many labels, so functions that put two of them into correspondence can be one to one throughout. -/
def Alike (quotes : List String) (s t : Source) : Prop :=
  ∃ f g : Nat → Nat, f.Injective ∧ g.Injective ∧ s.seen quotes f .tree = t.seen quotes g .tree

section Seen

variable {quotes : List String} {f : Nat → Nat}

theorem toValue_quoted (s : Source) : (s.seen quotes f .quoted).toValue = s.toValue := by
  cases s with
  | scalar v => rfl
  | list label items => rfl
  | object label entries => rfl

theorem seenAll_eq_map (role : Role) (items : List Source) :
    seenAll quotes f role items = items.map (seen quotes f role) := by
  induction items with
  | nil => rfl
  | cons s rest ih => rw [seenAll, ih, List.map_cons]

theorem lookup_seenEntries {isNode : Bool} {key : String}
    (kept : (isNode && remarks.contains key) = false) (role : Role)
    (entries : List (String × Source)) :
    (seenEntries quotes f role isNode entries).lookup key =
      (entries.lookup key).map (seen quotes f (role.under quotes isNode key)) := by
  induction entries with
  | nil => rfl
  | cons e rest ih =>
    obtain ⟨own, s⟩ := e
    rw [seenEntries, List.lookup_cons]
    by_cases same : key = own
    · subst same
      rw [kept, if_neg (by decide), List.lookup_cons]
      simp
    · have other : (key == own) = false := by simpa using same
      rw [other]
      split
      · exact ih
      · rw [List.lookup_cons, other]
        exact ih

theorem label?_seen (s : Source) : (s.seen quotes f .tree).label? = s.label?.map f := by
  cases s with
  | scalar v => rfl
  | list label items => rfl
  | object label entries => rfl

theorem typeOf?_seenEntries (isNode : Bool) (entries : List (String × Source)) :
    typeOf? (seenEntries quotes f .tree isNode entries) = typeOf? entries := by
  have kept : (isNode && remarks.contains "type") = false := by cases isNode <;> decide
  have role : Role.under quotes .tree isNode "type" = .tree := by cases isNode <;> rfl
  rw [typeOf?, typeOf?, lookup_seenEntries kept, role]
  cases entries.lookup "type" with
  | none => rfl
  | some s =>
    cases s with
    | scalar v => rfl
    | list label items => rfl
    | object label entries => rfl

theorem isNode_seen (s : Source) : (s.seen quotes f .tree).isNode = s.isNode := by
  cases s with
  | scalar v => rfl
  | list label items => rfl
  | object label entries =>
    show (typeOf? (seenEntries quotes f .tree _ entries)).isSome = (typeOf? entries).isSome
    rw [typeOf?_seenEntries]

/-- The fields of a node are no remarks, and they are trees. -/
theorem filter_seenEntries (entries : List (String × Source)) :
    (seenEntries quotes f .tree true entries).filter (fun e => !bookkeeping.contains e.1) =
      (entries.filter fun e => !bookkeeping.contains e.1).map
        fun e => (e.1, e.2.seen quotes f .tree) := by
  induction entries with
  | nil => rfl
  | cons e rest ih =>
    obtain ⟨key, s⟩ := e
    rw [seenEntries]
    by_cases noted : bookkeeping.contains key = true
    · split
      · rw [ih, List.filter_cons_of_neg (by simpa using noted)]
      · rw [List.filter_cons_of_neg (by simpa using noted), ih,
          List.filter_cons_of_neg (by simpa using noted)]
    · have field : remarks.contains key = false ∧ ¬ key = "loc" ∧ ¬ key = "leadingComments" := by
        simp only [bookkeeping, remarks, List.contains_eq_mem, List.mem_cons, List.not_mem_nil,
          decide_eq_true_eq, decide_eq_false_iff_not] at noted ⊢
        grind
      have role : Role.under quotes .tree true key = .tree := by
        simp [Role.under, field.2.1, field.2.2]
      rw [field.1, if_neg (by decide), List.filter_cons_of_pos (by simpa using noted), ih,
        List.filter_cons_of_pos (by simpa using noted), List.map_cons, role]

theorem seenEntries_of_not_node (entries : List (String × Source)) :
    seenEntries quotes f .tree false entries =
      entries.map fun e => (e.1, e.2.seen quotes f .tree) := by
  induction entries with
  | nil => rfl
  | cons e rest ih =>
    obtain ⟨key, s⟩ := e
    rw [seenEntries, Bool.false_and, if_neg (by decide), ih]
    rfl

theorem parts_seenEntries (entries : List (String × Source)) :
    parts (seenEntries quotes f .tree (typeOf? entries).isSome entries) =
      (parts entries).map fun e => (e.1, e.2.seen quotes f .tree) := by
  rw [parts, parts, typeOf?_seenEntries]
  cases typeOf? entries with
  | none => exact seenEntries_of_not_node entries
  | some type => exact filter_seenEntries entries

theorem content_seen (s : Source) :
    (s.seen quotes f .tree).content = s.content.map (seen quotes f .tree) := by
  cases s with
  | scalar v => rfl
  | list label items => exact seenAll_eq_map .tree items
  | object label entries =>
    show (parts (seenEntries quotes f .tree _ entries)).map Prod.snd = _
    rw [parts_seenEntries, List.map_map, content, List.map_map]
    rfl

/-- What counts in a tree is the tree carried over. -/
theorem carries_seen (injective : f.Injective) : Carries (seen quotes f .tree) f :=
  ⟨injective, fun _ => rfl, label?_seen, content_seen, isNode_seen⟩

theorem get?_toEntries (entries : List (String × Source)) (key : String) :
    Entries.get? (toEntries entries) key = (entries.lookup key).map toValue := by
  induction entries with
  | nil => rfl
  | cons e rest ih =>
    obtain ⟨own, s⟩ := e
    rw [toEntries, Entries.get?_cons_text, List.lookup_cons, ih]
    by_cases same : own = key
    · simp [same]
    · have other : (key == own) = false := by simpa using fun h : key = own => same h.symm
      rw [if_neg same, other]

end Seen

/-- The keys under which a comment is read. -/
def commentKeys : List String := ["type", "value", "loc"]

section Comments

variable {f : Nat → Nat}

theorem get?_comment {key : String} (read : key ∈ commentKeys) (isNode : Bool)
    (entries : List (String × Source)) :
    Entries.get? (toEntries (seenEntries commentKeys f .comment isNode entries)) key =
      Entries.get? (toEntries entries) key := by
  have kept : (isNode && remarks.contains key) = false := by
    simp only [commentKeys, List.mem_cons, List.not_mem_nil, or_false] at read
    rcases read with rfl | rfl | rfl <;> cases isNode <;> decide
  have role : Role.under commentKeys .comment isNode key = .quoted :=
    if_pos (List.contains_iff_mem.mpr read)
  rw [get?_toEntries, get?_toEntries, lookup_seenEntries kept, role, Option.map_map]
  congr 1
  funext s
  exact toValue_quoted s

theorem read_comment (isNode : Bool) (entries : List (String × Source)) :
    Comment.read (toEntries (seenEntries commentKeys f .comment isNode entries)) =
      Comment.read (toEntries entries) := by
  have type : "type" ∈ commentKeys := by decide
  have value : "value" ∈ commentKeys := by decide
  have loc : "loc" ∈ commentKeys := by decide
  rw [Comment.read, Comment.read, get?_comment type, get?_comment value, get?_comment loc]

theorem readItems_comments (items : List Source) :
    Comment.readItems (toValues (seenAll commentKeys f .comment items)) =
      Comment.readItems (toValues items) := by
  induction items with
  | nil => rfl
  | cons s rest ih =>
    rw [seenAll, toValues, toValues]
    cases s with
    | scalar v =>
      show Comment.readItems (v :: _) = Comment.readItems (v :: _)
      cases v with
      | map data => rw [Comment.readItems, Comment.readItems, ih]
      | _ => exact ih
    | list label items => exact ih
    | object label entries =>
      show Comment.readItems
          (.map (toEntries (seenEntries commentKeys f .comment _ entries)) :: _) =
        Comment.readItems (.map (toEntries entries) :: _)
      rw [Comment.readItems, Comment.readItems, read_comment, ih]

/-- Comments are read from what counts in them. -/
theorem readAll_comments (s : Source) :
    Comment.readAll (s.seen commentKeys f .comments).toValue = Comment.readAll s.toValue := by
  cases s with
  | scalar v => rfl
  | list label items =>
    show Comment.readAll (.list (toValues (seenAll commentKeys f .comment items))) =
      Comment.readAll (.list (toValues items))
    rw [Comment.readAll_list, Comment.readAll_list, readItems_comments]
  | object label entries =>
    show Comment.readAll (.map _) = Comment.readAll (.map _)
    rw [Comment.readAll_map, Comment.readAll_map]

theorem rawValue_loc (entries : List (String × Source)) :
    Assembly.rawValue (seenEntries commentKeys f .tree true entries) "loc" =
      Assembly.rawValue entries "loc" := by
  have role : Role.under commentKeys .tree true "loc" = .quoted := rfl
  rw [Assembly.rawValue, Assembly.rawValue, lookup_seenEntries (by decide), role]
  cases entries.lookup "loc" with
  | none => rfl
  | some s => exact toValue_quoted s

theorem readAll_leadingComments (entries : List (String × Source)) :
    Comment.readAll
        (Assembly.rawValue (seenEntries commentKeys f .tree true entries) "leadingComments") =
      Comment.readAll (Assembly.rawValue entries "leadingComments") := by
  have role : Role.under commentKeys .tree true "leadingComments" = .comments := rfl
  rw [Assembly.rawValue, Assembly.rawValue, lookup_seenEntries (by decide), role]
  cases entries.lookup "leadingComments" with
  | none => rfl
  | some s => exact readAll_comments s

end Comments

end Source

open Source in
/-- An item is made from what counts in its source. -/
theorem Assembly.assembles_seen {f : Nat → Nat} (injective : f.Injective) (s : Source) :
    Assembles (seen commentKeys f .tree) f id s := by
  intro a b follows
  have carries : Carries (seen commentKeys f .tree) f := carries_seen injective
  have plain : ∀ v, id (Item.plain v) = .plain v := fun _ => rfl
  have all := follows.resolveAll carries plain
  have fields := follows.resolveEntries carries plain
  simp only [id_eq, List.map_id_fun, List.map_id_fun', Except.map_id] at all fields ⊢
  cases s with
  | scalar v => rfl
  | list label items =>
    show (do return Item.tuple (← b.resolveAll (seenAll commentKeys f .tree items))) = _
    rw [seenAll_eq_map, all]
    rfl
  | object label entries =>
    show b.assemble (.object (f label) (seenEntries commentKeys f .tree _ entries)) = _
    have parts := @parts_seenEntries commentKeys f entries
    rw [assemble, assemble, typeOf?_seenEntries]
    cases typed : typeOf? entries with
    | none =>
      dsimp only
      rw [Option.isSome_none, seenEntries_of_not_node, fields]
    | some type =>
      rw [typed] at parts
      dsimp only
      rw [parts, fields, Option.isSome_some, readAll_leadingComments, rawValue_loc,
        follows.nextId]

open Source in
/-- A node is made from what counts in its source, whatever the labels are. -/
theorem root_of_seen [Stack] {f : Nat → Nat} (injective : f.Injective) {s : Source}
    (node : s.isNode = true) :
    (TreeInput.source (s.seen commentKeys f .tree)).root = (TreeInput.source s).root := by
  have nodes : ∀ i : Item, (id i).node? = i.node?.map id := fun i => by simp
  rw [root_of_carried (carries_seen injective) nodes node
    fun d _ => Assembly.assembles_seen injective d, Except.map_id]
  rfl

theorem isNode_of_alike {quotes : List String} {s t : Source} (alike : s.Alike quotes t) :
    s.isNode = t.isNode := by
  obtain ⟨f, g, _, _, same⟩ := alike
  rw [← Source.isNode_seen s, same, Source.isNode_seen]

/-- Alike trees become the same nodes. -/
theorem root_of_alike [Stack] {s t : Source} (alike : s.Alike Source.commentKeys t)
    (node : s.isNode = true) : (TreeInput.source s).root = (TreeInput.source t).root := by
  have node' := (isNode_of_alike alike).symm.trans node
  obtain ⟨f, g, injective, injective', same⟩ := alike
  rw [← root_of_seen injective node, same, root_of_seen injective' node']

theorem root_of_isNode_eq_false [Stack] {s : Source} (other : s.isNode = false) :
    (TreeInput.source s).root = .error s.refusal := by
  rw [TreeInput.root, Node.ofSource_of_isNode_eq_false other]
  rfl

/-- Remarks do not count. Two trees that differ only in the remarks of their nodes, outside of what
is quoted, give the same events and the same result. Where they are no nodes, each may be refused as
what it is. -/
theorem lint_of_alike [Stack] (s t : Source) (settings : Option RuleSettings) (file : String)
    (alike : s.Alike Source.commentKeys t) :
    (lint (.source s) settings file).1 = (lint (.source t) settings file).1 ∧
    (s.isNode = true →
      (lint (.source s) settings file).2 = (lint (.source t) settings file).2) ∧
    ((lint (.source s) settings file).2 = (lint (.source t) settings file).2 ∨
      (lint (.source s) settings file).2 = .error s.refusal ∧
      (lint (.source t) settings file).2 = .error t.refusal) := by
  cases node : s.isNode with
  | true =>
    have runs : lint (.source s) settings file = lint (.source t) settings file := by
      unfold lint Engine.checkTree
      rw [root_of_alike alike node]
    rw [runs]
    exact ⟨rfl, fun _ => rfl, Or.inl rfl⟩
  | false =>
    have node' := (isNode_of_alike alike).symm.trans node
    unfold lint Engine.checkTree
    rw [root_of_isNode_eq_false node, root_of_isNode_eq_false node']
    split
    · exact ⟨rfl, fun _ => rfl, Or.inl rfl⟩
    · exact ⟨rfl, nofun, Or.inr ⟨rfl, rfl⟩⟩

def commentedName : Source :=
  let comment : Source := .object 4 [("type", .scalar (.text "Block")),
    ("value", .scalar (.text " first ")), ("loc", .scalar .null)]
  let name : Source := .object 2 [("type", .scalar (.text "Identifier")),
    ("name", .scalar (.text "foo_bar")), ("leadingComments", .list 3 [comment])]
  .object 0 [("type", .scalar (.text "Program")), ("body", .list 1 [name])]

/-- The same with remarks at every depth, under other labels. -/
def remarkedName : Source :=
  let token : Source := .object 7 [("type", .scalar (.text "Identifier")),
    ("value", .scalar (.text "foo_bar"))]
  let comment : Source := .object 14 [("range", .list 6 [.scalar (.int 0), .scalar (.int 11)]),
    ("type", .scalar (.text "Block")), ("value", .scalar (.text " first ")),
    ("loc", .scalar .null)]
  let name : Source := .object 12 [("start", .scalar (.int 12)),
    ("type", .scalar (.text "Identifier")), ("name", .scalar (.text "foo_bar")),
    ("end", .scalar (.text "unknown")), ("leadingComments", .list 13 [comment])]
  .object 10 [("tokens", .list 8 [token, name]), ("type", .scalar (.text "Program")),
    ("body", .list 11 [name]), ("innerComments", .scalar (.bool false))]

theorem commentedName_alike : commentedName.Alike Source.commentKeys remarkedName := by
  refine ⟨(· + 10), id, ?_, Function.injective_id, rfl⟩
  intro m n same
  exact Nat.add_right_cancel same

open scoped Stack in
/-- Remarks at every depth change nothing. -/
theorem lint_of_remarkedName :
    commentedName.Alike Source.commentKeys remarkedName ∧ commentedName.isNode = true ∧
    (lint (.source commentedName) (some {}) "a.js").1 =
      (lint (.source remarkedName) (some {}) "a.js").1 ∧
    (lint (.source commentedName) (some {}) "a.js").2 =
      (lint (.source remarkedName) (some {}) "a.js").2 := by
  obtain ⟨events, result, _⟩ :=
    lint_of_alike commentedName remarkedName (some {}) "a.js" commentedName_alike
  exact ⟨commentedName_alike, rfl, events, result rfl⟩

section QuotedComment

variable (added : List (String × Source))

/-- A node behind a comment that has an object with a type in the place of its text. -/
def commentedValue : Source :=
  let quoted : Source := .object 5 (("type", .scalar (.text "Q")) :: added)
  let comment : Source := .object 4 [("type", .scalar (.text "Block")), ("value", quoted)]
  .object 2 [("type", .scalar (.text "Y")), ("leadingComments", .list 3 [comment])]

def commentedKey : Source :=
  .object 1 [("type", .scalar (.text "X")), ("value", commentedValue added)]

def commentedProperty : Source :=
  .object 0 [("type", .scalar (.text "Property")), ("key", commentedKey added)]

def quotedValue : Value :=
  .map ((.text "type", .text "Q") :: Source.toEntries added)

end QuotedComment

section Quoting

variable (quoted : Value)

def quotingNode : Node :=
  ⟨0, "Y", [], none, [⟨.text "Block", quoted, none⟩]⟩

def quotingKey : Node :=
  ⟨1, "X", [("value", .ofNode (quotingNode quoted))], none, []⟩

def quotingProperty : Node :=
  ⟨2, "Property", [("key", .ofNode (quotingKey quoted))], none, []⟩

def quotingName : String :=
  (Item.ofNode (quotingNode quoted)).shown

def quotingFinding : Camelcase.Finding :=
  ⟨quotingProperty quoted, Camelcase.propertyType, .plain (.text (quotingName quoted))⟩

end Quoting

theorem readAll_quoting (quoted : Value) :
    Comment.readAll (.list [.map [(.text "type", .text "Block"), (.text "value", quoted)]]) =
      .ok [⟨.text "Block", quoted, none⟩] := by
  have read : Comment.read [(.text "type", .text "Block"), (.text "value", quoted)] =
      .ok ⟨.text "Block", quoted, none⟩ := by
    simp only [Comment.read, Entries.get?_cons_text, Entries.get?_nil]
    rfl
  rw [Comment.readAll_list, Comment.readItems, read]
  rfl

theorem close_commentedValue (added : List (String × Source)) :
    Assembly.close ⟨∅, 0⟩ (commentedValue added) =
      .ok ⟨(∅ : Std.HashMap Nat Item).insert 2 (.ofNode (quotingNode (quotedValue added))), 1⟩ := by
  have assembled : Assembly.assemble ⟨∅, 0⟩ (commentedValue added) =
      .ok (.ofNode (quotingNode (quotedValue added))) := by
    rw [commentedValue, Assembly.assemble]
    show (Comment.readAll (.list [.map [(.text "type", .text "Block"),
      (.text "value", quotedValue added)]]) >>= fun comments => _) = _
    rw [readAll_quoting]
    rfl
  rw [Assembly.close_of_label rfl, assembled]
  rfl

theorem enteredAll_commentedProperty (added : List (String × Source)) :
    Source.enteredAll [] (commentedProperty added).content =
      [commentedKey added, commentedValue added] := by
  have root : (commentedProperty added).content = [commentedKey added] := rfl
  have key : (commentedKey added).content = [commentedValue added] := rfl
  have value : (commentedValue added).content = [] := rfl
  have newKey : (commentedKey added).isNew [] = true := rfl
  have newValue : (commentedValue added).isNew [] = true := rfl
  simp [Source.enteredAll, root, key, value, newKey, newValue, Source.labels]

theorem root_commentedProperty [Stack] (added : List (String × Source)) :
    (TreeInput.source (commentedProperty added)).root =
      .ok (quotingProperty (quotedValue added)) := by
  have order := enteredAll_commentedProperty added
  have first := close_commentedValue added
  generalize quotedValue added = quoted at first ⊢
  have closed : Assembly.closeAll ⟨∅, 0⟩ [commentedKey added, commentedValue added] =
      .ok ⟨((∅ : Std.HashMap Nat Item).insert 2 (.ofNode (quotingNode quoted))).insert 1
        (.ofNode (quotingKey quoted)), 2⟩ := by
    show (Assembly.close ⟨∅, 0⟩ (commentedValue added) >>= fun b => b.close _) = _
    rw [first]
    show Assembly.close _ (commentedKey added) = _
    rw [Assembly.close_of_label rfl, commentedKey,
      Assembly.assemble_of_field (by decide) (Assembly.resolve_insert rfl _ _ _)]
    rfl
  rw [TreeInput.root, Node.ofSource_of_isNode rfl, order, closed]
  show (Assembly.assemble _ _ >>= fun item => _) >>= _ = _
  rw [commentedProperty,
    Assembly.assemble_of_field (by decide) (Assembly.resolve_insert rfl _ _ _)]
  rfl

theorem preorder_quotingProperty (quoted : Value) :
    (quotingProperty quoted).preorder = [⟨quotingProperty quoted, []⟩,
      ⟨quotingKey quoted, [quotingProperty quoted]⟩,
      ⟨quotingNode quoted, [quotingKey quoted, quotingProperty quoted]⟩] := by
  rw [← Node.walk_eq_preorder]
  simp [quotingProperty, quotingKey, quotingNode, Node.walk, Visit.walk, Visit.children,
    Visit.visitsTo, Node.children, Node.childrenIn, Item.ofNode]

/-- Whether a text is reported as the name of a key, if nothing exempts it. -/
def isReportedName (text : String) : Bool :=
  !Name.isPrivate text && (Name.isDashed text || !Name.isCamelOrConst text)

/-- Whether there is room for the name of the key, and it is reported. -/
def isQuoted [Stack] (quoted : Value) : Bool :=
  ((Item.ofNode (quotingNode quoted)).shownObstacle? (Stack.room .keyName)).isNone &&
    isReportedName (quotingName quoted)

open Camelcase in
theorem checkProperty_quotingProperty [Stack] {quoted : Value} (reported : isQuoted quoted = true) :
    checkProperty (quotingProperty quoted) {} = .ok (some (quotingFinding quoted)) := by
  rw [isQuoted, isReportedName, Bool.and_eq_true, Bool.and_eq_true, Bool.not_eq_true',
    Option.isNone_iff_eq_none] at reported
  obtain ⟨room, reported⟩ := reported
  have child : (quotingProperty quoted).child? "key" = some (quotingKey quoted) := rfl
  have text : Literal.text (.ofNode (quotingNode quoted)) = .ok (quotingName quoted) := by
    show Item.textFor .keyName (.ofNode (quotingNode quoted)) = _
    rw [Item.textFor, room]
    rfl
  have named : (quotingKey quoted).keyName? = .ok (some (.plain (.text (quotingName quoted)))) := by
    show (Literal.text (.ofNode (quotingNode quoted)) >>= fun _ => _) = _
    rw [text]
    rfl
  have other : (quotingKey quoted).isType "Literal" = false := by
    show ("X" == "Literal") = false
    decide
  have hidden : isPrivateName (.plain (.text (quotingName quoted))) = .ok false :=
    congrArg Except.ok reported.1
  have spelled : isMisspelled (.plain (.text (quotingName quoted))) = .ok true :=
    congrArg Except.ok reported.2
  have unquoted : (({} : CamelcaseOptions).exemptQuoted && (quotingKey quoted).isType "Literal" &&
      !false) = false := by
    rw [other, Bool.and_false, Bool.false_and]
  rw [checkProperty_eq_judge child named]
  simp only [judge, hidden, spelled, bind, Except.bind, unquoted]
  rfl

open Camelcase in
theorem firstFindings_quotingProperty [Stack] {quoted : Value} (reported : isQuoted quoted = true) :
    firstFindings {} (quotingProperty quoted).preorder = [quotingFinding quoted] := by
  have root : findingOn {} ⟨quotingProperty quoted, []⟩ = some (quotingFinding quoted) :=
    (findingOn_of_property rfl).mpr (checkProperty_quotingProperty reported)
  have key : ∀ ancestors, findingOn {} ⟨quotingKey quoted, ancestors⟩ = none := fun _ => rfl
  have value : ∀ ancestors, findingOn {} ⟨quotingNode quoted, ancestors⟩ = none := fun _ => rfl
  rw [preorder_quotingProperty]
  simp [firstFindings, note, root, key, value]

open Camelcase in
/-- The property is reported under a name that has in it what the comment quotes. -/
theorem lint_commentedProperty [Stack] (added : List (String × Source))
    (free : severityFault? {} = none) (reported : isQuoted (quotedValue added) = true) :
    (lint (.source (commentedProperty added)) (some {}) "a.js").2 =
      .ok [(quotingFinding (quotedValue added)).violation "a.js"
        (Rule.severityOf {} standardSeverity)] := by
  have converted := root_commentedProperty added
  generalize quotedValue added = quoted at reported converted ⊢
  have nowhere : ∀ v ∈ (quotingProperty quoted).preorder, v.node.HasPlace := by
    rw [preorder_quotingProperty]
    intro v hv loc hloc
    simp only [List.mem_cons, List.not_mem_nil, or_false] at hv
    rcases hv with rfl | rfl | rfl <;> cases hloc
  have told : (quotingFinding quoted).isTold = true := Finding.isTold_of_text rfl
  rw [lint_of_placed _ "a.js" converted rfl rfl
    fun v hv f hf => hasPlace_of_findingOn hf (nowhere v hv), free, sortedFindings,
    firstFindings_quotingProperty reported, List.mergeSort_singleton, List.filter_singleton, told]
  rfl

theorem quotingName_of_violation {p q : Value} {file : String} {severity : Severity}
    (same : (quotingFinding p).violation file severity =
      (quotingFinding q).violation file severity) : quotingName p = quotingName q := by
  have data : Item.record [("name", .plain (.text (quotingName p)))] =
      .record [("name", .plain (.text (quotingName q)))] := congrArg Violation.data same
  simpa using data

open scoped Stack in
/-- A comment is quoted with its remarks: an object in the place of its text is written out with
them, and so they come into the name that is reported. -/
theorem lint_quotes_comments :
    let plain := commentedProperty []
    let remarked := commentedProperty [("range", .list 6 [.scalar (.int 1), .scalar (.int 2)])]
    plain.Alike ["loc"] remarked ∧
    (lint (.source plain) (some {}) "a.js").2 ≠ (lint (.source remarked) (some {}) "a.js").2 := by
  intro plain remarked
  refine ⟨⟨id, id, Function.injective_id, Function.injective_id, rfl⟩, ?_⟩
  have free : Camelcase.severityFault? {} = none := Camelcase.severityFault?_of_null rfl (by decide)
  rw [lint_commentedProperty _ free (by decide +kernel),
    lint_commentedProperty _ free (by decide +kernel)]
  intro same
  have names := quotingName_of_violation (List.cons.inj (Except.ok.inj same)).1
  exact absurd names (by decide +kernel)

end NameLint
