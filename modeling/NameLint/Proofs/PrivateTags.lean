import NameLint.Proofs.Defaults

/-!
# Tags of private members

A node is private if one of the comments in front of it says so. What a comment says is
told from that comment alone: it is a block whose text begins with an asterisk and
holds the tag as a word of its own, behind a blank, and it ends on the line above the
node or later. So neither the order of the comments nor any further comment takes a tag
away.
-/

namespace NameLint

namespace Comment

/-- Whether a text holds the tag: behind a blank, and at the end of the text or in front of a
character that is not of a word. -/
def HoldsTag (cs : List Char) : Prop :=
  ∃ before blank after, cs = before ++ blank :: ("@private".toList ++ after) ∧
    Text.isBlank blank = true ∧ ∀ c ∈ after.head?, Text.isWord c = false

/-- Whether a comment tags what begins on the line `start`: all of this holds of one and the same
comment. -/
def Tags (c : Comment) (start : Int) : Prop :=
  ∃ text loc stop, c.type = .text "Block" ∧ c.value = .text text ∧ text.toList.head? = some '*' ∧
    c.loc = some loc ∧ loc.endLine.number? = some (.whole stop) ∧ start - 1 ≤ stop ∧
    HoldsTag text.toList

/-- Whether a comment has a text, and ends on a line with a whole number if it has a location. -/
structure IsPlain (c : Comment) : Prop where
  value : ∃ text, c.value = .text text
  endLine : ∀ loc, c.loc = some loc → ∃ stop, loc.endLine.number? = some (.whole stop)

theorem endsWord_iff (cs : List Char) :
    endsWord cs = true ↔ ∀ c ∈ cs.head?, Text.isWord c = false := by
  cases cs with
  | nil => simp [endsWord]
  | cons c rest => simp [endsWord]

/-- The tag stands right behind the first character, or further on. -/
theorem holdsTag_cons (c : Char) (rest : List Char) :
    HoldsTag (c :: rest) ↔
      (Text.isBlank c = true ∧ ∃ after, rest = privateTag ++ after ∧ endsWord after = true) ∨
        HoldsTag rest := by
  constructor
  · rintro ⟨before, blank, after, split, hblank, ends⟩
    cases before with
    | nil =>
      obtain ⟨rfl, tail⟩ := List.cons.inj split
      exact Or.inl ⟨hblank, after, tail, (endsWord_iff after).mpr ends⟩
    | cons d before =>
      obtain ⟨rfl, tail⟩ := List.cons.inj split
      exact Or.inr ⟨before, blank, after, tail, hblank, ends⟩
  · rintro (⟨hblank, after, rfl, ends⟩ | ⟨before, blank, after, rfl, hblank, ends⟩)
    · exact ⟨[], c, after, rfl, hblank, (endsWord_iff after).mp ends⟩
    · exact ⟨c :: before, blank, after, rfl, hblank, ends⟩

theorem hasTag_iff (cs : List Char) : hasTag cs = true ↔ HoldsTag cs := by
  induction cs with
  | nil => simp [hasTag, HoldsTag]
  | cons c rest ih =>
    have here : (privateTag.isPrefixOf rest = true ∧
        endsWord (rest.drop privateTag.length) = true) ↔
        ∃ after, rest = privateTag ++ after ∧ endsWord after = true := by
      constructor
      · rintro ⟨front, ends⟩
        obtain ⟨after, rfl⟩ := List.isPrefixOf_iff_prefix.mp front
        exact ⟨after, rfl, by simpa using ends⟩
      · rintro ⟨after, rfl, ends⟩
        exact ⟨List.isPrefixOf_iff_prefix.mpr (List.prefix_append _ _), by simpa using ends⟩
    rw [holdsTag_cons, ← ih, ← here]
    simp only [hasTag, Bool.or_eq_true, Bool.and_eq_true, and_assoc]

theorem isNear_of_whole {startLine endLine : Value} {start stop : Int}
    (hstart : startLine.number? = some (.whole start))
    (hstop : endLine.number? = some (.whole stop)) :
    isNear startLine endLine = .ok (decide (start - 1 ≤ stop)) := by
  have order : (Number.whole (start + -stop)).atMost (.whole 1) = decide (start - 1 ≤ stop) := by
    rw [Bool.eq_iff_iff]
    simp only [Number.atMost, Number.compare?, Bool.or_eq_true, beq_iff_eq, Option.some.injEq,
      Int.compare_eq_lt, Int.compare_eq_eq, decide_eq_true_eq]
    omega
  rw [isNear, hstart, hstop]
  exact congrArg Except.ok order

/-- What a plain comment says about a line is whether it tags it. The tests of the type, of the text
and of the location come one after the other; each of them is a part of what tagging means. -/
theorem IsPlain.marksPrivate {c : Comment} (plain : c.IsPlain) {startLine : Value} {start : Int}
    (hstart : startLine.number? = some (.whole start)) :
    ∃ marks, c.marksPrivate startLine = .ok marks ∧ (marks = true ↔ c.Tags start) := by
  obtain ⟨text, htext⟩ := plain.value
  by_cases block : c.type = .text "Block"
  · have typed : c.type.same (.text "Block") = true := Value.same_text.mpr block
    by_cases front : text.toList.head? = some '*'
    · cases hloc : c.loc with
      | none =>
        refine ⟨false, ?_, by simp [Tags, hloc]⟩
        simp [Comment.marksPrivate, typed, htext, front, hloc, pure, Except.pure]
      | some loc =>
        obtain ⟨stop, hstop⟩ := plain.endLine loc hloc
        refine ⟨decide (start - 1 ≤ stop) && hasTag text.toList, ?_, ?_⟩
        · by_cases near : start - 1 ≤ stop <;>
            simp [Comment.marksPrivate, typed, htext, front, hloc, near, bind, Except.bind, pure,
              Except.pure, isNear_of_whole hstart hstop]
        · simp [Tags, block, htext, front, hloc, hstop, hasTag_iff]
    · refine ⟨false, by simp [Comment.marksPrivate, typed, htext, front, pure, Except.pure], ?_⟩
      simp [Tags, htext, front]
  · have typed : c.type.same (.text "Block") = false := by
      simpa [Value.same_text, ← Bool.not_eq_true] using block
    refine ⟨false, by simp [Comment.marksPrivate, typed, pure, Except.pure], ?_⟩
    simp [Tags, block]

theorem anyMarksPrivate_of_isPlain {comments : List Comment} (plain : ∀ c ∈ comments, c.IsPlain)
    {startLine : Value} {start : Int} (hstart : startLine.number? = some (.whole start)) :
    ∃ marks, anyMarksPrivate startLine comments = .ok marks ∧
      (marks = true ↔ ∃ c ∈ comments, c.Tags start) := by
  induction comments with
  | nil => exact ⟨false, rfl, by simp⟩
  | cons c rest ih =>
    obtain ⟨own, others⟩ := List.forall_mem_cons.mp plain
    obtain ⟨marks, hmarks, tags⟩ := own.marksPrivate hstart
    obtain ⟨later, hlater, tagsLater⟩ := ih others
    cases marks with
    | true =>
      refine ⟨true, by rw [anyMarksPrivate, hmarks]; rfl, ?_⟩
      simp [← tags]
    | false =>
      refine ⟨later, by rw [anyMarksPrivate, hmarks, ← hlater]; rfl, ?_⟩
      simp [tagsLater, ← tags]

end Comment

namespace Node

/-- With plain comments and a whole line to begin on, a node is private if and only if one of the
comments tags it. -/
theorem hasPrivateTag_of_isPlain {n : Node} {loc : Location} {start : Int}
    (located : n.loc = some loc) (hstart : loc.startLine.number? = some (.whole start))
    (plain : ∀ c ∈ n.comments, c.IsPlain) :
    ∃ tagged, n.hasPrivateTag = .ok tagged ∧ (tagged = true ↔ ∃ c ∈ n.comments, c.Tags start) := by
  rw [hasPrivateTag, located]
  exact Comment.anyMarksPrivate_of_isPlain plain hstart

end Node

/-- A node that begins on a line with a whole number, behind comments with texts that end on such
lines, is private if and only if one of the comments is a block whose text begins with an asterisk,
ends on the line above or later, and holds the tag with a blank before it and no character of a word
behind it. The order of the comments does not count, and no further comments take the tag away. -/
theorem hasPrivateTag_iff (n : Node) (loc : Location) (start : Int) (located : n.loc = some loc)
    (hstart : loc.startLine.number? = some (.whole start))
    (plain : ∀ c ∈ n.comments, c.IsPlain) :
    (∃ tagged, n.hasPrivateTag = .ok tagged ∧
      (tagged = true ↔ ∃ c ∈ n.comments, c.Tags start)) ∧
    (∀ comments, comments.Perm n.comments →
      { n with comments := comments }.hasPrivateTag = n.hasPrivateTag) ∧
    ∀ comments, n.comments ⊆ comments → (∀ c ∈ comments, c.IsPlain) →
      n.hasPrivateTag = .ok true → { n with comments := comments }.hasPrivateTag = .ok true := by
  have own := Node.hasPrivateTag_of_isPlain located hstart plain
  have other (comments : List Comment) (plain : ∀ c ∈ comments, c.IsPlain) :=
    Node.hasPrivateTag_of_isPlain (n := { n with comments := comments }) located hstart plain
  refine ⟨own, ?_, ?_⟩
  · intro comments perm
    obtain ⟨tagged, answer, tags⟩ := own
    obtain ⟨tagged', answer', tags'⟩ := other comments fun c hc => plain c (perm.mem_iff.mp hc)
    have same : tagged' = tagged := by
      rw [Bool.eq_iff_iff, tags, tags']
      simp only [perm.mem_iff]
    rw [answer, answer', same]
  · intro comments more plain' tagged
    obtain ⟨_, answer, tags⟩ := own
    obtain ⟨_, answer', tags'⟩ := other comments plain'
    obtain ⟨c, hc, tag⟩ := tags.mp (Except.ok.inj (answer.symm.trans tagged))
    rw [answer', tags'.mpr ⟨c, more hc, tag⟩]

/-- A block that ends on line 3. -/
def blockAbove (text : String) : Comment :=
  ⟨.text "Block", .text text, some ⟨.int 2, .int 0, .int 3, .int 10⟩⟩

/-- A node on line 4, with comments in front of it. -/
def behindComments (comments : List Comment) : Node :=
  ⟨0, "Property", [], some ⟨.int 4, .int 2, .int 4, .int 9⟩, comments⟩

theorem isPlain_blockAbove (text : String) : (blockAbove text).IsPlain :=
  ⟨⟨text, rfl⟩, fun _ hloc => ⟨3, by cases hloc; rfl⟩⟩

theorem tags_blockAbove_iff (text : String) :
    (blockAbove text).Tags 4 ↔
      text.toList.head? = some '*' ∧ Comment.hasTag text.toList = true := by
  rw [Comment.hasTag_iff]
  constructor
  · rintro ⟨_, _, _, _, htext, front, _, _, _, holds⟩
    cases htext
    exact ⟨front, holds⟩
  · rintro ⟨front, holds⟩
    exact ⟨text, _, 3, rfl, rfl, front, rfl, rfl, by decide, holds⟩

/-- A tag that goes on as a longer word is none; behind such a comment, one that ends with the tag
makes the node private. -/
theorem hasPrivateTag_iff_blockAbove :
    (blockAbove "* @privateé").IsPlain ∧ (blockAbove "*\n@private").IsPlain ∧
    (behindComments [blockAbove "* @privateé"]).hasPrivateTag = .ok false ∧
    (behindComments [blockAbove "* @privateé", blockAbove "*\n@private"]).hasPrivateTag =
      .ok true := by
  have longer : ¬ (blockAbove "* @privateé").Tags 4 := by
    rw [tags_blockAbove_iff]
    decide +kernel
  have ending : (blockAbove "*\n@private").Tags 4 := by
    rw [tags_blockAbove_iff]
    decide +kernel
  refine ⟨isPlain_blockAbove _, isPlain_blockAbove _, ?_, ?_⟩
  · obtain ⟨⟨tagged, answer, iff⟩, _⟩ :=
      hasPrivateTag_iff (behindComments [blockAbove "* @privateé"]) _ 4 rfl rfl (by
        simp [behindComments, isPlain_blockAbove])
    have untagged : tagged = false := by
      simpa [behindComments, longer, ← Bool.not_eq_true] using iff
    rw [answer, untagged]
  · obtain ⟨⟨tagged, answer, iff⟩, _⟩ :=
      hasPrivateTag_iff (behindComments [blockAbove "* @privateé", blockAbove "*\n@private"]) _ 4
        rfl rfl (by simp [behindComments, isPlain_blockAbove])
    rw [answer, iff.mpr ⟨_, by simp [behindComments], ending⟩]

end NameLint
