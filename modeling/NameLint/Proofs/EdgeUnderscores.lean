import NameLint.Name
import NameLint.Pattern.Compile
import NameLint.Proofs.PatternRuns

/-!
# Underscores at the edges of a name

The regular expression `^_+|_+$` finds the underscores at the edges of a name: a run
of them in front, and a run behind, which may stand before a final line end. Taking
its matches out leaves the core of the name with that line end, and this is the name
as it is judged. A match is tried at every place: inside the core a run of
underscores ends in front of another character, and the second branch backs off in
vain, because what it gives back are underscores.
-/

namespace NameLint

namespace Name

/-- The characters between the underscores in front and the underscores behind. -/
def IsCore (cs core : List Char) : Prop :=
  ∃ front back, cs = front ++ (core ++ back) ∧ (∀ c ∈ front, c = '_') ∧ (∀ c ∈ back, c = '_') ∧
    core.head? ≠ some '_' ∧ core.getLast? ≠ some '_'

/-- The line end of the characters: a single line feed, or nothing if they end with none. -/
def IsLineEnd (cs lineEnd : List Char) : Prop :=
  lineEnd = ['\n'] ∨ lineEnd = [] ∧ cs.getLast? ≠ some '\n'

theorem exists_isLineEnd (cs : List Char) :
    ∃ body lineEnd, cs = body ++ lineEnd ∧ IsLineEnd cs lineEnd := by
  by_cases ends : cs.getLast? = some '\n'
  · obtain ⟨body, rfl⟩ := List.getLast?_eq_some_iff.mp ends
    exact ⟨body, ['\n'], rfl, Or.inl rfl⟩
  · exact ⟨cs, [], (List.append_nil cs).symm, Or.inr ⟨rfl, ends⟩⟩

theorem IsLineEnd.head?_ne {cs lineEnd : List Char} (ends : IsLineEnd cs lineEnd) :
    lineEnd.head? ≠ some '_' := by
  rcases ends with rfl | ⟨rfl, -⟩
  · decide
  · decide

theorem splitLineEnd_of_isLineEnd {body lineEnd : List Char}
    (ends : IsLineEnd (body ++ lineEnd) lineEnd) :
    splitLineEnd (body ++ lineEnd) = (body, lineEnd) := by
  unfold splitLineEnd
  rcases ends with rfl | ⟨rfl, other⟩
  · simp
  · split
    · rename_i rest reversed
      rw [← List.head?_reverse, reversed] at other
      exact absurd rfl other
    · rw [List.append_nil]

theorem stripUnderscores_of_isLineEnd {name : String} {body lineEnd : List Char}
    (split : name.toList = body ++ lineEnd) (ends : IsLineEnd name.toList lineEnd) :
    (stripUnderscores name).toList = dropTrailing (dropLeading body) ++ lineEnd := by
  rw [split] at ends
  unfold stripUnderscores
  rw [split, splitLineEnd_of_isLineEnd ends, String.toList_ofList]

theorem exists_dropLeading (cs : List Char) :
    ∃ front, cs = front ++ dropLeading cs ∧ (∀ c ∈ front, c = '_') ∧
      (dropLeading cs).head? ≠ some '_' := by
  refine ⟨cs.takeWhile (· == '_'), List.takeWhile_append_dropWhile.symm, ?_, ?_⟩
  · intro c member
    exact beq_iff_eq.mp (List.all_eq_true.mp List.all_takeWhile c member)
  · intro first
    have other := List.head?_dropWhile_not (· == '_') cs
    rw [show (cs.dropWhile (· == '_')).head? = some '_' from first] at other
    cases other

theorem exists_dropTrailing (cs : List Char) :
    ∃ back, cs = dropTrailing cs ++ back ∧ (∀ c ∈ back, c = '_') ∧
      (dropTrailing cs).getLast? ≠ some '_' := by
  obtain ⟨front, split, underscores, first⟩ := exists_dropLeading cs.reverse
  refine ⟨front.reverse, ?_, ?_, ?_⟩
  · rw [dropTrailing, ← List.reverse_append, ← split, List.reverse_reverse]
  · intro c member
    exact underscores c (List.mem_reverse.mp member)
  · rw [dropTrailing, List.getLast?_reverse]
    exact first

theorem head?_append_ne {c : Char} {cs ds : List Char} (first : cs.head? ≠ some c)
    (next : ds.head? ≠ some c) : (cs ++ ds).head? ≠ some c := by
  cases cs with
  | nil => exact next
  | cons d cs => exact first

theorem head?_ne_of_append {c : Char} {cs ds : List Char} (first : (cs ++ ds).head? ≠ some c) :
    cs.head? ≠ some c := by
  intro begins
  rw [List.head?_append, begins] at first
  exact first rfl

theorem isCore_dropTrailing (cs : List Char) : IsCore cs (dropTrailing (dropLeading cs)) := by
  obtain ⟨front, split, inFront, first⟩ := exists_dropLeading cs
  obtain ⟨back, split', behind, last⟩ := exists_dropTrailing (dropLeading cs)
  refine ⟨front, back, by rw [← split', ← split], inFront, behind, ?_, last⟩
  rw [split'] at first
  exact head?_ne_of_append first

/-- Leading underscores end at the latest in front of another character. -/
theorem dropLeading_append {x : Char} (other : x ≠ '_') (before after : List Char) :
    dropLeading (before ++ x :: after) = dropLeading before ++ x :: after := by
  have stays : dropLeading (x :: after) = x :: after :=
    List.dropWhile_cons_of_neg (by simpa using other)
  unfold dropLeading at stays ⊢
  rw [List.dropWhile_append]
  split
  · rename_i empty
    rw [stays, List.isEmpty_iff.mp empty]
    rfl
  · rfl

theorem dropTrailing_append {y : Char} (other : y ≠ '_') (before after : List Char) :
    dropTrailing (before ++ y :: after) = before ++ y :: dropTrailing after := by
  have reversed := dropLeading_append other after.reverse before.reverse
  simp [dropTrailing, reversed]

/-- What stands between two other characters is kept. -/
theorem infix_dropTrailing {x y : Char} {inner cs : List Char} (left : x ≠ '_') (right : y ≠ '_')
    (inside : x :: inner ++ [y] <:+: cs) :
    x :: inner ++ [y] <:+: dropTrailing (dropLeading cs) := by
  obtain ⟨before, after, rfl⟩ := inside
  have front := dropLeading_append left before (inner ++ y :: after)
  have back := dropTrailing_append right (dropLeading before ++ x :: inner) after
  refine ⟨dropLeading before, dropTrailing after, ?_⟩
  simp only [List.append_assoc, List.cons_append, List.nil_append] at front back ⊢
  rw [front, back]

end Name

namespace Pattern

def frontSteps : List Step :=
  [.at .none .lineStart, .run .most 1 none (.exactly '_'.toNat) none]

def backSteps : List Step :=
  [.run .most 1 none (.exactly '_'.toNat) none, .at .none .lineEnd]

/-- What the expression `^_+|_+$` becomes. -/
def edges : Compiled where
  steps := [.branch [frontSteps, backSteps]]
  least := 1
  fromCode := false
  lead := none

theorem ofText_edges : ofText "^_+|_+$" = .ok edges := by
  have cut : tokens 0 "^_+|_+$".toList =
      [⟨['^'], 0⟩, ⟨['_'], 1⟩, ⟨['+'], 2⟩, ⟨['|'], 3⟩, ⟨['_'], 4⟩, ⟨['+'], 5⟩, ⟨['$'], 6⟩] := rfl
  unfold ofText
  rw [cut]
  rfl

theorem matchSteps_edges (text : Array Char) (p : Nat) (s : Scan) :
    matchSteps text edges.steps false done p s =
      (matchSteps text frontSteps false done p (s.moved p)).orElse fun t =>
        (matchSteps text backSteps false done p ((t.restored s false).moved p)).orElse fun t =>
          .fail (t.restored s false) := by
  have front : isPassedBy text p frontSteps = false := rfl
  have back : isPassedBy text p backSteps = false := rfl
  simp only [edges, matchSteps, matchStep, matchBranches, front, back]
  rfl

section Edges

variable {before run after : List Char} {s : Scan}

theorem passes_of_underscores (underscores : ∀ c ∈ run, c = '_') :
    ∀ c ∈ run, Test.holds c (.exactly '_'.toNat) = true :=
  fun c member => holds_exactly_iff.mpr (underscores c member)

theorem stops_of_head? (stops : after.head? ≠ some '_') :
    ∀ c ∈ after.head?, Test.holds c (.exactly '_'.toNat) = false := by
  intro c first
  rw [← Bool.not_eq_true, holds_exactly_iff]
  rintro rfl
  exact stops first

variable (underscores : ∀ c ∈ run, c = '_') (stops : after.head? ≠ some '_')

include underscores stops

theorem frontSteps_endsAt (nonempty : run ≠ []) (front : before = []) :
    (matchSteps (before ++ (run ++ after)).toArray frontSteps false done before.length s).EndsAt
      (before ++ run).length := by
  have start := (placeHolds_lineStart before (run ++ after)).mpr front
  rw [frontSteps, matchSteps_at, if_pos start, matchSteps_run, matchSteps]
  exact matchRun_endsAt nonempty (passes_of_underscores underscores) (stops_of_head? stops)
    (done_endsAt _)

theorem frontSteps_fails (away : run = [] ∨ before ≠ []) :
    (matchSteps (before ++ (run ++ after)).toArray frontSteps false done before.length s).found =
      false := by
  rw [frontSteps, matchSteps_at]
  by_cases front : before = []
  · obtain rfl := away.resolve_right fun behind => behind front
    rw [if_pos ((placeHolds_lineStart before _).mpr front), matchSteps_run]
    apply matchRun_fails (passes_of_underscores underscores) (stops_of_head? stops)
    intro near far split nonempty
    exact absurd (List.append_eq_nil_iff.mp split.symm).1 nonempty
  · rw [if_neg (mt (placeHolds_lineStart before _).mp front)]
    rfl

theorem backSteps_endsAt (nonempty : run ≠ []) (back : after = [] ∨ after = ['\n']) :
    (matchSteps (before ++ (run ++ after)).toArray backSteps false done before.length s).EndsAt
      (before ++ run).length := by
  rw [backSteps, matchSteps_run]
  apply matchRun_endsAt nonempty (passes_of_underscores underscores) (stops_of_head? stops)
  intro s
  have lineEnd := (placeHolds_lineEnd (before ++ run) after).mpr back
  rw [List.append_assoc] at lineEnd
  rw [matchSteps_at, if_pos lineEnd, matchSteps]
  exact done_endsAt _ s

/-- Backing off does not help: the places before the end of the run are followed by
underscores. -/
theorem backSteps_fails (away : run = [] ∨ ¬ (after = [] ∨ after = ['\n'])) :
    (matchSteps (before ++ (run ++ after)).toArray backSteps false done before.length s).found =
      false := by
  rw [backSteps, matchSteps_run]
  apply matchRun_fails (passes_of_underscores underscores) (stops_of_head? stops)
  rintro near far rfl nonempty s
  have inner : ¬ (far ++ after = [] ∨ far ++ after = ['\n']) := by
    cases far with
    | nil => exact away.resolve_left fun empty => nonempty (List.append_eq_nil_iff.mp empty).1
    | cons c far =>
      obtain rfl := underscores c (by simp)
      simp
  have lineEnd := mt (placeHolds_lineEnd (before ++ near) (far ++ after)).mp inner
  rw [List.append_assoc, ← List.append_assoc near] at lineEnd
  rw [matchSteps_at, if_neg lineEnd]
  rfl

/-- A run of underscores is found in front of the text and at the end of its last line. -/
theorem matchEnd?_edges (nonempty : run ≠ [])
    (edge : before = [] ∨ after = [] ∨ after = ['\n']) :
    edges.matchEnd? (before ++ (run ++ after)).toArray before.length =
      some (before ++ run).length := by
  suffices ends : (matchSteps (before ++ (run ++ after)).toArray edges.steps false done
      before.length ⟨before.length, []⟩).EndsAt (before ++ run).length from
    Compiled.matchEnd?_of_endsAt rfl ends
  rw [matchSteps_edges]
  by_cases front : before = []
  · exact (frontSteps_endsAt underscores stops nonempty front).orElse _
  · have back := edge.resolve_left front
    rw [Outcome.orElse_of_fails (frontSteps_fails underscores stops (Or.inr front))]
    exact (backSteps_endsAt underscores stops nonempty back).orElse _

/-- No match begins elsewhere. -/
theorem matchEnd?_edges_eq_none
    (inner : run = [] ∨ before ≠ [] ∧ ¬ (after = [] ∨ after = ['\n'])) :
    edges.matchEnd? (before ++ (run ++ after)).toArray before.length = none := by
  have first : run = [] ∨ before ≠ [] := inner.imp_right And.left
  have second : run = [] ∨ ¬ (after = [] ∨ after = ['\n']) := inner.imp_right And.right
  rw [Compiled.matchEnd?, Compiled.matchAt?_of_fails]
  · rfl
  · rw [matchSteps_edges, Outcome.orElse_of_fails (frontSteps_fails underscores stops first),
      Outcome.orElse_of_fails (backSteps_fails underscores stops second)]
    rfl

end Edges

/-- The first match is the run of underscores in front. -/
theorem leftFrom_edges_front {front after : List Char} (underscores : ∀ c ∈ front, c = '_')
    (stops : after.head? ≠ some '_') :
    edges.leftFrom (front ++ after).toArray 0 =
      edges.leftFrom (front ++ after).toArray front.length := by
  by_cases empty : front = []
  · rw [empty]
    rfl
  · have ends := matchEnd?_edges underscores stops empty (Or.inl (rfl : ([] : List Char) = []))
    exact Compiled.leftFrom_of_match empty ends

/-- A line end is left as it is. -/
theorem leftFrom_edges_lineEnd (before : List Char) {lineEnd : List Char}
    (ends : lineEnd = [] ∨ lineEnd = ['\n']) :
    edges.leftFrom (before ++ lineEnd).toArray before.length = lineEnd := by
  rcases ends with rfl | rfl
  · rw [List.append_nil]
    exact edges.leftFrom_end before
  · have none : edges.matchEnd? (before ++ ([] ++ ['\n'])).toArray before.length = none :=
      matchEnd?_edges_eq_none (by simp) (by decide) (Or.inl rfl)
    rw [Compiled.leftFrom_of_none none, edges.leftFrom_end]

section Core

variable {before core back lineEnd : List Char}

/-- The last match is the run of underscores behind. -/
theorem leftFrom_edges_back (underscores : ∀ c ∈ back, c = '_')
    (ends : lineEnd = [] ∨ lineEnd = ['\n']) (stops : lineEnd.head? ≠ some '_') :
    edges.leftFrom (before ++ (back ++ lineEnd)).toArray before.length = lineEnd := by
  by_cases empty : back = []
  · rw [empty]
    exact leftFrom_edges_lineEnd before ends
  · rw [Compiled.leftFrom_of_match empty (matchEnd?_edges underscores stops empty (Or.inr ends)),
      ← List.append_assoc]
    exact leftFrom_edges_lineEnd (before ++ back) ends

/-- No match begins in the core: a run of underscores there ends in front of another character,
which is no last line feed. -/
theorem matchEnd?_edges_core (nonempty : core ≠ [])
    (ends : Name.IsLineEnd (before ++ (core ++ (back ++ lineEnd))) lineEnd)
    (first : before = [] → core.head? ≠ some '_') (last : core.getLast? ≠ some '_') :
    edges.matchEnd? (before ++ (core ++ (back ++ lineEnd))).toArray before.length = none := by
  obtain ⟨run, split, underscores, stops⟩ := Name.exists_dropLeading core
  generalize Name.dropLeading core = other at split stops
  subst split
  have present : other ≠ [] := by
    rintro rfl
    rw [List.append_nil] at last nonempty
    have underscore := underscores _ (List.getLast_mem nonempty)
    exact last (by rw [List.getLast?_eq_some_getLast nonempty, underscore])
  obtain ⟨d, others, rfl⟩ := List.exists_cons_of_ne_nil present
  have following : (d :: others ++ (back ++ lineEnd)).head? ≠ some '_' := stops
  rw [List.append_assoc]
  apply matchEnd?_edges_eq_none underscores following
  cases run with
  | nil => exact Or.inl rfl
  | cons c run =>
    right
    refine ⟨fun front => first front ?_, ?_⟩
    · rw [underscores c List.mem_cons_self]
      rfl
    · rintro (nothing | lineFeed)
      · cases nothing
      · rcases ends with rfl | ⟨rfl, notLine⟩
        · have short := congrArg List.length lineFeed
          simp at short
        · apply notLine
          rw [List.append_assoc (c :: run), lineFeed, List.getLast?_append, List.getLast?_append]
          rfl

theorem leftFrom_edges_core (underscores : ∀ c ∈ back, c = '_')
    (ends : Name.IsLineEnd (before ++ (core ++ (back ++ lineEnd))) lineEnd)
    (first : before = [] → core.head? ≠ some '_') (last : core.getLast? ≠ some '_') :
    edges.leftFrom (before ++ (core ++ (back ++ lineEnd))).toArray before.length =
      core ++ lineEnd := by
  induction core generalizing before with
  | nil => exact leftFrom_edges_back underscores (ends.symm.imp_left And.left) ends.head?_ne
  | cons c core ih =>
    have none := matchEnd?_edges_core (List.cons_ne_nil c core) ends first last
    have later : core.getLast? ≠ some '_' := by
      intro ends
      rw [List.getLast?_cons, ends] at last
      exact last rfl
    have moved : before ++ (c :: core ++ (back ++ lineEnd)) =
        before ++ [c] ++ (core ++ (back ++ lineEnd)) := by
      rw [List.append_assoc]
      rfl
    have rest := ih (moved ▸ ends) (fun empty => absurd empty (by simp)) later
    rw [← moved] at rest
    exact (Compiled.leftFrom_of_none none).trans (congrArg (List.cons c) rest)

end Core

/-- Taking the matches out of a name strips it of its underscores. -/
theorem without_edges (name : String) : edges.without name = Name.stripUnderscores name := by
  obtain ⟨body, lineEnd, split, ends⟩ := Name.exists_isLineEnd name.toList
  obtain ⟨front, parts, inFront, first⟩ := Name.exists_dropLeading body
  obtain ⟨back, parts', behind, last⟩ := Name.exists_dropTrailing (Name.dropLeading body)
  have stripped := Name.stripUnderscores_of_isLineEnd split ends
  generalize Name.dropTrailing (Name.dropLeading body) = core at parts' last stripped
  have stops : (core ++ (back ++ lineEnd)).head? ≠ some '_' := by
    rw [← List.append_assoc, ← parts']
    exact Name.head?_append_ne first ends.head?_ne
  have begins : core.head? ≠ some '_' := Name.head?_ne_of_append stops
  have whole : name.toList = front ++ (core ++ (back ++ lineEnd)) := by
    rw [split, parts, parts', List.append_assoc, List.append_assoc]
  rw [whole] at ends
  apply String.toList_injective
  rw [stripped, Compiled.without, String.toList_ofList, whole, leftFrom_edges_front inFront stops,
    leftFrom_edges_core behind ends (fun _ => begins) last]

end Pattern

/-- The name without the underscores at its edges is what is left of it when the matches of
`^_+|_+$` are taken out: of the body before a final line end, the part between the whole run of
underscores in front and the whole run behind, and then that line end. So it never begins with an
underscore and keeps, in order, all that stands between two other characters of the body. Where the
name does not end with a line feed, nothing but the underscores at its edges is missing. -/
theorem stripUnderscores_leaves_core (name : String) :
    (∃ edges, Pattern.ofText "^_+|_+$" = .ok edges ∧
      edges.without name = Name.stripUnderscores name) ∧
    (∀ body lineEnd, name.toList = body ++ lineEnd → Name.IsLineEnd name.toList lineEnd →
      (∃ core, Name.IsCore body core ∧ (Name.stripUnderscores name).toList = core ++ lineEnd) ∧
      ∀ x inner y, x ≠ '_' → y ≠ '_' → x :: inner ++ [y] <:+: body →
        x :: inner ++ [y] <:+: (Name.stripUnderscores name).toList) ∧
    (Name.stripUnderscores name).toList.head? ≠ some '_' ∧
    (name.toList.getLast? ≠ some '\n' →
      Name.IsCore name.toList (Name.stripUnderscores name).toList) := by
  refine ⟨⟨Pattern.edges, Pattern.ofText_edges, Pattern.without_edges name⟩, ?_, ?_, ?_⟩
  · intro body lineEnd split ends
    have stripped := Name.stripUnderscores_of_isLineEnd split ends
    refine ⟨⟨_, Name.isCore_dropTrailing body, stripped⟩, ?_⟩
    intro x inner y left right inside
    rw [stripped]
    exact (Name.infix_dropTrailing left right inside).trans (List.prefix_append _ _).isInfix
  · obtain ⟨body, lineEnd, split, ends⟩ := Name.exists_isLineEnd name.toList
    obtain ⟨_, _, _, _, _, first, _⟩ := Name.isCore_dropTrailing body
    rw [Name.stripUnderscores_of_isLineEnd split ends]
    exact Name.head?_append_ne first ends.head?_ne
  · intro ends
    have stripped := Name.stripUnderscores_of_isLineEnd (List.append_nil name.toList).symm
      (Or.inr ⟨rfl, ends⟩)
    rw [stripped, List.append_nil]
    exact Name.isCore_dropTrailing name.toList

/-- A name with underscores before a final line end and two of them inside, and one that is all
underscores. -/
theorem stripUnderscores_leaves_core_lineEnd :
    "__a__b_\n".toList = "__a__b_".toList ++ ['\n'] ∧ Name.IsLineEnd "__a__b_\n".toList ['\n'] ∧
    'a' :: ['_', '_'] ++ ['b'] <:+: "__a__b_".toList ∧
    (∃ core, Name.IsCore "__a__b_".toList core ∧
      (Name.stripUnderscores "__a__b_\n").toList = core ++ ['\n']) ∧
    'a' :: ['_', '_'] ++ ['b'] <:+: (Name.stripUnderscores "__a__b_\n").toList ∧
    Name.stripUnderscores "__a__b_\n" = "a__b\n" ∧
    "___".toList.getLast? ≠ some '\n' ∧
    Name.IsCore "___".toList (Name.stripUnderscores "___").toList := by
  have split : "__a__b_\n".toList = "__a__b_".toList ++ ['\n'] := by decide
  have ends : Name.IsLineEnd "__a__b_\n".toList ['\n'] := Or.inl rfl
  have inside : 'a' :: ['_', '_'] ++ ['b'] <:+: "__a__b_".toList :=
    ⟨['_', '_'], ['_'], rfl⟩
  have other : "___".toList.getLast? ≠ some '\n' := by decide
  obtain ⟨-, parts, -, -⟩ := stripUnderscores_leaves_core "__a__b_\n"
  obtain ⟨between, kept⟩ := parts _ _ split ends
  exact ⟨split, ends, inside, between, kept _ _ _ (by decide) (by decide) inside, by decide, other,
    (stripUnderscores_leaves_core "___").2.2.2 other⟩

end NameLint
