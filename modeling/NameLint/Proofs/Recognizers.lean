import NameLint.Proofs.NameGrammar
import NameLint.Proofs.OptionChecks
import NameLint.Proofs.PatternLanguages
import NameLint.Proofs.PrivateTags
import NameLint.Proofs.TemplateScan

/-!
# Recognizers and their patterns

Names, entries of the names to ignore, tags and placeholders are recognized by patterns
that never change. Each has a recognizer of its own here, and each recognizer finds what
the search for its pattern finds: a whole text, a place in a text, or at a place the
match and what its group takes.
-/

namespace NameLint

namespace Pattern

theorem beq_iff_toNat (c d : Char) : (c == d) = (c.toNat == d.toNat) := by
  rw [Bool.eq_iff_iff, beq_iff_eq, beq_iff_eq, Char.toNat_inj]

theorem between_iff_toNat (low high c : Char) :
    (low ≤ c && c ≤ high) = (low.toNat ≤ c.toNat && c.toNat ≤ high.toNat) := rfl

/-! Names in camel case -/

def camelStart : Test :=
  .inSet false false [.code '$'.toNat, .range 'a'.toNat 'z'.toNat, .range 'A'.toNat 'Z'.toNat]

def camelPart : Test :=
  .inSet false false [.code '$'.toNat, .range 'a'.toNat 'z'.toNat, .range 'A'.toNat 'Z'.toNat,
    .range '0'.toNat '9'.toNat]

def camel : Compiled where
  steps := [.char camelStart, .run .most 0 none camelPart none]
  least := 1
  fromCode := false
  lead := some camelStart

theorem ofText_camel : ofText "[$a-zA-Z][$a-zA-Z0-9]*" = .ok camel := by
  have spelled : "[$a-zA-Z][$a-zA-Z0-9]*".toList = ['[', '$', 'a', '-', 'z', 'A', '-', 'Z', ']',
      '[', '$', 'a', '-', 'z', 'A', '-', 'Z', '0', '-', '9', ']', '*'] := rfl
  unfold ofText
  rw [spelled]
  rfl

theorem holds_camelStart (c : Char) : Test.holds c camelStart = Name.isCamelStart c := by
  simp only [camelStart, Test.holds, SetItem.holds, List.any_cons, List.any_nil, Bool.or_false,
    Bool.bne_false, Char.reduceToNat, Name.isCamelStart, Name.isCapital, beq_iff_toNat,
    between_iff_toNat]
  grind

theorem holds_camelPart (c : Char) : Test.holds c camelPart = Name.isCamelPart c := by
  have digit : c.isDigit = ('0'.toNat ≤ c.toNat && c.toNat ≤ '9'.toNat) := rfl
  simp only [camelPart, Test.holds, SetItem.holds, List.any_cons, List.any_nil, Bool.or_false,
    Bool.bne_false, Char.reduceToNat, Name.isCamelPart, Name.isCamelStart, Name.isCapital,
    beq_iff_toNat, between_iff_toNat, digit]
  grind

theorem takesWhole_camel (name : String) :
    camel.takesWhole name = .ok (Name.isCamel name.toList) := by
  have steps (rest : Rest) : matchSteps name.toList.toArray camel.steps false rest =
      matchStep name.toList.toArray (.char camelStart) false
        (matchStep name.toList.toArray (.run .most 0 none camelPart none) false rest) := by
    rw [camel, matchSteps, matchSteps, matchSteps]
  refine Compiled.takesWhole_of_decides
    (L := charsOf camelStart * (runsOf camelPart 0 * 1)) ?_ ?_ ?_ fun w => ?_
  · rw [steps]
    exact .char (.run Rest.atEnd_decides fun after _ => begins_none after)
  · rw [steps]
    exact .char (.run Rest.atEnd_unmarked)
  · intro w member
    obtain ⟨c, rest, rfl, _⟩ := mem_charsOf_mul.mp member
    exact Nat.le_add_left 1 _
  · rw [Name.isCamel_iff, mul_one, mem_charsOf_mul]
    simp [Name.IsCamelCase, mem_runsOf, holds_camelStart, holds_camelPart]

/-! Constants -/

def constStart : Test :=
  .inSet false false [.range 'A'.toNat 'Z'.toNat, .range '0'.toNat '9'.toNat, .code '$'.toNat]

def constPart : Test :=
  .inSet false false [.range 'A'.toNat 'Z'.toNat, .range '0'.toNat '9'.toNat]

def laterWord : List Step :=
  [.char (.exactly '_'.toNat), .run .most 1 none constPart none]

def const : Compiled where
  steps := [.run .most 1 none constStart none, .loop false 0 none laterWord]
  least := 1
  fromCode := false
  lead := none

theorem ofText_const : ofText "[A-Z0-9$]+(?:_[A-Z0-9]+)*" = .ok const := by
  have spelled : "[A-Z0-9$]+(?:_[A-Z0-9]+)*".toList = ['[', 'A', '-', 'Z', '0', '-', '9', '$', ']',
      '+', '(', '?', ':', '_', '[', 'A', '-', 'Z', '0', '-', '9', ']', '+', ')', '*'] := rfl
  unfold ofText
  rw [spelled]
  rfl

theorem holds_constPart (c : Char) : Test.holds c constPart = Name.isConstPart c := by
  have digit : c.isDigit = ('0'.toNat ≤ c.toNat && c.toNat ≤ '9'.toNat) := rfl
  simp [constPart, Test.holds, SetItem.holds, Name.isConstPart, Name.isCapital, between_iff_toNat,
    digit]

theorem holds_constStart (c : Char) : Test.holds c constStart = Name.isConstStart c := by
  have digit : c.isDigit = ('0'.toNat ≤ c.toNat && c.toNat ≤ '9'.toNat) := rfl
  simp only [constStart, Test.holds, SetItem.holds, List.any_cons, List.any_nil, Bool.or_false,
    Bool.bne_false, Char.reduceToNat, Name.isConstStart, Name.isConstPart, Name.isCapital,
    beq_iff_toNat, between_iff_toNat, digit]
  grind

/-- Words that each have an underscore in front are what the iterations take. -/
theorem mem_kstar_laterWord {cs : List Char} :
    cs ∈ KStar.kstar (charsOf (.exactly '_'.toNat) * runsOf constPart 1) ↔
      ∃ words, cs = Name.behindUnderscores words ∧ Name.AreLaterWords words := by
  have later (cs : List Char) : cs ∈ charsOf (.exactly '_'.toNat) * runsOf constPart 1 ↔
      ∃ word, cs = '_' :: word ∧ word ≠ [] ∧ ∀ c ∈ word, Name.isConstPart c = true := by
    simp only [mem_charsOf_mul, mem_runsOf, holds_constPart, holds_exactly_iff, Nat.succ_le_iff,
      List.length_pos_iff]
    constructor
    · rintro ⟨_, word, rfl, rfl, own⟩
      exact ⟨word, rfl, own⟩
    · rintro ⟨word, rfl, own⟩
      exact ⟨'_', word, rfl, rfl, own⟩
  rw [Language.mem_kstar]
  constructor
  · rintro ⟨parts, rfl, own⟩
    induction parts with
    | nil => exact ⟨[], rfl, .nil⟩
    | cons part parts ih =>
      obtain ⟨words, split, areLater⟩ := ih fun y hy => own y (List.mem_cons_of_mem _ hy)
      obtain ⟨word, rfl, some, characters⟩ := (later part).mp (own part List.mem_cons_self)
      refine ⟨word :: words, ?_, .cons some characters areLater⟩
      rw [List.flatten_cons, split]
      rfl
  · rintro ⟨words, rfl, areLater⟩
    refine ⟨words.map ('_' :: ·), List.flatMap_def, fun y hy => ?_⟩
    obtain ⟨word, member, rfl⟩ := List.mem_map.mp hy
    exact (later _).mpr ⟨word, rfl, areLater word member⟩

theorem takesWhole_const (name : String) :
    const.takesWhole name = .ok (Name.isConst name.toList) := by
  have steps (rest : Rest) : matchSteps name.toList.toArray const.steps false rest =
      matchStep name.toList.toArray (.run .most 1 none constStart none) false
        (matchStep name.toList.toArray (.loop false 0 none laterWord) false rest) := by
    rw [const, matchSteps, matchSteps, matchSteps]
  have inner (rest : Rest) : matchSteps name.toList.toArray laterWord true rest =
      matchStep name.toList.toArray (.char (.exactly '_'.toNat)) true
        (matchStep name.toList.toArray (.run .most 1 none constPart none) true rest) := by
    rw [laterWord, matchSteps, matchSteps, matchSteps]
  refine Compiled.takesWhole_of_decides (L := runsOf constStart 1 *
    (KStar.kstar (charsOf (.exactly '_'.toNat) * runsOf constPart 1) * 1)) ?_ ?_ ?_ fun w => ?_
  · rw [steps]
    refine .run (.loop (fun decides => ?_) Rest.atEnd_decides) fun after _ => begins_none after
    rw [inner, mul_assoc]
    exact .char (.run (decides.mono (Nat.le_succ _)) fun after _ => begins_none after)
  · rw [steps]
    refine .run (.loop Rest.atEnd_unmarked fun unmarked => ?_)
    rw [inner]
    exact .char (.run unmarked)
  · intro w member
    obtain ⟨near, rest, rfl, long, _⟩ := mem_runsOf_mul.mp member
    rw [List.length_append]
    exact Nat.le_add_right_of_le long
  · rw [Name.isConst_iff, mul_one, mem_runsOf_mul]
    simp only [mem_kstar_laterWord, holds_constStart, Name.IsConstant, Nat.succ_le_iff,
      List.length_pos_iff]
    constructor
    · rintro ⟨first, words, rfl, some, starts, later⟩
      exact ⟨first, _, rfl, some, starts, words, rfl, later⟩
    · rintro ⟨first, _, rfl, some, starts, words, rfl, later⟩
      exact ⟨first, words, rfl, some, starts, later⟩

/-! Regular expressions between slashes -/

def slashes : Compiled where
  steps := [.char (.exactly '/'.toNat), .run .most 0 none .notLineFeed (some '/'.toNat),
    .char (.exactly '/'.toNat)]
  least := 2
  fromCode := true
  lead := none

theorem ofText_slashes : ofText "/.*/" = .ok slashes := by
  have spelled : "/.*/".toList = ['/', '.', '*', '/'] := rfl
  unfold ofText
  rw [spelled]
  rfl

theorem holds_notLineFeed_iff {c : Char} : Test.holds c .notLineFeed = true ↔ c ≠ '\n' := by
  rw [Test.holds, bne_iff_ne]

/-- What stands between slashes, in one line. -/
def slashed : Language Char :=
  charsOf (.exactly '/'.toNat) * (runsOf .notLineFeed 0 * (charsOf (.exactly '/'.toNat) * 1))

theorem mem_slashed {cs : List Char} :
    cs ∈ slashed ↔ ∃ body, cs = '/' :: (body ++ ['/']) ∧ '\n' ∉ body := by
  simp only [slashed, mem_charsOf_mul, mem_runsOf_mul, holds_exactly_iff, Language.mem_one,
    holds_notLineFeed_iff]
  constructor
  · rintro ⟨_, _, rfl, rfl, body, _, rfl, _, plain, _, _, rfl, rfl, rfl⟩
    exact ⟨body, rfl, fun held => plain _ held rfl⟩
  · rintro ⟨body, rfl, plain⟩
    refine ⟨_, _, rfl, rfl, body, _, rfl, Nat.zero_le _, ?_, _, _, rfl, rfl, rfl⟩
    rintro c held rfl
    exact plain held

/-- The text between slashes is there just if the entry is of the form that is asked for. -/
theorem isSome_regexBody?_iff {entry : String} :
    (IgnorePattern.regexBody? entry).isSome = true ↔ entry.toList ∈ slashed := by
  simp only [Option.isSome_iff_exists, IgnorePattern.regexBody?_eq_some_iff,
    IgnorePattern.hasBody_iff_toList, mem_slashed]
  constructor
  · rintro ⟨body, spelled⟩
    exact ⟨body.toList, spelled⟩
  · rintro ⟨body, spelled⟩
    exact ⟨String.ofList body, by rwa [String.toList_ofList]⟩

/-- The run takes what it can and gives back what it has taken up to the last slash. -/
theorem takesWhole_slashes (entry : String) :
    slashes.takesWhole entry = .ok (IgnorePattern.regexBody? entry).isSome := by
  have steps (rest : Rest) : matchSteps entry.toList.toArray slashes.steps false rest =
      matchStep entry.toList.toArray (.char (.exactly '/'.toNat)) false
        (matchStep entry.toList.toArray (.run .most 0 none .notLineFeed (some '/'.toNat)) false
          (matchStep entry.toList.toArray (.char (.exactly '/'.toNat)) false rest)) := by
    rw [slashes, matchSteps, matchSteps, matchSteps, matchSteps]
  let recognizes := fun cs => (IgnorePattern.regexBody? (String.ofList cs)).isSome
  suffices recognized : slashes.takesWhole entry = .ok (recognizes entry.toList) by
    simpa only [recognizes, String.ofList_toList] using recognized
  refine Compiled.takesWhole_of_decides (L := slashed) ?_ ?_ ?_ fun w => ?_
  · rw [steps]
    refine .char (.run (.char Rest.atEnd_decides) fun after member => ?_)
    obtain ⟨c, rest, rfl, slash, _⟩ := mem_charsOf_mul.mp member
    rw [holds_exactly_iff.mp slash]
    exact begins_cons '/' rest
  · rw [steps]
    exact .char (.run (.char Rest.atEnd_unmarked))
  · intro w member
    obtain ⟨body, rfl, _⟩ := mem_slashed.mp member
    simp [slashes]
  · rw [isSome_regexBody?_iff, String.toList_ofList]

/-! Tags of private members -/

def blankTest : Test :=
  .inSet false false [.oneOf .blank]

theorem holds_blankTest (c : Char) : Test.holds c blankTest = Text.isBlank c := by
  simp [blankTest, Test.holds, SetItem.holds, CharClass.holds]

def tag : Compiled where
  steps := .char blankTest :: (wordSteps "@privat".toList ++
    [.char (.exactly 'e'.toNat), .at .none .wordEdge])
  least := 9
  fromCode := false
  lead := some blankTest

theorem ofText_tag : ofText "\\s@private\\b" = .ok tag := by
  have spelled : "\\s@private\\b".toList =
      ['\\', 's', '@', 'p', 'r', 'i', 'v', 'a', 't', 'e', '\\', 'b'] := rfl
  unfold ofText
  rw [spelled]
  rfl

/-- A blank and the tag, and then the end of a word. -/
def tagged : Language Char :=
  charsOf blankTest * ({"@privat".toList} * (charsOf (.exactly 'e'.toNat) * wordEnds))

theorem mem_tagged {cs : List Char} :
    cs ∈ tagged ↔ ∃ blank after, cs = blank :: ("@private".toList ++ after) ∧
      Text.isBlank blank = true ∧ ∀ c ∈ after.head?, Text.isWord c = false := by
  have whole (after : List Char) :
      "@privat".toList ++ 'e' :: after = "@private".toList ++ after := rfl
  simp only [tagged, mem_charsOf_mul, mem_word_mul, holds_blankTest, holds_exactly_iff,
    mem_wordEnds]
  constructor
  · rintro ⟨blank, _, rfl, separates, _, rfl, _, after, rfl, rfl, ends⟩
    exact ⟨blank, after, congrArg _ (whole after), separates, ends⟩
  · rintro ⟨blank, after, rfl, separates, ends⟩
    exact ⟨blank, _, congrArg _ (whole after).symm, separates, _, rfl, 'e', after, rfl, rfl, ends⟩

theorem search_tag (text : String) : tag.search text = .ok (Comment.hasTag text.toList) := by
  have steps (rest : Rest) : matchSteps text.toList.toArray tag.steps false rest =
      matchStep text.toList.toArray (.char blankTest) false
        (matchSteps text.toList.toArray (wordSteps "@privat".toList ++
          [.char (.exactly 'e'.toNat), .at .none .wordEdge]) false rest) := by
    rw [tag, matchSteps]
  have decides : Rest.Decides (matchSteps text.toList.toArray tag.steps false done)
      text.toList 0 tagged := by
    rw [steps]
    exact .char (.word (Rest.wordEdge_decides (by decide)))
  have unmarked : Rest.Unmarked (matchSteps text.toList.toArray tag.steps false done) := by
    rw [steps]
    refine .char (.word ?_)
    rw [matchSteps, matchSteps, matchSteps]
    exact .char (Rest.done_unmarked.at _ _)
  have least : ∀ w ∈ tagged, tag.least ≤ w.length := by
    intro w member
    obtain ⟨blank, after, rfl, _⟩ := mem_tagged.mp member
    simp [tag]
  have starts : ∀ before after, text.toList = before ++ after → after ∈ tagged →
      tag.canStart text.toList.toArray before.length = true := by
    intro before after split member
    obtain ⟨blank, rest, rfl, separates, _⟩ := mem_tagged.mp member
    rw [Compiled.canStart, split]
    exact (holdsAt_iff _ _ _).mpr ⟨blank, rfl, (holds_blankTest blank).trans separates⟩
  obtain ⟨found, result, iff⟩ :=
    Compiled.search_of_decides decides unmarked (by decide) least starts
  have same : found = Comment.hasTag text.toList := by
    rw [Bool.eq_iff_iff, iff, Comment.hasTag_iff]
    simp only [mem_tagged, Comment.HoldsTag]
    constructor
    · rintro ⟨before, _, split, blank, after, rfl, own⟩
      exact ⟨before, blank, after, split, own⟩
    · rintro ⟨before, blank, after, split, own⟩
      exact ⟨before, _, split, blank, after, rfl, own⟩
  rw [result, same]

/-! Placeholders -/

def wordTest : Test :=
  .inSet false false [.oneOf .word]

theorem holds_wordTest (c : Char) : Test.holds c wordTest = Text.isWord c := by
  simp [wordTest, Test.holds, SetItem.holds, CharClass.holds]

/-- The blanks behind the key and the closing braces. -/
def closing : List Step :=
  .run .most 0 none blankTest (some '\x7d'.toNat) :: wordSteps ['\x7d', '\x7d']

/-- The blanks in front of the key and the key, which is the first group. -/
def opening : List Step :=
  .run .most 0 none blankTest none :: .mark 0 :: .run .most 1 none wordTest none :: .mark 1 ::
    closing

def braces : Compiled where
  steps := wordSteps ['\x7b', '\x7b'] ++ opening
  least := 5
  fromCode := true
  lead := none

theorem ofText_braces : ofText "\\\x7b\\\x7b\\s*(\\w+)\\s*\\\x7d\\\x7d" = .ok braces := by
  have spelled : "\\\x7b\\\x7b\\s*(\\w+)\\s*\\\x7d\\\x7d".toList =
      ['\\', '\x7b', '\\', '\x7b', '\\', 's', '*', '(', '\\', 'w', '+', ')', '\\', 's', '*',
        '\\', '\x7d', '\\', '\x7d'] := rfl
  unfold ofText
  rw [spelled]
  rfl

theorem matchSteps_opening (text : Array Char) (rest : Rest) :
    matchSteps text opening false rest =
      matchStep text (.run .most 0 none blankTest none) false
        (matchStep text (.mark 0) false
          (matchStep text (.run .most 1 none wordTest none) false
            (matchStep text (.mark 1) false (matchSteps text closing false rest)))) := by
  rw [opening, matchSteps_cons, matchSteps_cons, matchSteps_cons, matchSteps_cons]

theorem matchSteps_closing (text : Array Char) (rest : Rest) :
    matchSteps text closing false rest =
      matchStep text (.run .most 0 none blankTest (some '\x7d'.toNat)) false
        (matchSteps text (wordSteps ['\x7d', '\x7d'] ++ []) false rest) := by
  rw [closing, matchSteps_cons, List.append_nil]

/-- What begins with a placeholder. -/
def placeholders : Language Char :=
  {['\x7b', '\x7b']} * (runsOf blankTest 0 * (runsOf wordTest 1 * (runsOf blankTest 0 *
    ({['\x7d', '\x7d']} * ⊤))))

theorem mem_placeholders {cs : List Char} :
    cs ∈ placeholders ↔
      ∃ key spelling rest, Template.Spells key spelling ∧ cs = spelling ++ rest := by
  simp only [placeholders, mem_word_mul, mem_runsOf_mul, holds_blankTest, holds_wordTest]
  constructor
  · rintro ⟨_, rfl, before, _, rfl, _, blanks, key, _, rfl, long, word, after, _, rfl, _, blanks',
      rest, rfl, _⟩
    exact ⟨key, _, rest, ⟨before, after, blanks, blanks', List.length_pos_iff.mp long, word, rfl⟩,
      by simp⟩
  · rintro ⟨key, _, rest, ⟨before, after, blanks, blanks', some, word, rfl⟩, rfl⟩
    have parts : ['\x7b', '\x7b'] ++ before ++ key ++ after ++ ['\x7d', '\x7d'] ++ rest =
        ['\x7b', '\x7b'] ++ (before ++ (key ++ (after ++ (['\x7d', '\x7d'] ++ rest)))) := by simp
    refine ⟨_, parts, before, _, rfl, Nat.zero_le _, blanks, ?_⟩
    refine ⟨key, _, rfl, List.length_pos_iff.mpr some, word, ?_⟩
    exact ⟨after, _, rfl, Nat.zero_le _, blanks', rest, rfl, trivial⟩

theorem braces_decides (text : List Char) :
    Rest.Decides (matchSteps text.toArray braces.steps false done) text 0 placeholders := by
  have closes {q : Nat} : Rest.Decides (matchSteps text.toArray closing false done) text q
      (runsOf blankTest 0 * ({['\x7d', '\x7d']} * ⊤)) := by
    rw [matchSteps_closing]
    refine .run (.word ?_) ?_
    · rw [matchSteps]
      exact Rest.done_decides
    · intro after member
      obtain ⟨rest, rfl, _⟩ := mem_word_mul.mp member
      exact begins_cons '\x7d' _
  rw [braces, placeholders]
  refine .word ?_
  rw [matchSteps_opening]
  exact .run (.mark (.run (.mark closes 1) fun after _ => begins_none after) 0)
    fun after _ => begins_none after

/-- Each run is taken as a whole, since what follows it can be no part of it. -/
theorem braces_leads {key spelling : List Char} (spells : Template.Spells key spelling)
    (front rest : List Char) :
    ∃ before after, spelling = before ++ (key ++ after) ∧
      Rest.Leads (matchSteps (front ++ (spelling ++ rest)).toArray braces.steps false done)
        front.length [] (front ++ spelling).length
        [some (front ++ before).length, some (front ++ before ++ key).length] := by
  obtain ⟨blanks, blanks', separate, separate', present, word, rfl⟩ := spells
  obtain ⟨stop, stop', stop''⟩ := Template.stops_of_parts present word separate' rest
  refine ⟨['\x7b', '\x7b'] ++ blanks, blanks' ++ ['\x7d', '\x7d'], by simp, ?_⟩
  simp only [← holds_blankTest, ← holds_wordTest] at separate separate' word stop stop' stop''
  rw [braces]
  have opened :
      front ++ (['\x7b', '\x7b'] ++ blanks ++ key ++ blanks' ++ ['\x7d', '\x7d'] ++ rest) =
        front ++ (['\x7b', '\x7b'] ++
          (blanks ++ (key ++ (blanks' ++ '\x7d' :: '\x7d' :: rest)))) := by
    simp
  refine Rest.Leads.word opened ?_
  rw [matchSteps_opening, matchSteps_closing]
  refine .run (by simp) separate stop (Nat.zero_le _) (begins_none _)
    (.mark (k := [some _]) rfl ?_)
  refine .run (by simp) word stop' (List.length_pos_iff.mpr present) (begins_none _)
    (.mark (k := [some _, some _]) rfl ?_)
  refine .run (by simp) separate' stop'' (Nat.zero_le _) (begins_cons _ _) ?_
  have closed :
      front ++ (['\x7b', '\x7b'] ++ blanks ++ key ++ blanks' ++ ['\x7d', '\x7d'] ++ rest) =
        front ++ ['\x7b', '\x7b'] ++ blanks ++ key ++ blanks' ++ (['\x7d', '\x7d'] ++ rest) := by
    simp
  refine .word closed ?_
  rw [matchSteps]
  simpa only [List.append_assoc] using Rest.done_leads _ _

/-- At each place, what begins there with a placeholder is matched: its spelling as a whole, and its
key as the first group. -/
theorem matchAt?_braces (front cs : List Char) :
    match Template.placeholder? cs with
    | none => braces.matchAt? (front ++ cs).toArray front.length = none
    | some p => ∃ before after scan,
      front ++ cs = before ++ (p.key ++ after) ∧
      braces.matchAt? (front ++ cs).toArray front.length = some scan ∧
      scan.reached = (front ++ p.spelling).length ∧
      scan.span? 1 = some (before.length, (before ++ p.key).length) := by
  have decides := braces_decides (front ++ cs) front cs ⟨front.length, []⟩ rfl (Nat.zero_le _)
  cases found : Template.placeholder? cs with
  | none =>
    apply Compiled.matchAt?_of_fails
    rw [← Bool.not_eq_true, decides, mem_placeholders]
    rintro ⟨key, spelling, rest, spells, rfl⟩
    exact Template.placeholder?_eq_none_iff.mp found key spelling rest spells rfl
  | some p =>
    obtain ⟨spells, whole⟩ := Template.spells_of_placeholder? found
    obtain ⟨before, after, split, leads⟩ := braces_leads spells front p.rest
    obtain ⟨ends, marks⟩ := leads ⟨front.length, []⟩ rfl
    rw [← whole] at ends marks
    refine ⟨front ++ before, after ++ p.rest, _, ?_, Compiled.matchAt?_of_found rfl ends.1, ends.2,
      ?_⟩
    · rw [whole, split]
      simp
    · simp [Scan.span?, marks]

end Pattern

/-- A name is in an admitted spelling if one of two patterns takes it from its beginning to its
end. -/
theorem isCamelOrConst_eq_takesWhole (name : String) :
    ∃ camel const, Pattern.ofText "[$a-zA-Z][$a-zA-Z0-9]*" = .ok camel ∧
      Pattern.ofText "[A-Z0-9$]+(?:_[A-Z0-9]+)*" = .ok const ∧
      (do return (← camel.takesWhole name) || (← const.takesWhole name)) =
        Except.ok (Name.isCamelOrConst name) := by
  refine ⟨_, _, Pattern.ofText_camel, Pattern.ofText_const, ?_⟩
  rw [Pattern.takesWhole_camel, Pattern.takesWhole_const]
  rfl

/-- An entry is a regular expression if a pattern takes it from its beginning to its end. -/
theorem isSome_regexBody?_eq_takesWhole (entry : String) :
    ∃ slashes, Pattern.ofText "/.*/" = .ok slashes ∧
      slashes.takesWhole entry = .ok (IgnorePattern.regexBody? entry).isSome :=
  ⟨_, Pattern.ofText_slashes, Pattern.takesWhole_slashes entry⟩

/-- A text holds the tag if a pattern is found in it. -/
theorem hasTag_eq_search (text : String) :
    ∃ tag, Pattern.ofText "\\s@private\\b" = .ok tag ∧
      tag.search text = .ok (Comment.hasTag text.toList) :=
  ⟨_, Pattern.ofText_tag, Pattern.search_tag text⟩

/-- At each place of a text, a placeholder is what a pattern matches there, and its key is what the
group of the pattern takes. -/
theorem placeholder?_eq_matchAt? :
    ∃ braces, Pattern.ofText "\\\x7b\\\x7b\\s*(\\w+)\\s*\\\x7d\\\x7d" = .ok braces ∧
      ∀ front cs,
        match Template.placeholder? cs with
        | none => braces.matchAt? (front ++ cs).toArray front.length = none
        | some p => ∃ before after scan,
          front ++ cs = before ++ (p.key ++ after) ∧
          braces.matchAt? (front ++ cs).toArray front.length = some scan ∧
          scan.reached = (front ++ p.spelling).length ∧
          scan.span? 1 = some (before.length, (before ++ p.key).length) :=
  ⟨_, Pattern.ofText_braces, Pattern.matchAt?_braces⟩

end NameLint
