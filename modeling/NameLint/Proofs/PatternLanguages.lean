import Mathlib.Computability.Language
import NameLint.Proofs.PatternRuns

/-!
# The languages of patterns

What remains to be matched decides a language if it matches just where a word of the
language follows, whatever has been matched before. A step in front of it takes a word
of its own language off: a single character, a run, any number of iterations. So the
language of steps in a row is the product of theirs, and the order in which the choices
are tried does not count.

An iteration that takes at least one character is never at the place where the one
before began, and there are fewer of them than characters.
-/

namespace NameLint.Pattern

/-- The words of one character that passes. -/
def charsOf (test : Test) : Language Char :=
  {w | ∃ c, w = [c] ∧ test.holds c = true}

/-- The words of at least so many characters, all of which pass. -/
def runsOf (test : Test) (least : Nat) : Language Char :=
  {w | least ≤ w.length ∧ ∀ c ∈ w, test.holds c = true}

def wordSteps (word : List Char) : List Step :=
  word.map fun c => .char (.exactly c.toNat)

/-- What begins with no character of a word. -/
def wordEnds : Language Char :=
  {w | ∀ c ∈ w.head?, Text.isWord c = false}

theorem mem_wordEnds {w : List Char} : w ∈ wordEnds ↔ ∀ c ∈ w.head?, Text.isWord c = false :=
  Iff.rfl

theorem mem_runsOf {test : Test} {least : Nat} {w : List Char} :
    w ∈ runsOf test least ↔ least ≤ w.length ∧ ∀ c ∈ w, test.holds c = true :=
  Iff.rfl

theorem mem_charsOf_mul {test : Test} {L : Language Char} {cs : List Char} :
    cs ∈ charsOf test * L ↔ ∃ c rest, cs = c :: rest ∧ test.holds c = true ∧ rest ∈ L := by
  rw [Language.mem_mul]
  constructor
  · rintro ⟨_, ⟨c, rfl, passes⟩, rest, member, rfl⟩
    exact ⟨c, rest, rfl, passes, member⟩
  · rintro ⟨c, rest, rfl, passes, member⟩
    exact ⟨[c], ⟨c, rfl, passes⟩, rest, member, rfl⟩

theorem mem_word_mul {word : List Char} {L : Language Char} {cs : List Char} :
    cs ∈ ({word} : Language Char) * L ↔ ∃ rest, cs = word ++ rest ∧ rest ∈ L := by
  rw [Language.mem_mul]
  constructor
  · rintro ⟨_, rfl, rest, member, rfl⟩
    exact ⟨rest, rfl, member⟩
  · rintro ⟨rest, rfl, member⟩
    exact ⟨word, rfl, rest, member, rfl⟩

theorem mem_runsOf_mul {test : Test} {least : Nat} {L : Language Char} {cs : List Char} :
    cs ∈ runsOf test least * L ↔ ∃ near rest, cs = near ++ rest ∧ least ≤ near.length ∧
      (∀ c ∈ near, test.holds c = true) ∧ rest ∈ L := by
  rw [Language.mem_mul]
  constructor
  · rintro ⟨near, ⟨long, passes⟩, rest, member, rfl⟩
    exact ⟨near, rest, rfl, long, passes, member⟩
  · rintro ⟨near, rest, rfl, long, passes, member⟩
    exact ⟨near, ⟨long, passes⟩, rest, member, rfl⟩

namespace Rest

/-- Whether the rest matches, at each place from `q` on, just where a word of the language
follows. -/
def Decides (rest : Rest) (text : List Char) (q : Nat) (L : Language Char) : Prop :=
  ∀ before after s, text = before ++ after → q ≤ before.length →
    ((rest before.length s).found = true ↔ after ∈ L)

variable {rest : Rest} {text : List Char} {q : Nat} {L : Language Char}

theorem Decides.mono (decides : rest.Decides text q L) {q' : Nat} (later : q ≤ q') :
    rest.Decides text q' L :=
  fun before after s split place => decides before after s split (Nat.le_trans later place)

theorem atEnd_decides : Rest.Decides (atEnd text.toArray) text q 1 := by
  rintro before after s rfl -
  rw [Language.mem_one]
  cases after with
  | nil => simp [atEnd, done]
  | cons c after => simp [atEnd, Outcome.fail]

variable {inLoop : Bool} {test : Test}

theorem Decides.char (decides : rest.Decides text (q + 1) L) :
    Rest.Decides (matchStep text.toArray (.char test) inLoop rest) text q (charsOf test * L) := by
  rintro before after s rfl place
  rw [matchStep, mem_charsOf_mul]
  dsimp only
  cases after with
  | nil => simp [Test.holdsAt, Outcome.fail]
  | cons c after =>
    have later := decides (before ++ [c]) after s (by simp) (by simp; omega)
    rw [List.length_append, List.length_singleton] at later
    by_cases passes : test.holds c = true
    · have here := (holdsAt_iff before (c :: after) test).mpr ⟨c, rfl, passes⟩
      rw [if_pos here, later]
      simp [passes]
    · have here : ¬ test.holdsAt (before ++ c :: after).toArray before.length = true := by
        rw [holdsAt_iff]
        simpa using passes
      rw [if_neg here]
      simp [Outcome.fail, passes]

/-- The steps of a word are its characters, one after the other. -/
theorem Decides.word {word : List Char} {steps : List Step}
    (decides : Rest.Decides (matchSteps text.toArray steps inLoop rest) text (q + word.length) L) :
    Rest.Decides (matchSteps text.toArray (wordSteps word ++ steps) inLoop rest) text q
      ({word} * L) := by
  induction word generalizing q with
  | nil =>
    rw [show ({[]} : Language Char) = 1 from rfl, one_mul]
    exact decides
  | cons c word ih =>
    have later := ih (q := q + 1) (decides.mono (by simp; omega))
    have split : ({c :: word} : Language Char) * L =
        charsOf (.exactly c.toNat) * ({word} * L) := by
      ext cs
      simp only [mem_charsOf_mul, mem_word_mul, holds_exactly_iff]
      constructor
      · rintro ⟨rest, rfl, member⟩
        exact ⟨c, _, rfl, rfl, rest, rfl, member⟩
      · rintro ⟨_, _, rfl, rfl, rest, rfl, member⟩
        exact ⟨rest, rfl, member⟩
    rw [wordSteps, List.map_cons, List.cons_append, matchSteps, split]
    exact later.char

theorem wordAt_eq (before after : List Char) :
    wordAt (before ++ after).toArray .none before.length = after.head?.any Text.isWord := by
  cases after <;> simp [wordAt, CharClass.holds, Flags.none]

/-- Behind a character of a word, an edge of the word is where no such character follows. -/
theorem placeHolds_wordEdge {c : Char} (ofWord : Text.isWord c = true) (before after : List Char) :
    placeHolds (before ++ c :: after).toArray .none (before.length + 1) .wordEdge = true ↔
      after ∈ wordEnds := by
  have last : wordAt (before ++ c :: after).toArray .none before.length = true := by
    rw [wordAt_eq]
    simpa using ofWord
  have next : wordAt (before ++ c :: after).toArray .none (before.length + 1) =
      after.head?.any Text.isWord := by
    simpa using wordAt_eq (before ++ [c]) after
  have ends : after ∈ wordEnds ↔ after.head?.any Text.isWord = false := by
    cases after <;> simp [mem_wordEnds]
  rw [placeHolds, atWordEdge, Nat.add_sub_cancel, last, next, ends]
  simp

theorem wordEdge_decides {c : Char} (ofWord : Text.isWord c = true) :
    Rest.Decides (matchSteps text.toArray [.char (.exactly c.toNat), .at .none .wordEdge] inLoop
      done) text q (charsOf (.exactly c.toNat) * wordEnds) := by
  rintro before after s rfl place
  rw [matchSteps, matchStep, mem_charsOf_mul]
  dsimp only
  cases after with
  | nil => simp [Test.holdsAt, Outcome.fail]
  | cons d after =>
    have here := holdsAt_iff before (d :: after) (.exactly c.toNat)
    simp only [List.head?_cons, Option.mem_some_iff, exists_eq_left', holds_exactly_iff] at here
    by_cases same : d = c
    · subst same
      have edge := placeHolds_wordEdge ofWord before after
      rw [if_pos (here.mpr rfl), matchSteps_at]
      by_cases ends : after ∈ wordEnds
      · rw [if_pos (edge.mpr ends), matchSteps]
        simp [done, holds_exactly_iff, ends]
      · rw [if_neg (mt edge.mp ends)]
        simp [Outcome.fail, ends]
    · rw [if_neg (mt here.mp same)]
      simp [Outcome.fail, holds_exactly_iff, same]

theorem done_decides : Rest.Decides done text q ⊤ :=
  fun _ _ _ _ _ => iff_of_true rfl trivial

theorem Decides.mark (decides : rest.Decides text q L) (slot : Nat) :
    Rest.Decides (matchStep text.toArray (.mark slot) inLoop rest) text q L := by
  intro before after s split place
  rw [matchStep]
  exact decides before after _ split place

/-- The characters up to the first that does not pass. -/
theorem exists_run (test : Test) (cs : List Char) :
    ∃ run behind, cs = run ++ behind ∧ (∀ c ∈ run, test.holds c = true) ∧
      ∀ c ∈ behind.head?, test.holds c = false := by
  refine ⟨cs.takeWhile (test.holds ·), cs.dropWhile (test.holds ·),
    List.takeWhile_append_dropWhile.symm, fun c member => ?_, fun c first => ?_⟩
  · exact List.all_eq_true.mp List.all_takeWhile c member
  · have stop := List.head?_dropWhile_not (test.holds ·) cs
    rw [first] at stop
    simpa using stop

/-- What passes in front of a text is a part of the run it begins with. -/
theorem part_of_run {run behind near rest : List Char}
    (stops : ∀ c ∈ behind.head?, test.holds c = false) (passes : ∀ c ∈ near, test.holds c = true)
    (split : run ++ behind = near ++ rest) : ∃ far, run = near ++ far ∧ rest = far ++ behind := by
  rcases List.append_eq_append_iff.mp split with ⟨more, rfl, rfl⟩ | ⟨far, rfl, rfl⟩
  · cases more with
    | nil => exact ⟨[], by simp, by simp⟩
    | cons c more =>
      have stop := stops c rfl
      rw [passes c (by simp)] at stop
      cases stop
  · exact ⟨far, rfl, rfl⟩

/-- A run takes any part of what passes. A character that has to follow is one that what remains
begins with. -/
theorem Decides.run {least : Nat} {next : Option Nat} (decides : rest.Decides text (q + least) L)
    (follows : ∀ after ∈ L, Begins next after) :
    Rest.Decides (matchStep text.toArray (.run .most least none test next) inLoop rest) text q
      (runsOf test least * L) := by
  rintro before after s rfl place
  obtain ⟨run, behind, rfl, passes, stops⟩ := exists_run test after
  have fits : ∀ near far, run = near ++ far → least ≤ near.length →
      ∀ t, (rest (before ++ near).length t).found = true ↔
        ∃ far, run = near ++ far ∧ far ++ behind ∈ L := by
    rintro near far rfl long t
    rw [decides (before ++ near) (far ++ behind) t (by simp) (by simp; omega)]
    simp
  rw [matchStep, matchRun_found_iff fits passes stops, mem_runsOf_mul]
  constructor
  · rintro ⟨near, _, -, long, -, far, rfl, member⟩
    exact ⟨near, far ++ behind, by simp, long, fun c hc => passes c (by simp [hc]), member⟩
  · rintro ⟨near, rest, split, long, passes', member⟩
    obtain ⟨far, rfl, rfl⟩ := part_of_run stops passes' split
    exact ⟨near, far, rfl, long, follows _ member, far, rfl, member⟩

/-- Iterations that take at least one character each are tried as long as there are characters. -/
theorem Decides.loopMost {body : Rest → Rest} {W : Language Char}
    (takes : ∀ {rest : Rest} {q : Nat} {L : Language Char}, rest.Decides text (q + 1) L →
      (body rest).Decides text q (W * L))
    (decides : rest.Decides text q L) {fuel k : Nat} {last : Option Nat}
    (enough : text.length < q + fuel) (later : ∀ p ∈ last, p < q) :
    Rest.Decides (Pattern.loopMost body 0 none rest fuel k last) text q
      (KStar.kstar W * L) := by
  induction fuel generalizing q k last with
  | zero =>
    rintro before after s rfl place
    rw [List.length_append] at enough
    omega
  | succ fuel ih =>
    intro before after s split place
    have next : last ≠ some before.length := by
      rintro rfl
      exact absurd (later _ rfl) (by omega)
    have later' : Rest.Decides (Pattern.loopMost body 0 none rest fuel (k + 1) (some before.length))
        text (before.length + 1) (KStar.kstar W * L) :=
      ih (decides.mono (by omega)) (by omega) (by simp)
    have again := takes later'
    have first := again before after (s.moved before.length) split (Nat.le_refl _)
    have passed := fun t => decides before after t split place
    have unrolled : KStar.kstar W * L = W * (KStar.kstar W * L) + L := by
      conv_lhs => rw [← Language.one_add_self_mul_kstar_eq_kstar]
      rw [add_mul, one_mul, mul_assoc, add_comm]
    rw [Pattern.loopMost, unrolled, Language.mem_add, ← first]
    dsimp only
    rw [if_neg (Nat.not_lt_zero k), if_pos (by simp [isBelow, next])]
    exact Outcome.orElse_found_iff fun t => by rw [Outcome.found_orBack, passed]

theorem Decides.loop {body : List Step} {W : Language Char}
    (takes : ∀ {rest : Rest} {q : Nat} {L : Language Char}, rest.Decides text (q + 1) L →
      Rest.Decides (matchSteps text.toArray body true rest) text q (W * L))
    (decides : rest.Decides text q L) :
    Rest.Decides (matchStep text.toArray (.loop false 0 none body) inLoop rest) text q
      (KStar.kstar W * L) := by
  rw [matchStep, if_neg Bool.false_ne_true]
  refine Decides.loopMost takes decides ?_ (by simp)
  have square := Nat.le_mul_self (text.length + 2)
  rw [iterationLimit, List.size_toArray]
  omega

end Rest

/-! What a match leaves -/

namespace Rest

/-- Whether the rest matches at `p` up to `q`, and turns the marks `m` into `n`. -/
def Leads (rest : Rest) (p : Nat) (m : List (Option Nat)) (q : Nat)
    (n : List (Option Nat)) : Prop :=
  ∀ s, s.marks = m → (rest p s).EndsAt q ∧ (rest p s).scan.marks = n

variable {rest : Rest} {text before after : List Char} {inLoop : Bool}
  {m n : List (Option Nat)} {q : Nat} {steps : List Step}

theorem done_leads (p : Nat) (m : List (Option Nat)) : Rest.Leads done p m p m :=
  fun s marks => ⟨done_endsAt p s, marks⟩

theorem Leads.char {c : Char} {test : Test} (split : text = before ++ c :: after)
    (passes : test.holds c = true) (leads : rest.Leads (before ++ [c]).length m q n) :
    Rest.Leads (matchStep text.toArray (.char test) inLoop rest) before.length m q n := by
  have here := (holdsAt_iff before (c :: after) test).mpr ⟨c, rfl, passes⟩
  rw [List.length_append, List.length_singleton] at leads
  rw [← split] at here
  intro s marks
  rw [matchStep]
  dsimp only
  rw [if_pos here]
  exact leads s marks

theorem Leads.word {word : List Char} (split : text = before ++ (word ++ after))
    (leads : Rest.Leads (matchSteps text.toArray steps inLoop rest) (before ++ word).length m q n) :
    Rest.Leads (matchSteps text.toArray (wordSteps word ++ steps) inLoop rest) before.length m q
      n := by
  induction word generalizing before with
  | nil => simpa [wordSteps] using leads
  | cons c word ih =>
    have unrolled := matchSteps_cons text.toArray (wordSteps word ++ steps) inLoop rest
      (.char (.exactly c.toNat))
    rw [show before ++ c :: word = before ++ [c] ++ word by simp] at leads
    rw [wordSteps, List.map_cons, List.cons_append, ← wordSteps, unrolled]
    exact .char split (holds_exactly_iff.mpr rfl) (ih (by simpa using split) leads)

theorem Leads.mark {p slot : Nat} {k : List (Option Nat)}
    (marked : (Scan.mark ⟨p, m⟩ slot p).marks = k) (leads : rest.Leads p k q n) :
    Rest.Leads (matchStep text.toArray (.mark slot) inLoop rest) p m q n := by
  rintro s rfl
  rw [matchStep]
  refine leads _ (Eq.trans ?_ marked)
  unfold Scan.mark
  split <;> rfl

theorem Leads.run {run : List Char} {test : Test} {least : Nat} {next : Option Nat}
    (split : text = before ++ (run ++ after)) (passes : ∀ c ∈ run, test.holds c = true)
    (stops : ∀ c ∈ after.head?, test.holds c = false) (long : least ≤ run.length)
    (begins : Begins next after) (leads : rest.Leads (before ++ run).length m q n) :
    Rest.Leads (matchStep text.toArray (.run .most least none test next) inLoop rest)
      before.length m q n := by
  subst split
  intro s marks
  obtain ⟨t, same, result⟩ := matchRun_of_found passes stops long begins
    fun t own => (leads t (own.trans marks)).1.1
  rw [matchStep, result]
  exact leads t (same.trans marks)

end Rest

/-! Patterns without groups -/

theorem marks_restored {s saved : Scan} (marks : s.marks = []) (marks' : saved.marks = [])
    (deep : Bool) : (s.restored saved deep).marks = [] := by
  cases deep with
  | true => exact marks'
  | false => simp [Scan.restored, marks]

theorem Outcome.marks_orElse {o : Outcome} {next : Scan → Outcome} (marks : o.scan.marks = [])
    (later : ∀ t : Scan, t.marks = [] → (next t).scan.marks = []) :
    (o.orElse next).scan.marks = [] := by
  unfold Outcome.orElse
  split
  · exact marks
  · exact later _ marks

namespace Rest

def Unmarked (rest : Rest) : Prop :=
  ∀ p s, s.marks = [] → (rest p s).scan.marks = []

variable {rest : Rest} {text : Array Char} {inLoop : Bool} {test : Test}

theorem done_unmarked : Unmarked done :=
  fun _ _ marks => marks

theorem atEnd_unmarked : Unmarked (atEnd text) := by
  intro p s marks
  unfold atEnd
  split <;> exact marks

theorem Unmarked.char (unmarked : rest.Unmarked) :
    Rest.Unmarked (matchStep text (.char test) inLoop rest) := by
  intro p s marks
  rw [matchStep]
  dsimp only
  split
  · exact unmarked _ s marks
  · exact marks

theorem Unmarked.at (unmarked : rest.Unmarked) (flags : Flags) (place : Place) :
    Rest.Unmarked (matchStep text (.at flags place) inLoop rest) := by
  intro p s marks
  rw [matchStep]
  dsimp only
  split
  · exact unmarked _ s marks
  · exact marks

theorem Unmarked.word {word : List Char} {steps : List Step}
    (unmarked : Rest.Unmarked (matchSteps text steps inLoop rest)) :
    Rest.Unmarked (matchSteps text (wordSteps word ++ steps) inLoop rest) := by
  induction word with
  | nil => exact unmarked
  | cons c word ih =>
    rw [wordSteps, List.map_cons, List.cons_append, matchSteps]
    exact ih.char

theorem Unmarked.backOff (unmarked : rest.Unmarked) {next : Option Nat} {saved s : Scan}
    (marks : s.marks = []) (marks' : saved.marks = []) (p more : Nat) :
    (Pattern.backOff text next inLoop saved rest p more s).scan.marks = [] := by
  have attempt : ∀ {q : Nat} {s : Scan} {otherwise : Scan → Outcome}, s.marks = [] →
      (∀ t : Scan, t.marks = [] → (otherwise t).scan.marks = []) →
      (backOff.attempt text next inLoop saved rest q s otherwise).scan.marks = [] := by
    intro q s otherwise marks later
    have here := Outcome.marks_orElse (unmarked q (s.moved q) marks) fun t own =>
      later (t.restored saved inLoop) (marks_restored own marks' inLoop)
    unfold backOff.attempt
    cases next with
    | none => exact here
    | some n =>
      dsimp only
      split
      · exact here
      · exact later s marks
  induction more generalizing s with
  | zero =>
    rw [Pattern.backOff]
    exact attempt marks fun t own => own
  | succ more ih =>
    rw [Pattern.backOff]
    exact attempt marks fun t own => ih own

theorem Unmarked.run (unmarked : rest.Unmarked) {least : Nat} {most next : Option Nat} :
    Rest.Unmarked (matchStep text (.run .most least most test next) inLoop rest) := by
  intro p s marks
  simp only [matchStep, matchRun]
  split
  · exact marks
  · split
    · exact marks
    · rw [if_neg (by decide)]
      apply unmarked.backOff
      · exact marks
      · exact marks

theorem Unmarked.loop {body : List Step} (unmarked : rest.Unmarked)
    (inner : ∀ {rest : Rest}, rest.Unmarked → Rest.Unmarked (matchSteps text body true rest))
    {least : Nat} {most : Option Nat} :
    Rest.Unmarked (matchStep text (.loop false least most body) inLoop rest) := by
  rw [matchStep, if_neg Bool.false_ne_true]
  generalize least + iterationLimit text = fuel
  suffices all : ∀ k last, Rest.Unmarked
      (Pattern.loopMost (matchSteps text body true) least most rest fuel k last) from all 0 none
  have back : ∀ {o : Outcome} {p : Nat}, o.scan.marks = [] → (o.orBack p).scan.marks = [] :=
    fun marks => Outcome.marks_orElse marks fun _ own => own
  induction fuel with
  | zero => exact fun _ _ _ _ marks => marks
  | succ fuel ih =>
    intro k last p s marks
    rw [Pattern.loopMost]
    dsimp only
    split
    · exact back (inner (ih _ _) p _ marks)
    · split
      · exact Outcome.marks_orElse (inner (ih _ _) p _ marks) fun t own =>
          back (unmarked p _ (marks_restored own marks true))
      · exact back (unmarked p _ marks)

end Rest

namespace Compiled

/-- A pattern without groups, whose steps decide a language up to the end of the text, takes the
words that a recognizer of the language takes. -/
theorem takesWhole_of_decides {compiled : Compiled} {text : String} {L : Language Char}
    {recognizes : List Char → Bool}
    (decides : Rest.Decides
      (matchSteps text.toList.toArray compiled.steps false (atEnd text.toList.toArray))
      text.toList 0 L)
    (unmarked : Rest.Unmarked
      (matchSteps text.toList.toArray compiled.steps false (atEnd text.toList.toArray)))
    (least : ∀ w ∈ L, compiled.least ≤ w.length) (same : ∀ w, recognizes w = true ↔ w ∈ L) :
    compiled.takesWhole text = .ok (recognizes text.toList) := by
  have found := decides [] text.toList ⟨0, []⟩ rfl (Nat.le_refl 0)
  have marks := unmarked 0 ⟨0, []⟩ rfl
  rw [List.length_nil, ← same] at found
  unfold takesWhole
  dsimp only
  rw [Scan.isCrossed, marks]
  cases taken : recognizes text.toList with
  | true =>
    have long := least _ ((same _).mp taken)
    rw [found.mpr taken, if_neg (by simpa using long)]
    rfl
  | false =>
    have missed : (matchSteps text.toList.toArray compiled.steps false
        (atEnd text.toList.toArray) 0 ⟨0, []⟩).found = false := by
      rw [Bool.eq_false_iff, ne_eq, found, taken]
      decide
    rw [missed, if_pos (by simp)]
    rfl

/-- Whether a pattern without groups matches at one of the places. -/
theorem searchAt_of_unmarked {compiled : Compiled} {text : Array Char}
    (unmarked : Rest.Unmarked (matchSteps text compiled.steps false done)) (places : List Nat) :
    compiled.searchAt text places = .ok (places.any fun p =>
      compiled.canStart text p && (matchSteps text compiled.steps false done p ⟨p, []⟩).found) := by
  induction places with
  | nil => rfl
  | cons p places ih =>
    have marks := unmarked p ⟨p, []⟩ rfl
    have uncrossed : (matchSteps text compiled.steps false done p ⟨p, []⟩).scan.isCrossed =
        false := by
      rw [Scan.isCrossed, marks]
      rfl
    rw [searchAt, List.any_cons]
    cases compiled.canStart text p with
    | false => exact ih
    | true =>
      cases found : (matchSteps text compiled.steps false done p ⟨p, []⟩).found with
      | false => simpa [found] using ih
      | true => simp [found, uncrossed, pure, Except.pure]

/-- Where a word that is long enough follows, the search looks for a match. -/
theorem lt_startCount {compiled : Compiled} (some : 1 ≤ compiled.least) {before after : List Char}
    (long : compiled.least ≤ after.length) :
    before.length < compiled.startCount (before ++ after).toArray := by
  unfold startCount
  rw [List.size_toArray, List.length_append, Nat.max_eq_right some]
  split <;> omega

theorem le_of_lt_startCount {compiled : Compiled} {text : Array Char} {p : Nat}
    (within : p < compiled.startCount text) : p ≤ text.size := by
  unfold startCount at within
  split at within <;> omega

/-- A pattern without groups, whose steps decide a language, is found where a word of the language
begins. -/
theorem search_of_decides {compiled : Compiled} {text : String} {L : Language Char}
    (decides : Rest.Decides (matchSteps text.toList.toArray compiled.steps false done)
      text.toList 0 L)
    (unmarked : Rest.Unmarked (matchSteps text.toList.toArray compiled.steps false done))
    (some : 1 ≤ compiled.least) (least : ∀ w ∈ L, compiled.least ≤ w.length)
    (starts : ∀ before after, text.toList = before ++ after → after ∈ L →
      compiled.canStart text.toList.toArray before.length = true) :
    ∃ found, compiled.search text = .ok found ∧
      (found = true ↔ ∃ before after, text.toList = before ++ after ∧ after ∈ L) := by
  unfold search
  dsimp only
  rw [searchAt_of_unmarked unmarked]
  split
  · rename_i short
    refine ⟨false, rfl, iff_of_false Bool.false_ne_true ?_⟩
    rintro ⟨before, after, split, member⟩
    have long := least _ member
    rw [List.size_toArray, split, List.length_append] at short
    omega
  · refine ⟨_, rfl, ?_⟩
    rw [List.any_eq_true]
    constructor
    · rintro ⟨p, near, hit⟩
      obtain ⟨_, found⟩ := Bool.and_eq_true_iff.mp hit
      have inside := le_of_lt_startCount (List.mem_range.mp near)
      have place : (text.toList.take p).length = p := List.length_take_of_le inside
      have split := (List.take_append_drop p text.toList).symm
      refine ⟨text.toList.take p, text.toList.drop p, split, ?_⟩
      rw [← decides _ _ ⟨p, []⟩ split (Nat.zero_le _), place]
      exact found
    · rintro ⟨before, after, split, member⟩
      have within : before.length < compiled.startCount text.toList.toArray := by
        rw [split]
        exact lt_startCount some (least _ member)
      refine ⟨before.length, List.mem_range.mpr within, ?_⟩
      rw [starts before after split member, Bool.true_and,
        decides before after _ split (Nat.zero_le _)]
      exact member

end Compiled

end NameLint.Pattern
