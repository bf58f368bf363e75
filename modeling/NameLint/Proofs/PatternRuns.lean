import NameLint.Pattern.Search

/-!
# Runs of one character

How the search for a pattern meets a repetition of a single character, as many times
as possible. It takes the whole run and then gives characters back until what
follows matches. So it ends behind the run if what follows matches there, and it
matches at all just if what follows does behind some part of the run that is long
enough. Where only one character can follow, the places in front of others are
passed over, which changes nothing else.

Matches that are found one after the other can be taken out of a text.
-/

namespace NameLint.Pattern

namespace Compiled

theorem leftFrom_of_match {compiled : Compiled} {before found after : List Char}
    (nonempty : found ≠ [])
    (ends : compiled.matchEnd? (before ++ (found ++ after)).toArray before.length =
      some (before ++ found).length) :
    compiled.leftFrom (before ++ (found ++ after)).toArray before.length =
      compiled.leftFrom (before ++ (found ++ after)).toArray (before ++ found).length := by
  have longer := List.length_pos_iff.mpr nonempty
  rw [leftFrom, dif_pos (by simp; omega), ends]
  simp [longer]

theorem leftFrom_of_none {compiled : Compiled} {before after : List Char} {c : Char}
    (none : compiled.matchEnd? (before ++ c :: after).toArray before.length = none) :
    compiled.leftFrom (before ++ c :: after).toArray before.length =
      c :: compiled.leftFrom (before ++ c :: after).toArray (before ++ [c]).length := by
  rw [leftFrom, dif_pos (by simp), none]
  simp

theorem leftFrom_end (compiled : Compiled) (text : List Char) :
    compiled.leftFrom text.toArray text.length = [] := by
  rw [leftFrom, dif_neg (by simp)]

end Compiled

namespace Outcome

/-- What remained has matched, up to the place `q`. -/
def EndsAt (o : Outcome) (q : Nat) : Prop :=
  o.found = true ∧ o.scan.reached = q

theorem EndsAt.orElse {o : Outcome} {q : Nat} (h : o.EndsAt q) (next : Scan → Outcome) :
    (o.orElse next).EndsAt q := by
  rw [Outcome.orElse, if_pos h.1]
  exact h

theorem orElse_of_found {o : Outcome} (found : o.found = true) (next : Scan → Outcome) :
    o.orElse next = o :=
  if_pos found

theorem orElse_of_fails {o : Outcome} (fails : o.found = false) (next : Scan → Outcome) :
    o.orElse next = next o.scan := by
  rw [Outcome.orElse, fails]
  rfl

theorem orElse_found_iff {o : Outcome} {next : Scan → Outcome} {later : Prop}
    (decides : ∀ s, (next s).found = true ↔ later) :
    (o.orElse next).found = true ↔ o.found = true ∨ later := by
  cases found : o.found with
  | true =>
    rw [orElse_of_found found, found]
    simp
  | false =>
    rw [orElse_of_fails found, decides]
    simp

theorem found_orBack (o : Outcome) (p : Nat) : (o.orBack p).found = o.found := by
  unfold orBack orElse
  cases found : o.found with
  | true => rw [if_pos rfl, found]
  | false => rfl

end Outcome

theorem done_endsAt (p : Nat) (s : Scan) : (done p s).EndsAt p :=
  ⟨rfl, rfl⟩

theorem Compiled.matchAt?_of_found {compiled : Compiled} {text : Array Char} {p : Nat}
    (start : compiled.canStart text p = true)
    (found : (matchSteps text compiled.steps false done p ⟨p, []⟩).found = true) :
    compiled.matchAt? text p = some (matchSteps text compiled.steps false done p ⟨p, []⟩).scan := by
  unfold matchAt?
  dsimp only
  rw [start, found]
  rfl

theorem Compiled.matchAt?_of_fails {compiled : Compiled} {text : Array Char} {p : Nat}
    (fails : (matchSteps text compiled.steps false done p ⟨p, []⟩).found = false) :
    compiled.matchAt? text p = none := by
  unfold matchAt?
  dsimp only
  rw [fails, Bool.and_false]
  rfl

theorem Compiled.matchEnd?_of_endsAt {compiled : Compiled} {text : Array Char} {p q : Nat}
    (start : compiled.canStart text p = true)
    (ends : (matchSteps text compiled.steps false done p ⟨p, []⟩).EndsAt q) :
    compiled.matchEnd? text p = some q := by
  rw [matchEnd?, matchAt?_of_found start ends.1, Option.map_some, ends.2]

section Run

variable {test : Test} {before run after : List Char} {inLoop : Bool} {rest : Rest} {s : Scan}

theorem runLength_of_split (before : List Char) {n : Nat} (passes : ∀ c ∈ run, test.holds c = true)
    (stops : ∀ c ∈ after.head?, test.holds c = false) (enough : run.length ≤ n) :
    runLength (before ++ (run ++ after)).toArray test n before.length = run.length := by
  induction run generalizing before n with
  | nil =>
    cases n with
    | zero => rfl
    | succ n =>
      have stop : test.holdsAt (before ++ ([] ++ after)).toArray before.length = false := by
        cases after with
        | nil => simp [Test.holdsAt]
        | cons c after => simpa [Test.holdsAt] using stops c rfl
      rw [runLength, if_neg (by rw [stop]; decide)]
      rfl
  | cons c run ih =>
    obtain ⟨n, rfl⟩ : ∃ m, n = m + 1 := ⟨n - 1, by simp at enough; omega⟩
    have pass : test.holdsAt (before ++ (c :: run ++ after)).toArray before.length = true := by
      simpa [Test.holdsAt] using passes c (by simp)
    have later := ih (before ++ [c]) (fun d hd => passes d (by simp [hd]))
      (Nat.le_of_succ_le_succ enough)
    rw [runLength, if_pos pass]
    simpa using later

theorem holds_exactly_iff {c d : Char} : Test.holds c (.exactly d.toNat) = true ↔ c = d := by
  rw [Test.holds, beq_iff_eq, Char.toNat_inj]

/-- Whether a text begins with the one character that can follow, where there is only one. -/
def Begins (next : Option Nat) (cs : List Char) : Prop :=
  ∀ n ∈ next, ∃ c ∈ cs.head?, c.toNat = n

theorem begins_none (cs : List Char) : Begins none cs :=
  fun _ impossible => nomatch impossible

theorem begins_cons (c : Char) (cs : List Char) : Begins (some c.toNat) (c :: cs) := by
  rintro n hn
  cases hn
  exact ⟨c, rfl, rfl⟩

theorem holdsAt_iff (before after : List Char) (test : Test) :
    test.holdsAt (before ++ after).toArray before.length = true ↔
      ∃ c ∈ after.head?, test.holds c = true := by
  cases after with
  | nil => simp [Test.holdsAt]
  | cons c after => simp [Test.holdsAt]

theorem holdsAt_exactly_iff (before after : List Char) (n : Nat) :
    Test.holdsAt (before ++ after).toArray before.length (.exactly n) = true ↔
      Begins (some n) after := by
  rw [holdsAt_iff]
  simp [Begins, Test.holds]

variable {next : Option Nat} {saved : Scan} {otherwise : Scan → Outcome}

theorem attempt_of_begins (begins : Begins next after) :
    backOff.attempt (before ++ after).toArray next inLoop saved rest before.length s otherwise =
      (rest before.length (s.moved before.length)).orElse fun t =>
        otherwise (t.restored saved inLoop) := by
  unfold backOff.attempt
  cases next with
  | none => rfl
  | some n => exact if_pos ((holdsAt_exactly_iff before after n).mpr begins)

theorem attempt_of_not_begins (stuck : ¬ Begins next after) :
    backOff.attempt (before ++ after).toArray next inLoop saved rest before.length s otherwise =
      otherwise s := by
  unfold backOff.attempt
  cases next with
  | none => exact absurd (begins_none after) stuck
  | some n => exact if_neg (mt (holdsAt_exactly_iff before after n).mp stuck)

theorem attempt_found_iff {here later : Prop}
    (decides : ∀ t, (rest before.length t).found = true ↔ here)
    (decides' : ∀ t, (otherwise t).found = true ↔ later) :
    (backOff.attempt (before ++ after).toArray next inLoop saved rest before.length s
      otherwise).found = true ↔ Begins next after ∧ here ∨ later := by
  by_cases begins : Begins next after
  · rw [attempt_of_begins begins, Outcome.orElse_found_iff fun _ => decides' _, decides]
    simp [begins]
  · rw [attempt_of_not_begins begins, decides']
    simp [begins]

/-- What matches at the farthest place is taken there. -/
theorem backOff_of_found (more : Nat) {p : Nat} (place : p + more = before.length)
    (begins : Begins next after)
    (found : (rest before.length (s.moved before.length)).found = true) :
    backOff (before ++ after).toArray next inLoop saved rest p more s =
      rest before.length (s.moved before.length) := by
  cases more with
  | zero =>
    rw [backOff, show p = before.length by omega, attempt_of_begins begins,
      Outcome.orElse_of_found found]
  | succ more =>
    rw [backOff, show p + more + 1 = before.length by omega, attempt_of_begins begins,
      Outcome.orElse_of_found found]

/-- Whether what remains fits behind a part of the run, of `least` characters or more but fewer than
`limit`. -/
def FitsBehind (run after : List Char) (next : Option Nat) (fits : List Char → Prop)
    (least limit : Nat) : Prop :=
  ∃ near far, run = near ++ far ∧ least ≤ near.length ∧ near.length < limit ∧
    Begins next (far ++ after) ∧ fits near

theorem not_fitsBehind_self {fits : List Char → Prop} {least : Nat} :
    ¬ FitsBehind run after next fits least least :=
  fun ⟨_, _, _, low, high, _⟩ => absurd high (Nat.not_lt_of_le low)

section Backing

variable {least : Nat} {fits : List Char → Prop}
  (decides : ∀ near far, run = near ++ far → least ≤ near.length →
    ∀ t, (rest (before ++ near).length t).found = true ↔ fits near)
include decides

/-- A part of the run is tried before the shorter ones. -/
theorem attempt_found_iff_fitsBehind {n : Nat} (long : least ≤ n) (within : n ≤ run.length)
    (shorter : ∀ t, (otherwise t).found = true ↔ FitsBehind run after next fits least n) :
    (backOff.attempt (before ++ (run ++ after)).toArray next inLoop saved rest (before.length + n) s
      otherwise).found = true ↔ FitsBehind run after next fits least (n + 1) := by
  obtain ⟨near, far, rfl, rfl⟩ : ∃ near far, run = near ++ far ∧ near.length = n :=
    ⟨run.take n, run.drop n, (List.take_append_drop n run).symm, List.length_take_of_le within⟩
  have here := decides near far rfl long
  rw [List.append_assoc near, ← List.append_assoc before, ← List.length_append,
    attempt_found_iff here shorter]
  constructor
  · rintro (⟨begins, fit⟩ | ⟨near', far', split, low, high, follows⟩)
    · exact ⟨near, far, rfl, long, Nat.lt_succ_self _, begins, fit⟩
    · exact ⟨near', far', split, low, Nat.lt_succ_of_lt high, follows⟩
  · rintro ⟨near', far', split, low, high, follows⟩
    rcases Nat.lt_or_eq_of_le (Nat.le_of_lt_succ high) with less | same
    · exact Or.inr ⟨near', far', split, low, less, follows⟩
    · obtain ⟨rfl, rfl⟩ := List.append_inj split same.symm
      exact Or.inl follows

/-- Backing off tries each part of the run that is long enough, the longest one first. -/
theorem backOff_found_iff (more : Nat) (within : least + more ≤ run.length) :
    (backOff (before ++ (run ++ after)).toArray next inLoop saved rest (before.length + least) more
      s).found = true ↔ FitsBehind run after next fits least (least + more + 1) := by
  induction more generalizing s with
  | zero =>
    rw [backOff]
    apply attempt_found_iff_fitsBehind decides (Nat.le_refl least) within
    exact fun t => iff_of_false Bool.false_ne_true not_fitsBehind_self
  | succ more ih =>
    rw [backOff, Nat.add_assoc, Nat.add_assoc]
    apply attempt_found_iff_fitsBehind decides (Nat.le_add_right _ _) within
    exact fun t => ih (Nat.le_of_succ_le within)

end Backing

/-- A repetition takes the whole run, as far as it is long enough, and then backs off. -/
theorem matchRun_eq_backOff {least : Nat} (passes : ∀ c ∈ run, test.holds c = true)
    (stops : ∀ c ∈ after.head?, test.holds c = false) (long : least ≤ run.length) :
    ∃ t : Scan, t.marks = s.marks ∧
      matchRun (before ++ (run ++ after)).toArray .most least none test next inLoop rest
          before.length s =
        backOff (before ++ (run ++ after)).toArray next inLoop t rest (before.length + least)
          (run.length - least) t := by
  have room : run.length ≤ (before ++ (run ++ after)).toArray.size - before.length := by simp
  have whole := runLength_of_split before passes stops room
  refine ⟨counted test before.length run.length s, rfl, ?_⟩
  simp only [matchRun, Option.getD_none, Nat.min_self, whole]
  rw [if_neg (by omega), if_neg (by omega), if_neg (by decide)]

/-- A run that is too short is given up. -/
theorem matchRun_of_short {least : Nat} (passes : ∀ c ∈ run, test.holds c = true)
    (stops : ∀ c ∈ after.head?, test.holds c = false) (short : run.length < least) :
    (matchRun (before ++ (run ++ after)).toArray .most least none test next inLoop rest
      before.length s).found = false := by
  have room : run.length ≤ (before ++ (run ++ after)).toArray.size - before.length := by simp
  have whole := runLength_of_split before passes stops room
  simp only [matchRun, Option.getD_none, Nat.min_self, whole]
  split
  · rfl
  · rfl

/-- Where the rest matches behind the whole run, this is the outcome. -/
theorem matchRun_of_found {least : Nat} (passes : ∀ c ∈ run, test.holds c = true)
    (stops : ∀ c ∈ after.head?, test.holds c = false) (long : least ≤ run.length)
    (begins : Begins next after)
    (found : ∀ t : Scan, t.marks = s.marks → (rest (before ++ run).length t).found = true) :
    ∃ t : Scan, t.marks = s.marks ∧
      matchRun (before ++ (run ++ after)).toArray .most least none test next inLoop rest
        before.length s = rest (before ++ run).length t := by
  obtain ⟨t, marks, backs⟩ := matchRun_eq_backOff passes stops long
  have place : before.length + least + (run.length - least) = (before ++ run).length := by
    rw [List.length_append]
    omega
  refine ⟨t.moved (before ++ run).length, marks, ?_⟩
  rw [backs, ← List.append_assoc]
  exact backOff_of_found _ place begins (found _ marks)

theorem matchRun_found_iff {least : Nat} {fits : List Char → Prop}
    (decides : ∀ near far, run = near ++ far → least ≤ near.length →
      ∀ t, (rest (before ++ near).length t).found = true ↔ fits near)
    (passes : ∀ c ∈ run, test.holds c = true) (stops : ∀ c ∈ after.head?, test.holds c = false) :
    (matchRun (before ++ (run ++ after)).toArray .most least none test next inLoop rest
      before.length s).found = true ↔
      ∃ near far, run = near ++ far ∧ least ≤ near.length ∧ Begins next (far ++ after) ∧
        fits near := by
  rcases Nat.lt_or_ge run.length least with short | long
  · rw [matchRun_of_short passes stops short]
    refine iff_of_false Bool.false_ne_true ?_
    rintro ⟨near, far, rfl, low, _⟩
    rw [List.length_append] at short
    omega
  · obtain ⟨t, _, backs⟩ := matchRun_eq_backOff passes stops long
    rw [backs, backOff_found_iff decides _ (by omega)]
    constructor
    · rintro ⟨near, far, split, low, _, follows⟩
      exact ⟨near, far, split, low, follows⟩
    · rintro ⟨near, far, rfl, low, follows⟩
      refine ⟨near, far, rfl, low, ?_, follows⟩
      rw [List.length_append]
      omega

theorem matchRun_endsAt (nonempty : run ≠ []) (passes : ∀ c ∈ run, test.holds c = true)
    (stops : ∀ c ∈ after.head?, test.holds c = false) {q : Nat}
    (ends : ∀ s, (rest (before ++ run).length s).EndsAt q) :
    (matchRun (before ++ (run ++ after)).toArray .most 1 none test none inLoop rest
      before.length s).EndsAt q := by
  obtain ⟨t, _, same⟩ := matchRun_of_found passes stops
    (List.length_pos_iff.mpr nonempty) (begins_none after) fun t _ => (ends t).1
  rw [same]
  exact ends t

theorem matchRun_fails (passes : ∀ c ∈ run, test.holds c = true)
    (stops : ∀ c ∈ after.head?, test.holds c = false)
    (fails : ∀ near far, run = near ++ far → near ≠ [] →
      ∀ s, (rest (before ++ near).length s).found = false) :
    (matchRun (before ++ (run ++ after)).toArray .most 1 none test none inLoop rest
      before.length s).found = false := by
  have decides : ∀ near far, run = near ++ far → 1 ≤ near.length →
      ∀ t, (rest (before ++ near).length t).found = true ↔ False := by
    intro near far split long t
    rw [fails near far split (List.length_pos_iff.mp long) t]
    simp
  rw [← Bool.not_eq_true, matchRun_found_iff decides passes stops]
  rintro ⟨_, _, _, _, _, impossible⟩
  exact impossible

end Run

theorem placeHolds_lineStart (before after : List Char) :
    placeHolds (before ++ after).toArray .none before.length .lineStart = true ↔ before = [] := by
  simp [placeHolds, Flags.none]

/-- A line ends where nothing follows, or a last line feed. -/
theorem placeHolds_lineEnd (before after : List Char) :
    placeHolds (before ++ after).toArray .none before.length .lineEnd = true ↔
      after = [] ∨ after = ['\n'] := by
  cases after with
  | nil => simp [placeHolds]
  | cons c after => simp [placeHolds, Flags.none]

section Steps

variable (text : Array Char) (steps : List Step) (inLoop : Bool) (rest : Rest) (p : Nat) (s : Scan)

theorem matchSteps_cons (step : Step) :
    matchSteps text (step :: steps) inLoop rest =
      matchStep text step inLoop (matchSteps text steps inLoop rest) := by
  rw [matchSteps]

theorem matchSteps_at (flags : Flags) (place : Place) :
    matchSteps text (.at flags place :: steps) inLoop rest p s =
      if placeHolds text flags p place then matchSteps text steps inLoop rest p s else .fail s := by
  rw [matchSteps, matchStep]

theorem matchSteps_run (greed : Greed) (least : Nat) (most : Option Nat) (test : Test)
    (next : Option Nat) :
    matchSteps text (.run greed least most test next :: steps) inLoop rest p s =
      matchRun text greed least most test next inLoop (matchSteps text steps inLoop rest) p s := by
  rw [matchSteps, matchStep]

end Steps

end NameLint.Pattern
