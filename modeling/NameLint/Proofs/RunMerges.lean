import NameLint.Proofs.SortedRuns
import NameLint.Proofs.StableSort

/-!
# Merging runs

Two runs that go up are merged into one list that goes up, with the items that may
stand in either order as they stood. What is taken from one run is not asked for
against all of the other: it is enough that it goes before the item that the other
run begins with. So a leap needs few comparisons, and an item at its end none.
-/

namespace NameLint.RunSort

open StableSort (SameTies)

variable {α : Type} {before : α → α → Except Fault Bool} {le : α → α → Bool} {P : α → Prop}

section Search

variable {goes : α → Except Fault Bool} {p : α → Bool} {front back : List α}

theorem mem_of_getElem? {i : Nat} {x : α} (h : (front ++ back)[i]? = some x) :
    i < front.length ∧ x ∈ front ∨ front.length ≤ i ∧ x ∈ back := by
  rcases Nat.lt_or_ge i front.length with short | long
  · rw [List.getElem?_append_left short] at h
    exact .inl ⟨short, List.mem_of_getElem? h⟩
  · rw [List.getElem?_append_right long] at h
    exact .inr ⟨long, List.mem_of_getElem? h⟩

theorem halve_eq (answers : ∀ x ∈ front ++ back, goes x = .ok (p x))
    (pass : ∀ x ∈ front, p x = true)
    (stop : ∀ x ∈ back, p x = false) (way : Way) {low high : Nat} (above : low ≤ front.length)
    (below : front.length ≤ high) (inside : high ≤ (front ++ back).length) :
    halve goes way (front ++ back) low high = .ok front.length := by
  induction low, high using halve.induct way (front ++ back) with
  | case1 low high some middle none =>
    have : middle < high := by omega
    rw [List.getElem?_eq_none_iff] at none
    omega
  | case2 low high some middle x found right left =>
    have inner : low ≤ middle ∧ middle < high := by omega
    simp only [middle] at found
    rw [halve, dif_pos some]
    simp only [found]
    rw [answers x (List.mem_of_getElem? found)]
    rcases mem_of_getElem? found with ⟨early, member⟩ | ⟨late, member⟩
    · rw [pass x member]
      exact right (by omega) below inside
    · rw [stop x member]
      exact left above (by omega) (by omega)
  | case3 low high none =>
    rw [halve, dif_neg none]
    have : low = front.length := by omega
    rw [this]
    rfl

theorem leap_eq (answers : ∀ x ∈ front ++ back, goes x = .ok (p x)) (pass : ∀ x ∈ front, p x = true)
    (stop : ∀ x ∈ back, p x = false) (way : Way) {last reach : Nat} (near : last < front.length) :
    leap goes way (front ++ back) last reach = .ok front.length := by
  induction last, reach using leap.induct (front ++ back) with
  | case1 last reach none =>
    rw [leap]
    split
    · exact halve_eq answers pass stop way near (by simp) (Nat.le_refl _)
    · rename_i some
      rw [none] at some
      cases some
  | case2 last reach x found further =>
    have inside := (List.getElem?_eq_some_iff.mp found).1
    rw [leap]
    split
    · rename_i none
      rw [none] at found
      cases found
    · rename_i x' found'
      cases found.symm.trans found'
      rw [answers x (List.mem_of_getElem? found)]
      rcases mem_of_getElem? found with ⟨early, member⟩ | ⟨late, member⟩
      · rw [pass x member]
        exact further early
      · rw [stop x member]
        exact halve_eq answers pass stop way near late (Nat.le_of_lt inside)

theorem gallop_eq (answers : ∀ x ∈ front ++ back, goes x = .ok (p x))
    (pass : ∀ x ∈ front, p x = true) (stop : ∀ x ∈ back, p x = false) (way : Way) :
    gallop goes way (front ++ back) = .ok front.length := by
  cases front with
  | nil =>
    cases back with
    | nil => rfl
    | cons x back =>
      rw [List.nil_append, gallop, answers x List.mem_cons_self, stop x List.mem_cons_self]
      rfl
  | cons x front =>
    rw [List.cons_append, gallop, answers x List.mem_cons_self, pass x List.mem_cons_self]
    exact leap_eq answers pass stop way (Nat.zero_lt_succ _)

end Search

/-- Where a test fails for good once it fails, it cuts a list in two. -/
theorem exists_cut {p : α → Bool} {items : List α}
    (falls : items.Pairwise fun x y => p y = true → p x = true) :
    ∃ front back, items = front ++ back ∧ (∀ x ∈ front, p x = true) ∧
      ∀ x ∈ back, p x = false := by
  refine ⟨items.takeWhile p, items.dropWhile p, List.takeWhile_append_dropWhile.symm, ?_, ?_⟩
  · exact fun x => List.all_eq_true.mp List.all_takeWhile x
  · induction items with
    | nil => simp
    | cons x rest ih =>
      obtain ⟨first, falls⟩ := List.pairwise_cons.mp falls
      rw [List.dropWhile_cons]
      split
      · exact ih falls
      · rename_i stops
        intro y member
        rcases List.mem_cons.mp member with rfl | member
        · simpa using stops
        · exact Bool.eq_false_iff.mpr fun passes => stops (first y member passes)

/-- Whether comparing items with the property is asking an order. -/
structure Compares (before : α → α → Except Fault Bool) (le : α → α → Bool) (P : α → Prop) :
    Prop where
  trans : ∀ a b c, le a b → le b c → le a c
  total : ∀ a b, le a b || le b a
  compares : ∀ x y, P x → P y → before x y = .ok (!le y x)

namespace Compares

theorem le_of_not_le (h : Compares before le P) {x y : α} (not : le x y = false) :
    le y x = true := by
  simpa [not] using h.total x y

end Compares

namespace Way

/-- The order in which a way meets the items of a run. -/
def rel (le : α → α → Bool) : Way → α → α → Bool
  | .forward => le
  | .backward => fun x y => le y x

/-- Whether `y` of the later run is met before `x` of the earlier one. -/
def laterFirst (le : α → α → Bool) : Way → α → α → Bool
  | .forward => fun x y => !le x y
  | .backward => le

/-- Two runs as a way meets them, one after the other. -/
def join (earlier later : List α) : Way → List α
  | .forward => earlier ++ later
  | .backward => later ++ earlier

theorem laterFirst_forward {x y : α} :
    Way.forward.laterFirst le x y = true ↔ le x y = false := by
  rw [laterFirst, Bool.not_eq_true']

theorem not_laterFirst_forward {x y : α} :
    Way.forward.laterFirst le x y = false ↔ le x y = true := by
  rw [laterFirst, Bool.not_eq_false']

theorem mem_join {way : Way} {earlier later : List α} {x : α} :
    x ∈ way.join earlier later ↔ x ∈ earlier ∨ x ∈ later := by
  cases way with
  | forward => exact List.mem_append
  | backward => exact List.mem_append.trans or_comm

end Way

/-- A list that is met going up, with the items of two runs. -/
structure Meets (le : α → α → Bool) (way : Way) (earlier later out : List α) : Prop where
  up : out.Pairwise fun x y => way.rel le x y = true
  same : SameTies le out (way.join earlier later)

namespace Compares

variable {way : Way} {x x' y y' : α} {earlier later taken out : List α}

theorem rel_of_laterFirst (h : Compares before le P) (first : way.laterFirst le x y = true) :
    way.rel le y x = true := by
  cases way with
  | forward => exact h.le_of_not_le (Way.laterFirst_forward.mp first)
  | backward => exact first

theorem rel_of_not_laterFirst (h : Compares before le P) (second : way.laterFirst le x y = false) :
    way.rel le x y = true := by
  cases way with
  | forward => exact Way.not_laterFirst_forward.mp second
  | backward => exact h.le_of_not_le second

theorem laterFirst_of_rel (h : Compares before le P) (first : way.laterFirst le x y = true)
    (behind : way.rel le x x' = true) (ahead : way.rel le y' y = true) :
    way.laterFirst le x' y' = true := by
  cases way with
  | forward =>
    refine Way.laterFirst_forward.mpr (Bool.eq_false_iff.mpr fun less => ?_)
    have less' := h.trans x x' y behind (h.trans x' y' y less ahead)
    exact Bool.eq_false_iff.mp (Way.laterFirst_forward.mp first) less'
  | backward => exact h.trans x' x y' behind (h.trans x y y' first ahead)

theorem rel_self (h : Compares before le P) (way : Way) (x : α) : way.rel le x x = true := by
  have self : le x x = true := by simpa using h.total x x
  cases way with
  | forward => exact self
  | backward => exact self

theorem laterNext_eq (h : Compares before le P) (way : Way) (has : P x) (has' : P y) :
    Merging.laterNext before way x y = .ok (way.laterFirst le x y) := by
  cases way with
  | forward => exact h.compares y x has' has
  | backward =>
    rw [Merging.laterNext, h.compares y x has' has]
    exact congrArg Except.ok (Bool.not_not _)

/-- What goes before the first of the earlier run goes before all of it. -/
theorem goes_before (h : Compares before le P) (first : way.laterFirst le x y = true)
    (up : (x :: earlier).Pairwise fun u v => way.rel le u v = true) :
    ∀ u ∈ x :: earlier, way.laterFirst le u y = true := by
  intro u member
  rcases List.mem_cons.mp member with rfl | member
  · exact first
  · exact h.laterFirst_of_rel first (List.rel_of_pairwise_cons up member) (h.rel_self way y)

/-- What stays before the first of the later run stays before all of it. -/
theorem stays_before (h : Compares before le P) (second : way.laterFirst le x y = false)
    (up : (y :: later).Pairwise fun u v => way.rel le u v = true) :
    ∀ v ∈ y :: later, way.laterFirst le x v = false := by
  intro v member
  rcases List.mem_cons.mp member with rfl | member
  · exact second
  · refine Bool.eq_false_iff.mpr fun first => Bool.eq_false_iff.mp second ?_
    exact h.laterFirst_of_rel first (h.rel_self way x) (List.rel_of_pairwise_cons up member)

theorem meets_earlier (h : Compares before le P)
    (up : (taken ++ earlier).Pairwise fun u v => way.rel le u v = true)
    (stay : ∀ u ∈ taken, ∀ v ∈ later, way.laterFirst le u v = false)
    (meets : Meets le way earlier later out) :
    Meets le way (taken ++ earlier) later (taken ++ out) := by
  obtain ⟨up', _, across⟩ := List.pairwise_append.mp up
  constructor
  · refine List.pairwise_append.mpr ⟨up', meets.up, fun u member v member' => ?_⟩
    rcases Way.mem_join.mp (meets.same.mem h.total member') with member' | member'
    · exact across u member v member'
    · exact h.rel_of_not_laterFirst (stay u member v member')
  · have behind := (SameTies.refl taken).append meets.same
    cases way with
    | forward =>
      rw [Way.join, List.append_assoc]
      exact behind
    | backward =>
      have apart : ∀ u ∈ taken, ∀ v ∈ later, StableSort.ties le u v = false := by
        intro u member v member'
        have less : le u v = false := stay u member v member'
        rw [StableSort.ties, less, Bool.false_and]
      have moved := (SameTies.swap h.trans apart).append (SameTies.refl earlier)
      rw [List.append_assoc, List.append_assoc] at moved
      exact behind.trans moved

theorem meets_later (h : Compares before le P)
    (up : (taken ++ later).Pairwise fun u v => way.rel le u v = true)
    (go : ∀ u ∈ earlier, ∀ v ∈ taken, way.laterFirst le u v = true)
    (meets : Meets le way earlier later out) :
    Meets le way earlier (taken ++ later) (taken ++ out) := by
  obtain ⟨up', _, across⟩ := List.pairwise_append.mp up
  constructor
  · refine List.pairwise_append.mpr ⟨up', meets.up, fun u member v member' => ?_⟩
    rcases Way.mem_join.mp (meets.same.mem h.total member') with member' | member'
    · exact h.rel_of_laterFirst (go v member' u member)
    · exact across u member v member'
  · have behind := (SameTies.refl taken).append meets.same
    cases way with
    | forward =>
      have apart : ∀ v ∈ taken, ∀ u ∈ earlier, StableSort.ties le v u = false := by
        intro v member u member'
        have less := Way.laterFirst_forward.mp (go u member' v member)
        rw [StableSort.ties, less, Bool.and_false]
      have moved := (SameTies.swap h.trans apart).append (SameTies.refl later)
      rw [List.append_assoc, List.append_assoc] at moved
      exact behind.trans moved
    | backward =>
      rw [Way.join, List.append_assoc]
      exact behind

end Compares

namespace Merging

/-- Whether the item that is met last of all is the last of the run that a merge stops short of. -/
def EndsRight (le : α → α → Bool) (way : Way) (earlier later : List α) : Prop :=
  match way with
  | .forward => ∀ x ∈ earlier.getLast?, ∀ y ∈ later, way.laterFirst le x y = true
  | .backward => ∀ y ∈ later.getLast?, ∀ x ∈ earlier, way.laterFirst le x y = false

/-- Whether an item that is taken without a question is the next one. -/
def TakesRight (le : α → α → Bool) (way : Way) (earlier later : List α) (pace : Pace) : Prop :=
  ∀ x ∈ earlier.head?, ∀ y ∈ later.head?,
    match pace with
    | .oneLater _ => way.laterFirst le x y = true
    | .oneEarlier _ _ => way.laterFirst le x y = false
    | _ => True

/-- What a merge keeps to, until it is done. -/
structure Fits (le : α → α → Bool) (P : α → Prop) (way : Way) (s : Merging α) : Prop where
  up : s.earlier.Pairwise fun x y => way.rel le x y = true
  up' : s.later.Pairwise fun x y => way.rel le x y = true
  all : ∀ x ∈ s.earlier, P x
  all' : ∀ y ∈ s.later, P y
  ends : EndsRight le way s.earlier s.later
  takes : TakesRight le way s.earlier s.later s.pace

/-- Whether taking these items leaves a merge that fits, and they come before what it gives. -/
structure Leads (le : α → α → Bool) (P : α → Prop) (way : Way) (s : Merging α)
    (result : List α × Merging α) : Prop where
  fits : result.2.Fits le P way
  meets : ∀ out, Meets le way result.2.earlier result.2.later out →
    Meets le way s.earlier s.later (result.1 ++ out)

variable {way : Way} {s : Merging α} {n : Nat} {pace : Pace}

theorem EndsRight.drop {earlier later : List α} (ends : EndsRight le way earlier later)
    (m n : Nat) : EndsRight le way (earlier.drop m) (later.drop n) := by
  have last {l : List α} {k : Nat} {z : α} (member : z ∈ (l.drop k).getLast?) : z ∈ l.getLast? := by
    rw [List.getLast?_drop] at member
    split at member
    · cases member
    · exact member
  cases way with
  | forward => exact fun x top y member => ends x (last top) y (List.mem_of_mem_drop member)
  | backward => exact fun y top x member => ends y (last top) x (List.mem_of_mem_drop member)

theorem Fits.takeEarlier (fits : s.Fits le P way) (h : Compares before le P)
    (stay : ∀ x ∈ s.earlier.take n, ∀ y ∈ s.later, way.laterFirst le x y = false)
    (takes : TakesRight le way (s.earlier.drop n) s.later pace) :
    s.Leads le P way (s.takeEarlier n pace) := by
  constructor
  · exact {
      up := fits.up.sublist (List.drop_sublist n s.earlier)
      up' := fits.up'
      all := fun x member => fits.all x (List.mem_of_mem_drop member)
      all' := fits.all'
      ends := fits.ends.drop n 0
      takes := takes }
  · intro out meets
    have up := fits.up
    rw [← List.take_append_drop n s.earlier] at up ⊢
    exact h.meets_earlier up stay meets

theorem Fits.takeLater (fits : s.Fits le P way) (h : Compares before le P)
    (go : ∀ x ∈ s.earlier, ∀ y ∈ s.later.take n, way.laterFirst le x y = true)
    (takes : TakesRight le way s.earlier (s.later.drop n) pace) :
    s.Leads le P way (s.takeLater n pace) := by
  constructor
  · exact {
      up := fits.up
      up' := fits.up'.sublist (List.drop_sublist n s.later)
      all := fits.all
      all' := fun y member => fits.all' y (List.mem_of_mem_drop member)
      ends := fits.ends.drop 0 n
      takes := takes }
  · intro out meets
    have up := fits.up'
    rw [← List.take_append_drop n s.later] at up ⊢
    exact h.meets_later up go meets

/-- A leap in the earlier run ends in front of the first item that `y` goes before. -/
theorem gallop_earlier (h : Compares before le P) {earlier : List α} {y : α}
    (all : ∀ x ∈ earlier, P x) (has : P y)
    (up : earlier.Pairwise fun u v => way.rel le u v = true) :
    ∃ front back, earlier = front ++ back ∧
      gallop (fun x => return !(← laterNext before way x y)) way earlier = .ok front.length ∧
      (∀ x ∈ front, way.laterFirst le x y = false) ∧ ∀ x ∈ back, way.laterFirst le x y = true := by
  obtain ⟨front, back, rfl, pass, stop⟩ := exists_cut (p := fun x => !way.laterFirst le x y)
    (up.imp fun {u v} less passes => by
      rw [Bool.not_eq_true', Bool.eq_false_iff] at *
      exact fun next => passes (h.laterFirst_of_rel next less (h.rel_self way y)))
  refine ⟨front, back, rfl, gallop_eq (fun x member => ?_) pass stop way, ?_, ?_⟩
  · rw [h.laterNext_eq way (all x member) has]
    rfl
  · simpa using pass
  · simpa using stop

/-- A leap in the later run ends in front of the first item that `x` goes before. -/
theorem gallop_later (h : Compares before le P) {later : List α} {x : α} (has : P x)
    (all : ∀ y ∈ later, P y) (up : later.Pairwise fun u v => way.rel le u v = true) :
    ∃ front back, later = front ++ back ∧
      gallop (laterNext before way x) way later = .ok front.length ∧
      (∀ y ∈ front, way.laterFirst le x y = true) ∧ ∀ y ∈ back, way.laterFirst le x y = false := by
  obtain ⟨front, back, rfl, pass, stop⟩ := exists_cut (p := fun y => way.laterFirst le x y)
    (up.imp fun {u v} less passes => h.laterFirst_of_rel passes (h.rel_self way x) less)
  have answers : ∀ y ∈ front ++ back, laterNext before way x y = .ok (way.laterFirst le x y) :=
    fun y member => h.laterNext_eq way has (all y member)
  exact ⟨front, back, rfl, gallop_eq answers pass stop way, pass, stop⟩

/-- What a leap in the earlier run takes comes before all of the later run, and then an item of the
later one is due. -/
theorem Fits.leapEarlier {x y : α} {a b : List α} {limit : Nat}
    (fits : Fits le P way ⟨x :: a, y :: b, limit, pace⟩) (h : Compares before le P) :
    ∃ m, gallop (fun u => return !(← laterNext before way u y)) way (x :: a) = .ok m ∧
      Leads le P way ⟨x :: a, y :: b, limit, pace⟩
        (Merging.takeEarlier ⟨x :: a, y :: b, limit, pace⟩ m (.oneLater m)) := by
  obtain ⟨front, back, whole, found, pass, stop⟩ :=
    gallop_earlier h fits.all (fits.all' y List.mem_cons_self) fits.up
  dsimp only at whole
  refine ⟨front.length, found, fits.takeEarlier h ?_ ?_⟩
  · dsimp only
    rw [whole, List.take_left]
    exact fun u member => h.stays_before (pass u member) fits.up'
  · dsimp only
    rw [whole, List.drop_left]
    intro u top v top'
    cases top'
    exact stop u (List.mem_of_mem_head? top)

/-- What a leap in the later run takes comes before all of the earlier run, and then an item of the
earlier one is due. -/
theorem Fits.leapLater {x y : α} {a b : List α} {limit : Nat}
    (fits : Fits le P way ⟨x :: a, y :: b, limit, pace⟩) (h : Compares before le P) (m : Nat) :
    ∃ n, gallop (laterNext before way x) way (y :: b) = .ok n ∧
      Leads le P way ⟨x :: a, y :: b, limit, pace⟩
        (Merging.takeLater ⟨x :: a, y :: b, limit, pace⟩ n (.oneEarlier m n)) := by
  obtain ⟨front, back, whole, found, pass, stop⟩ :=
    gallop_later h (fits.all x List.mem_cons_self) fits.all' fits.up'
  dsimp only at whole
  refine ⟨front.length, found, fits.takeLater h ?_ ?_⟩
  · dsimp only
    rw [whole, List.take_left]
    exact fun u member v member' => h.goes_before (pass v member') fits.up u member
  · dsimp only
    rw [whole, List.drop_left]
    intro u top v top'
    cases top
    exact stop v (List.mem_of_mem_head? top')

/-- Each step gets on with the merge, whatever its pace. -/
theorem step_leads (h : Compares before le P) (fits : s.Fits le P way)
    (going : s.isDone way = false) :
    ∃ result, s.step before way = .ok result ∧ s.Leads le P way result := by
  obtain ⟨some, some'⟩ := pos_of_going going
  obtain ⟨earlier, later, limit, pace⟩ := s
  obtain ⟨x, a, rfl⟩ := List.exists_cons_of_length_pos some
  obtain ⟨y, b, rfl⟩ := List.exists_cons_of_length_pos some'
  have up : (x :: a).Pairwise fun u v => way.rel le u v = true := fits.up
  have up' : (y :: b).Pairwise fun u v => way.rel le u v = true := fits.up'
  have all : ∀ u ∈ x :: a, P u := fits.all
  have all' : ∀ v ∈ y :: b, P v := fits.all'
  have has := all x List.mem_cons_self
  have has' := all' y List.mem_cons_self
  have stays (second : way.laterFirst le x y = false) :
      ∀ u ∈ (x :: a).take 1, ∀ v ∈ y :: b, way.laterFirst le u v = false := by
    intro u member
    cases List.mem_singleton.mp member
    exact h.stays_before second up'
  have goes (first : way.laterFirst le x y = true) :
      ∀ u ∈ x :: a, ∀ v ∈ (y :: b).take 1, way.laterFirst le u v = true := by
    intro u member v member'
    cases List.mem_singleton.mp member'
    exact h.goes_before first up u member
  cases pace with
  | single m n =>
    have compared := h.laterNext_eq way has has'
    cases answer : way.laterFirst le x y with
    | true =>
      rw [answer] at compared
      refine ⟨_, Fault.bind_eq_ok.mpr ⟨_, compared, if_pos rfl⟩, fits.takeLater h (goes answer) ?_⟩
      split <;> exact fun _ _ _ _ => trivial
    | false =>
      rw [answer] at compared
      refine ⟨_, Fault.bind_eq_ok.mpr ⟨_, compared, if_neg (by decide)⟩,
        fits.takeEarlier h (stays answer) ?_⟩
      split <;> exact fun _ _ _ _ => trivial
  | leapEarlier =>
    obtain ⟨m, found, leads⟩ := fits.leapEarlier h
    exact ⟨_, Fault.bind_eq_ok.mpr ⟨m, found, rfl⟩, leads⟩
  | oneLater m =>
    have next : way.laterFirst le x y = true := fits.takes x rfl y rfl
    exact ⟨_, rfl, fits.takeLater h (goes next) fun _ _ _ _ => trivial⟩
  | leapLater m =>
    obtain ⟨front, back, whole, found, pass, stop⟩ := gallop_later h has all' up'
    refine ⟨_, Fault.bind_eq_ok.mpr ⟨_, found, rfl⟩, fits.takeLater h ?_ ?_⟩
    · dsimp only
      rw [whole, List.take_left]
      exact fun u member v member' => h.goes_before (pass v member') up u member
    · dsimp only
      rw [whole, List.drop_left]
      intro u top v top'
      cases top
      exact stop v (List.mem_of_mem_head? top')
  | oneEarlier m n =>
    have next : way.laterFirst le x y = false := fits.takes x rfl y rfl
    exact ⟨_, rfl, fits.takeEarlier h (stays next) fun _ _ _ _ => trivial⟩
  | leapt m n =>
    refine ⟨_, rfl, ?_⟩
    unfold afterLeaps
    split
    · exact ⟨⟨up, up', fits.all, fits.all', fits.ends, fun _ _ _ _ => trivial⟩, fun _ => id⟩
    · exact ⟨⟨up, up', fits.all, fits.all', fits.ends, fun _ _ _ _ => trivial⟩, fun _ => id⟩

theorem rest_meets (h : Compares before le P) (fits : s.Fits le P way)
    (done : s.isDone way = true) : Meets le way s.earlier s.later (s.rest way) := by
  have last {l : List α} {z : α} (short : l.length ≤ 1) (member : z ∈ l) : z ∈ l.getLast? := by
    match l, short with
    | [w], _ => simpa using (List.mem_singleton.mp member).symm
  cases way with
  | forward =>
    have go : ∀ x ∈ s.earlier, ∀ y ∈ s.later, Way.forward.laterFirst le x y = true := by
      intro x member y member'
      have short : s.earlier.length ≤ 1 ∨ s.later = [] := by simpa [isDone] using done
      rcases short with short | none
      · exact fits.ends x (last short member) y member'
      · rw [none] at member'
        cases member'
    have alone : Meets le .forward s.earlier [] s.earlier :=
      ⟨fits.up, by simpa [Way.join] using SameTies.refl s.earlier⟩
    have whole := h.meets_later (by simpa using fits.up') go alone
    rw [List.append_nil] at whole
    exact whole
  | backward =>
    have stay : ∀ x ∈ s.earlier, ∀ y ∈ s.later, Way.backward.laterFirst le x y = false := by
      intro x member y member'
      have short : s.later.length ≤ 1 ∨ s.earlier = [] := by simpa [isDone] using done
      rcases short with short | none
      · exact fits.ends y (last short member') x member
      · rw [none] at member
        cases member
    have alone : Meets le .backward [] s.later s.later :=
      ⟨fits.up', by simpa [Way.join] using SameTies.refl s.later⟩
    have whole := h.meets_earlier (by simpa using fits.up) stay alone
    rw [List.append_nil] at whole
    exact whole

theorem finish_meets (h : Compares before le P) (fits : s.Fits le P way) :
    ∃ out limit, s.finish before way = .ok (out, limit) ∧
      Meets le way s.earlier s.later out := by
  induction s using finish.induct before way with
  | case1 s going fault failed =>
    obtain ⟨result, stepped, _⟩ := step_leads h fits going
    cases failed.symm.trans stepped
  | case2 s going taken next stepped ih =>
    obtain ⟨result, stepped', leads⟩ := step_leads h fits going
    cases stepped.symm.trans stepped'
    obtain ⟨out, limit, finished, meets⟩ := ih leads.fits
    refine ⟨taken ++ out, limit, ?_, leads.meets out meets⟩
    rw [finish, dif_pos going]
    split
    · rename_i failed
      cases stepped.symm.trans failed
    · rename_i stepped'
      cases stepped.symm.trans stepped'
      exact Fault.bind_eq_ok.mpr ⟨_, finished, rfl⟩
  | case3 s done =>
    refine ⟨s.rest way, s.limit, ?_, rest_meets h fits (by simpa using done)⟩
    rw [finish, dif_neg done]
    rfl

end Merging

theorem merge_meets (h : Compares before le P) (way : Way) (limit : Nat) {earlier later : List α}
    (up : earlier.Pairwise fun x y => way.rel le x y = true)
    (up' : later.Pairwise fun x y => way.rel le x y = true)
    (all : ∀ x ∈ earlier, P x) (all' : ∀ y ∈ later, P y)
    (ends : Merging.EndsRight le way earlier later)
    (begins : ∀ x ∈ earlier.head?, ∀ y ∈ later.head?,
      way.laterFirst le x y = (way == .forward)) :
    ∃ out limit', merge before way limit earlier later = .ok (out, limit') ∧
      Meets le way earlier later out := by
  have fits : Merging.Fits le P way ⟨earlier, later, limit, .single 0 0⟩ :=
    ⟨up, up', all, all', ends, fun _ _ _ _ => trivial⟩
  cases way with
  | forward =>
    have go : ∀ x ∈ earlier, ∀ y ∈ later.take 1, Way.forward.laterFirst le x y = true := by
      intro x member y member'
      cases later with
      | nil => cases member'
      | cons y' b =>
        cases earlier with
        | nil => cases member
        | cons x' a =>
          cases List.mem_singleton.mp member'
          exact h.goes_before (begins x' rfl y rfl) up x member
    have takes : Merging.TakesRight le .forward earlier (later.drop 1) (.single 0 0) :=
      fun _ _ _ _ => trivial
    have leads := fits.takeLater h go takes
    obtain ⟨out, limit', finished, meets⟩ := Merging.finish_meets h leads.fits
    exact ⟨_, limit', Fault.bind_eq_ok.mpr ⟨_, finished, rfl⟩, leads.meets out meets⟩
  | backward =>
    have stay : ∀ x ∈ earlier.take 1, ∀ y ∈ later, Way.backward.laterFirst le x y = false := by
      intro x member y member'
      cases earlier with
      | nil => cases member
      | cons x' a =>
        cases later with
        | nil => cases member'
        | cons y' b =>
          cases List.mem_singleton.mp member
          exact h.stays_before (begins x rfl y' rfl) up' y member'
    have takes : Merging.TakesRight le .backward (earlier.drop 1) later (.single 0 0) :=
      fun _ _ _ _ => trivial
    have leads := fits.takeEarlier h stay takes
    obtain ⟨out, limit', finished, meets⟩ := Merging.finish_meets h leads.fits
    exact ⟨_, limit', Fault.bind_eq_ok.mpr ⟨_, finished, rfl⟩, leads.meets out meets⟩

end NameLint.RunSort
