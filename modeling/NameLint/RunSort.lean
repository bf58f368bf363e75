import NameLint.Fault

/-!
# Sorting by runs

Items are compared two at a time; a comparison can fail, and it need not agree
with the others. What already goes up or down is taken as a run, short runs are
filled up by insertion, and neighbouring runs are merged, in the order of a
balanced tree over all items. A merge takes items one at a time, and by leaps
where one run goes on for long. Where the comparisons disagree the outcome
depends on which of them are made, so each step is laid down here.
-/

namespace NameLint.RunSort

variable {α : Type} (before : α → α → Except Fault Bool)

/-- The end that a list is gone through from. Items are given in the order in which they are met. -/
inductive Way where
  | forward
  | backward
  deriving DecidableEq, Repr

/-- An even number of items has two in the middle; the one further back in the list is taken. -/
def Way.skew : Way → Nat
  | .forward => 0
  | .backward => 1

section Search

variable (goes : α → Except Fault Bool)

/-- How many items at the front go, where those before `low` do and those from `high` on do not. -/
def halve (way : Way) (items : List α) (low high : Nat) : Except Fault Nat := do
  if _h : low < high then
    let middle := low + (high - low - way.skew) / 2
    match items[middle]? with
    | none => return low
    | some x =>
      if ← goes x then halve way items (middle + 1) high else halve way items low middle
  else return low
termination_by high - low
decreasing_by all_goals omega

/-- How many items at the front go, where the one at `last` does: leaps that double lead to one that
does not, and those since the last leap are halved. -/
def leap (way : Way) (items : List α) (last reach : Nat) : Except Fault Nat := do
  match _h : items[reach]? with
  | none => halve goes way items (last + 1) items.length
  | some x =>
    if ← goes x then leap way items reach (2 * reach + 1)
    else halve goes way items (last + 1) reach
termination_by items.length - reach
decreasing_by
  have := (List.getElem?_eq_some_iff.mp _h).1
  omega

def gallop (way : Way) (items : List α) : Except Fault Nat := do
  match items with
  | [] => return 0
  | first :: _ => if ← goes first then leap goes way items 0 1 else return 0

end Search

/-! Cutting runs -/

/-- How many items from the front on go one way: each before the last one, or none of them. -/
def runLength (descending : Bool) (last : α) : List α → Except Fault Nat
  | [] => return 0
  | x :: rest => do
    if (← before x last) == descending then return (← runLength descending x rest) + 1
    else return 0

/-- Items put one by one behind all those of a run that they are not before. -/
def insertAll (run : List α) : List α → Except Fault (List α)
  | [] => return run
  | x :: rest => do
    let i ← halve (fun y => return !(← before x y)) .forward run 0 run.length
    insertAll (run.take i ++ x :: run.drop i) rest

/-- The runs of a list, each filled up to a least length while there are items. -/
def cutRuns (least : Nat) : List α → Except Fault (List (List α))
  | first :: second :: rest => do
    let descending ← before second first
    let n ← runLength before descending second rest
    let run := first :: second :: rest.take n
    let lacking := least - run.length
    let filled ← insertAll before (if descending then run.reverse else run)
      ((rest.drop n).take lacking)
    return filled :: (← cutRuns least ((rest.drop n).drop lacking))
  | [] => return []
  | single => return [single]
termination_by items => items.length
decreasing_by
  simp only [List.length_drop, List.length_cons]
  omega

/-- The least length of a run: the first six binary digits of the number of items, and one more if
any other digit is set. -/
def leastRun (n excess : Nat) : Nat :=
  if n < 64 then n + excess else leastRun (n / 2) (max excess (n % 2))

/-! Merging two runs -/

/-- What comes next in a merge. The numbers count the items that were taken of the earlier and of
the later run, in a row or by the last leap. -/
inductive Pace where
  | single (earlier later : Nat)
  | leapEarlier
  | oneLater (earlier : Nat)
  | leapLater (earlier : Nat)
  | oneEarlier (earlier later : Nat)
  | leapt (earlier later : Nat)

def Pace.rank : Pace → Nat
  | .leapt _ _ => 2
  | .leapEarlier | .leapLater _ => 1
  | _ => 0

/-- Two neighbouring runs in a merge, with the items that are still to be taken. -/
structure Merging (α : Type) where
  earlier : List α
  later : List α
  /-- How many items of one run in a row make the merge leap. -/
  limit : Nat
  pace : Pace

namespace Merging

def takeEarlier (s : Merging α) (n : Nat) (pace : Pace) : List α × Merging α :=
  (s.earlier.take n, { s with earlier := s.earlier.drop n, pace })

def takeLater (s : Merging α) (n : Nat) (pace : Pace) : List α × Merging α :=
  (s.later.take n, { s with later := s.later.drop n, pace })

/-- The item that is met last of all is known from the start, so its run stops one short of it. -/
def isDone (way : Way) (s : Merging α) : Bool :=
  match way with
  | .forward => s.earlier.length ≤ 1 || s.later.isEmpty
  | .backward => s.later.length ≤ 1 || s.earlier.isEmpty

def rest (way : Way) (s : Merging α) : List α :=
  match way with
  | .forward => s.later ++ s.earlier
  | .backward => s.earlier ++ s.later

/-- Whether `y` of the later run is met before `x` of the earlier one. -/
def laterNext (way : Way) (x y : α) : Except Fault Bool :=
  match way with
  | .forward => before y x
  | .backward => return !(← before y x)

/-- After leaps that paid, leaping is made easier and goes on; after others it is made harder. -/
def afterLeaps (s : Merging α) (m n : Nat) : Merging α :=
  if 7 ≤ m ∨ 7 ≤ n then { s with limit := max 1 (s.limit - 1), pace := .leapEarlier }
  else { s with limit := s.limit + 1, pace := .single 0 0 }

/-- The items that are taken next, and the merge afterwards. -/
def step (way : Way) (s : Merging α) : Except Fault (List α × Merging α) :=
  match s.earlier, s.later with
  | x :: _, y :: _ =>
    match s.pace with
    | .single m n => do
      if ← laterNext before way x y then
        return s.takeLater 1 (if s.limit ≤ n + 1 then .leapEarlier else .single 0 (n + 1))
      else
        return s.takeEarlier 1 (if s.limit ≤ m + 1 then .leapEarlier else .single (m + 1) 0)
    | .leapEarlier => do
      let m ← gallop (fun x => return !(← laterNext before way x y)) way s.earlier
      return s.takeEarlier m (.oneLater m)
    | .oneLater m => return s.takeLater 1 (.leapLater m)
    | .leapLater m => do
      let n ← gallop (laterNext before way x) way s.later
      return s.takeLater n (.oneEarlier m n)
    | .oneEarlier m n => return s.takeEarlier 1 (.leapt m n)
    | .leapt m n => return ([], s.afterLeaps m n)
  | _, _ => return ([], s)

/-- Leaps can take nothing, so the paces count beside the items that are left. -/
def weight (s : Merging α) : Nat :=
  3 * (s.earlier.length + s.later.length) + s.pace.rank

/-- A step takes from one of the runs, or it only changes the pace. It takes an item for certain
unless the pace gets lower. -/
theorem step_cases {way : Way} {s next : Merging α} {taken : List α}
    (h : s.step before way = .ok (taken, next)) :
    (∃ n pace, (taken, next) = s.takeEarlier n pace ∧ (n = 1 ∨ pace.rank < s.pace.rank)) ∨
    (∃ n pace, (taken, next) = s.takeLater n pace ∧ (n = 1 ∨ pace.rank < s.pace.rank)) ∨
    taken = [] ∧ next.earlier = s.earlier ∧ next.later = s.later ∧
      (next.pace.rank < s.pace.rank ∨ s.earlier = [] ∨ s.later = []) := by
  obtain ⟨earlier, later, limit, pace⟩ := s
  cases earlier with
  | nil =>
    cases h
    exact .inr (.inr ⟨rfl, rfl, rfl, .inr (.inl rfl)⟩)
  | cons x a =>
    cases later with
    | nil =>
      cases h
      exact .inr (.inr ⟨rfl, rfl, rfl, .inr (.inr rfl)⟩)
    | cons y b =>
      cases pace with
      | single m n =>
        obtain ⟨next, _, h⟩ := Fault.bind_eq_ok.mp h
        split at h
        · cases h
          exact .inr (.inl ⟨1, _, rfl, .inl rfl⟩)
        · cases h
          exact .inl ⟨1, _, rfl, .inl rfl⟩
      | leapEarlier =>
        obtain ⟨m, _, h⟩ := Fault.bind_eq_ok.mp h
        cases h
        exact .inl ⟨m, _, rfl, .inr Nat.zero_lt_one⟩
      | oneLater m =>
        cases h
        exact .inr (.inl ⟨1, _, rfl, .inl rfl⟩)
      | leapLater m =>
        obtain ⟨n, _, h⟩ := Fault.bind_eq_ok.mp h
        cases h
        exact .inr (.inl ⟨n, _, rfl, .inr Nat.zero_lt_one⟩)
      | oneEarlier m n =>
        cases h
        exact .inl ⟨1, _, rfl, .inl rfl⟩
      | leapt m n =>
        cases h
        refine .inr (.inr ?_)
        unfold afterLeaps
        split
        · exact ⟨rfl, rfl, rfl, .inl Nat.one_lt_two⟩
        · exact ⟨rfl, rfl, rfl, .inl Nat.zero_lt_two⟩

theorem pos_of_going {way : Way} {s : Merging α} (going : s.isDone way = false) :
    0 < s.earlier.length ∧ 0 < s.later.length := by
  cases way with
  | forward =>
    simp [isDone, ← List.length_pos_iff] at going
    omega
  | backward =>
    simp [isDone, ← List.length_pos_iff] at going
    omega

theorem weight_step {way : Way} {s next : Merging α} {taken : List α}
    (going : s.isDone way = false) (h : s.step before way = .ok (taken, next)) :
    next.weight < s.weight := by
  obtain ⟨some, some'⟩ := pos_of_going going
  have low (pace : Pace) : pace.rank ≤ 2 := by
    unfold Pace.rank
    split <;> omega
  rcases step_cases before h with ⟨n, pace, taking, progress⟩ | ⟨n, pace, taking, progress⟩ |
    ⟨_, same, same', progress⟩
  · cases taking
    have := low pace
    simp only [weight, List.length_drop]
    omega
  · cases taking
    have := low pace
    simp only [weight, List.length_drop]
    omega
  · rw [← List.length_eq_zero_iff, ← List.length_eq_zero_iff] at progress
    simp only [weight, same, same']
    omega

/-- The items in the order of the merge, and the limit that it ends with. -/
def finish (way : Way) (s : Merging α) : Except Fault (List α × Nat) :=
  if _going : s.isDone way = false then
    match _h : s.step before way with
    | .error fault => throw fault
    | .ok (taken, next) => do
      let (others, limit) ← finish way next
      return (taken ++ others, limit)
  else return (s.rest way, s.limit)
termination_by s.weight
decreasing_by exact weight_step before _going _h

end Merging

/-- The merge of two runs whose first item, the way they are gone through, is known. -/
def merge (way : Way) (limit : Nat) (earlier later : List α) : Except Fault (List α × Nat) := do
  let start : Merging α := ⟨earlier, later, limit, .single 0 0⟩
  let (first, next) :=
    match way with
    | .forward => start.takeLater 1 start.pace
    | .backward => start.takeEarlier 1 start.pace
  let (others, limit) ← next.finish before way
  return (first ++ others, limit)

/-- A merge begins at the end of the shorter run. -/
def mergeShorter (limit : Nat) (earlier later : List α) : Except Fault (List α × Nat) := do
  if earlier.length ≤ later.length then merge before .forward limit earlier later
  else
    let (merged, limit) ← merge before .backward limit earlier.reverse later.reverse
    return (merged.reverse, limit)

/-- The merge of two neighbouring runs, apart from what is in place at either end. -/
def mergeRuns (limit : Nat) (earlier later : List α) : Except Fault (List α × Nat) := do
  match later with
  | [] => return (earlier, limit)
  | y :: _ =>
    let m ← gallop (fun x => return !(← before y x)) .forward earlier
    match (earlier.drop m).getLast? with
    | none => return (earlier ++ later, limit)
    | some x =>
      let behind ← gallop (fun y => return !(← before y x)) .backward later.reverse
      let n := later.length - behind
      if n = 0 then return (earlier ++ later, limit)
      else
        let (merged, limit) ← mergeShorter before limit (earlier.drop m) (later.take n)
        return (earlier.take m ++ merged ++ later.drop n, limit)

/-! Merging all runs -/

/-- The depth in a balanced tree over `n` items at which the places `a / 2` and `b / 2` part: the
first binary digit in which they differ as fractions of `n`. -/
def boundaryPower (n a b : Nat) : Nat :=
  (List.range n).findIdx (fun k => (a <<< k) / n != (b <<< k) / n) + 1

/-- The runs so far. Those below the last one are nearest first, each with the power of the boundary
to the next. -/
structure Held (α : Type) where
  below : List (List α × Nat)
  top : List α
  limit : Nat

/-- The runs below whose boundary is the deeper one are merged first. -/
def settle (power : Nat) : List (List α × Nat) → List α → Nat → Except Fault (Held α)
  | [], top, limit => return ⟨[], top, limit⟩
  | (run, deep) :: below, top, limit =>
    if power < deep then do
      let (merged, limit) ← mergeRuns before limit run top
      settle power below merged limit
    else return ⟨(run, deep) :: below, top, limit⟩

/-- One run more; `total` is the number of all items. -/
def Held.push (total : Nat) (held : Held α) (run : List α) : Except Fault (Held α) := do
  let start := (held.below.flatMap Prod.fst).length
  let middle := 2 * start + held.top.length
  let power := boundaryPower total middle (middle + held.top.length + run.length)
  let settled ← settle before power held.below held.top held.limit
  return ⟨(settled.top, power) :: settled.below, run, settled.limit⟩

/-- The runs that are left are merged from the top; of three the middle one goes to the shorter. -/
def collapse (limit : Nat) : List (List α) → List α → Except Fault (List α)
  | [], top => return top
  | [run], top => return (← mergeRuns before limit run top).1
  | run :: lower :: below, top => do
    if lower.length < top.length then
      let (merged, limit) ← mergeRuns before limit lower run
      collapse limit (merged :: below) top
    else
      let (merged, limit) ← mergeRuns before limit run top
      collapse limit (lower :: below) merged
termination_by below => below.length

def sort (items : List α) : Except Fault (List α) := do
  match ← cutRuns before (leastRun items.length 0) items with
  | [] => return []
  | first :: others =>
    let held ← others.foldlM (Held.push before items.length) ⟨[], first, 7⟩
    collapse before held.limit (held.below.map Prod.fst) held.top

end NameLint.RunSort
