import NameLint.Engine.Check
import NameLint.Proofs.StableRuns

/-!
# Places

A node that has no location, or one that begins at a whole line and column, has a
place that readers can be shown. Reports at such nodes give violations at these
places, and violations at such places are put in order by a stable sort: by the
line, on one line by the column, and at one place as they came.
-/

namespace NameLint

namespace Value

mutual

/-- The order of two values: that of scalars, and for sequences of one kind that of the first place
where they differ. -/
def compare? : Value → Value → Option Ordering
  | .list as, .list bs => compareItems? as bs
  | .tuple as, .tuple bs => compareItems? as bs
  | a, b => compareScalar? a b

/-- The order of two sequences. Equal items are passed over, even those without an order. -/
def compareItems? : List Value → List Value → Option Ordering
  | [], [] => some .eq
  | [], _ :: _ => some .lt
  | _ :: _, [] => some .gt
  | a :: as, b :: bs => if same a b then compareItems? as bs else compare? a b

end

end Value

/-- The whole number that a value is, and zero for anything else. -/
def Value.whole : Value → Int
  | .int n => n
  | _ => 0

/-- Whether a node without a location, or with a whole line and column to begin at. -/
def Node.HasPlace (n : Node) : Prop :=
  ∀ loc, n.loc = some loc →
    ∃ line column : Int, loc.startLine = .int line ∧ loc.startColumn = .int column

def Node.place (n : Node) : Int × Int :=
  match n.loc with
  | none => (0, 0)
  | some loc => (loc.startLine.whole, loc.startColumn.whole + 1)

/-- Whether a place comes before another: by the line, and on one line by the column. -/
def Before (p q : Int × Int) : Prop :=
  p.1 < q.1 ∨ p.1 = q.1 ∧ p.2 < q.2

instance (p q : Int × Int) : Decidable (Before p q) :=
  inferInstanceAs (Decidable (p.1 < q.1 ∨ p.1 = q.1 ∧ p.2 < q.2))

theorem placeOf_of_hasPlace {n : Node} (h : n.HasPlace) :
    Context.placeOf n = .ok (.int n.place.1, .int n.place.2) := by
  unfold Context.placeOf Node.place
  cases hloc : n.loc with
  | none => rfl
  | some loc =>
    obtain ⟨line, column, hline, hcolumn⟩ := h loc hloc
    simp only [hline, hcolumn, Value.number?, Number.add?, Value.ofNumber, Value.whole]
    rfl

namespace Violation

def IsPlaced (v : Violation) : Prop :=
  ∃ line column : Int, v.line = .int line ∧ v.column = .int column

def place (v : Violation) : Int × Int :=
  (v.line.whole, v.column.whole)

/-- Whether the second violation's place is not before the first's. -/
def inOrder (a b : Violation) : Bool :=
  !decide (Before b.place a.place)

theorem inOrder_iff {a b : Violation} : a.inOrder b = true ↔ ¬ Before b.place a.place := by
  simp [inOrder]

theorem inOrder_trans (a b c : Violation) (hab : a.inOrder b) (hbc : b.inOrder c) :
    a.inOrder c := by
  rw [inOrder_iff] at *
  unfold Before at *
  omega

theorem inOrder_total (a b : Violation) : a.inOrder b || b.inOrder a := by
  rw [Bool.or_eq_true, inOrder_iff, inOrder_iff]
  unfold Before
  omega

theorem same_int (m n : Int) : Value.same (.int m) (.int n) = decide (m = n) := by
  simp only [Value.same, Value.sameScalar, Value.number?, Number.same, Number.compare?]
  by_cases h : m = n
  · simp [h]
  · simp [h]

theorem less_int (m n : Int) : Value.less? (.int m) (.int n) = some (decide (m < n)) := by
  simp only [Value.less?, Value.areKindred, Value.compareScalar?, Value.number?, Number.compare?]
  by_cases h : m < n
  · simp [h, Int.compare_eq_lt.mpr h]
  · simp [h, Int.compare_eq_lt]

theorem placeBefore_of_isPlaced {a b : Violation} (ha : a.IsPlaced) (hb : b.IsPlaced) :
    a.placeBefore b = .ok (!b.inOrder a) := by
  obtain ⟨line, column, hl, hc⟩ := ha
  obtain ⟨line', column', hl', hc'⟩ := hb
  unfold placeBefore inOrder Before place
  simp only [hl, hc, hl', hc', Value.whole, Value.lessItems?, same_int, less_int, Bool.not_not]
  by_cases hline : line = line'
  · by_cases hcolumn : column = column'
    · simp [hline, hcolumn, pure, Except.pure]
    · simp [hline, hcolumn, pure, Except.pure]
  · simp [hline, pure, Except.pure]

/-- Violations with whole lines and columns can always be sorted. -/
theorem sortByPlace_of_isPlaced {vs : List Violation} (placed : ∀ v ∈ vs, v.IsPlaced) :
    sortByPlace vs = .ok (vs.mergeSort inOrder) :=
  RunSort.sort_eq_mergeSort {
    trans := inOrder_trans
    total := inOrder_total
    compares := fun v w member member' => placeBefore_of_isPlaced (placed v member)
      (placed w member') }

/-- Sorting loses no violation and makes none up, whatever the places are. -/
theorem sortByPlace_perm {vs sorted : List Violation} (h : sortByPlace vs = .ok sorted) :
    sorted.Perm vs :=
  RunSort.sort_perm h

end Violation

/-- A report at a node with a place gives a violation at that place, if it gives one. -/
theorem Context.violation_place [Stack] {c : Context} {n : Node} {t : SubType} {data : Item}
    {v : Violation} (h : n.HasPlace) (recorded : c.violation n t data = .ok v) :
    v.IsPlaced ∧ v.place = n.place := by
  unfold Context.violation at recorded
  rw [placeOf_of_hasPlace h] at recorded
  obtain ⟨place, hplace, recorded⟩ := Fault.bind_eq_ok.mp recorded
  obtain ⟨message, hmessage, recorded⟩ := Fault.bind_eq_ok.mp recorded
  cases hplace
  -- The data are copied only where they count as true.
  dsimp only at recorded
  split at recorded
  · obtain ⟨copied, hcopied, recorded⟩ := Fault.bind_eq_ok.mp recorded
    cases recorded
    exact ⟨⟨n.place.1, n.place.2, rfl, rfl⟩, rfl⟩
  · cases recorded
    exact ⟨⟨n.place.1, n.place.2, rfl, rfl⟩, rfl⟩

end NameLint
