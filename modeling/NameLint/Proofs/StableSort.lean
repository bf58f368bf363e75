import NameLint.Text.Word

/-!
# Sorting that keeps ties in place

Merge sort puts one element more in front of the first one that it may stand
before. Two facts follow by induction on the list: leaving elements out commutes
with sorting, and elements that may stand in either order keep the order that
they came in. The order has to be total and transitive; it need not tell any two
elements apart. A list that goes up is told by the order in which it has such
elements.
-/

namespace NameLint.StableSort

variable {α : Type} {le : α → α → Bool}

/-- The place of one element more among the sorted others, and what stands before and behind it. -/
theorem mergeSort_cons_split (trans : ∀ a b c, le a b → le b c → le a c)
    (total : ∀ a b, le a b || le b a) (a : α) (l : List α) :
    ∃ front back, (a :: l).mergeSort le = front ++ a :: back ∧ l.mergeSort le = front ++ back ∧
      (∀ b ∈ front, (!le a b) = true) ∧ ∀ b ∈ back, (!le a b) = false := by
  obtain ⟨front, back, whole, others, before⟩ := List.mergeSort_cons trans total a l
  refine ⟨front, back, whole, others, before, ?_⟩
  intro b hb
  have sorted := List.pairwise_mergeSort trans total (a :: l)
  rw [whole, List.pairwise_append, List.pairwise_cons] at sorted
  simp [sorted.2.1.1 b hb]

/-- Leaving elements out before the sorting or after it comes to the same. -/
theorem filter_mergeSort (trans : ∀ a b c, le a b → le b c → le a c)
    (total : ∀ a b, le a b || le b a) (p : α → Bool) (l : List α) :
    (l.mergeSort le).filter p = (l.filter p).mergeSort le := by
  induction l with
  | nil => simp
  | cons a l ih =>
    obtain ⟨front, back, whole, others, before, behind⟩ := mergeSort_cons_split trans total a l
    rw [others, List.filter_append] at ih
    rw [whole, List.filter_append, List.filter_cons, List.filter_cons]
    by_cases ha : p a = true
    · obtain ⟨front', back', whole', others', before', behind'⟩ :=
        mergeSort_cons_split trans total a (l.filter p)
      -- Both sides cut the same list where `a` may first stand.
      have kept : ∀ b ∈ front.filter p, (!le a b) = true :=
        fun b hb => before b (List.mem_filter.mp hb).1
      have kept' : ∀ b ∈ back.filter p, (!le a b) = false :=
        fun b hb => behind b (List.mem_filter.mp hb).1
      have cut := Text.cut_of_stop kept fun b hb => kept' b (List.mem_of_mem_head? hb)
      have cut' := Text.cut_of_stop before' fun b hb => behind' b (List.mem_of_mem_head? hb)
      rw [ih, others'] at cut
      rw [if_pos ha, if_pos ha, whole', ← cut.1, ← cut.2, cut'.1, cut'.2]
    · rw [if_neg ha, if_neg ha, ih]

/-- Whether two elements may stand in either order. -/
def ties (le : α → α → Bool) (a b : α) : Bool :=
  le a b && le b a

/-- Whether two lists have the same elements, those that may stand in either order in one order. -/
def SameTies (le : α → α → Bool) (l l' : List α) : Prop :=
  ∀ a, l.filter (ties le a) = l'.filter (ties le a)

namespace SameTies

variable {l l' m m' : List α}

theorem refl (l : List α) : SameTies le l l :=
  fun _ => rfl

theorem symm (same : SameTies le l l') : SameTies le l' l :=
  fun a => (same a).symm

theorem trans (same : SameTies le l l') (same' : SameTies le l' m) : SameTies le l m :=
  fun a => (same a).trans (same' a)

theorem append (same : SameTies le l l') (same' : SameTies le m m') :
    SameTies le (l ++ m) (l' ++ m') := by
  intro a
  rw [List.filter_append, List.filter_append, same a, same' a]

theorem reverse (same : SameTies le l l') : SameTies le l.reverse l'.reverse := by
  intro a
  rw [List.filter_reverse, List.filter_reverse, same a]

theorem mem (total : ∀ a b, le a b || le b a) (same : SameTies le l l') {a : α} (member : a ∈ l) :
    a ∈ l' := by
  have own : ties le a a = true := by simpa [ties] using total a a
  have kept : a ∈ l.filter (ties le a) := List.mem_filter.mpr ⟨member, own⟩
  rw [same a] at kept
  exact (List.mem_filter.mp kept).1

/-- Lists without a tie between them can change places. -/
theorem swap (trans : ∀ a b c, le a b → le b c → le a c)
    (apart : ∀ a ∈ l, ∀ b ∈ m, ties le a b = false) : SameTies le (l ++ m) (m ++ l) := by
  intro c
  rw [List.filter_append, List.filter_append]
  by_cases none : l.filter (ties le c) = []
  · rw [none, List.append_nil, List.nil_append]
  · obtain ⟨a, member⟩ := List.exists_mem_of_ne_nil _ none
    obtain ⟨member, tied⟩ := List.mem_filter.mp member
    have none' : m.filter (ties le c) = [] := by
      rw [List.filter_eq_nil_iff]
      intro b member' tied'
      simp only [ties, Bool.and_eq_true] at tied tied'
      have both : ties le a b = true := by
        rw [ties, trans a c b tied.2 tied'.1, trans b c a tied'.2 tied.1]
        rfl
      rw [apart a member b member'] at both
      cases both
    rw [none', List.append_nil, List.nil_append]

end SameTies

theorem mergeSort_sameTies (trans : ∀ a b c, le a b → le b c → le a c)
    (total : ∀ a b, le a b || le b a) (l : List α) : SameTies le (l.mergeSort le) l := by
  intro a
  rw [filter_mergeSort trans total]
  refine List.mergeSort_of_pairwise (List.pairwise_of_forall_mem_list ?_)
  intro b tied c tied'
  have tied := (List.mem_filter.mp tied).2
  have tied' := (List.mem_filter.mp tied').2
  simp only [ties, Bool.and_eq_true] at tied tied'
  exact trans b a c tied.2 tied'.1

/-- A list that goes up is told by the order in which it has elements that may stand in either
order. -/
theorem eq_of_sameTies (total : ∀ a b, le a b || le b a) {l l' : List α}
    (up : l.Pairwise fun a b => le a b = true) (up' : l'.Pairwise fun a b => le a b = true)
    (same : SameTies le l l') : l = l' := by
  have self (a : α) : le a a = true := by simpa using total a a
  induction l generalizing l' with
  | nil =>
    cases l' with
    | nil => rfl
    | cons b rest' => cases SameTies.mem total same.symm List.mem_cons_self
  | cons a rest ih =>
    cases l' with
    | nil => cases SameTies.mem total same List.mem_cons_self
    | cons b rest' =>
      obtain ⟨least, rises⟩ := List.pairwise_cons.mp up
      obtain ⟨least', rises'⟩ := List.pairwise_cons.mp up'
      have first : le a b = true := by
        rcases List.mem_cons.mp (same.symm.mem total List.mem_cons_self) with rfl | member
        · exact self b
        · exact least b member
      have first' : le b a = true := by
        rcases List.mem_cons.mp (same.mem total List.mem_cons_self) with rfl | member
        · exact self a
        · exact least' a member
      have heads := same a
      rw [List.filter_cons_of_pos (by rw [ties, self a]; rfl),
        List.filter_cons_of_pos (by rw [ties, first, first']; rfl)] at heads
      obtain ⟨rfl, _⟩ := List.cons.inj heads
      refine congrArg (a :: ·) (ih rises rises' fun c => ?_)
      have both := same c
      rw [List.filter_cons, List.filter_cons] at both
      split at both
      · exact (List.cons.inj both).2
      · exact both

/-- A list that goes up and keeps the order of ties is the outcome of merge sort. -/
theorem eq_mergeSort (trans : ∀ a b c, le a b → le b c → le a c)
    (total : ∀ a b, le a b || le b a) {l sorted : List α}
    (up : sorted.Pairwise fun a b => le a b = true) (same : SameTies le sorted l) :
    sorted = l.mergeSort le :=
  eq_of_sameTies total up (List.pairwise_mergeSort trans total l)
    (same.trans (mergeSort_sameTies trans total l).symm)

end NameLint.StableSort
