import NameLint.Proofs.RunMerges

/-!
# Sorting by runs is a stable sort

Where the comparisons are those of an order, a sort by runs ends, and with the same
list as merge sort. A list is told by two facts about it: that it goes up, and in
which order it has the items that may stand in either order. Insertion, the cutting
of runs and their merging are followed by what they keep of these two.
-/

namespace NameLint.RunSort

open StableSort (SameTies)

variable {α : Type} {before : α → α → Except Fault Bool} {le : α → α → Bool} {P : α → Prop}

/-- Items with the property that go up. -/
structure IsRun (le : α → α → Bool) (P : α → Prop) (run : List α) : Prop where
  up : run.Pairwise fun x y => le x y = true
  all : ∀ x ∈ run, P x

namespace IsRun

variable {run run' : List α} {x y : α}

theorem le_last (runs : IsRun le P run) (h : Compares before le P) (member : x ∈ run)
    (last : y ∈ run.getLast?) : le x y = true := by
  obtain ⟨front, rfl⟩ := List.getLast?_eq_some_iff.mp last
  rcases List.mem_append.mp member with member | member
  · exact (List.pairwise_append.mp runs.up).2.2 x member y (List.mem_singleton_self y)
  · cases List.mem_singleton.mp member
    exact h.rel_self .forward x

theorem le_of_head (runs : IsRun le P run) (h : Compares before le P) (first : x ∈ run.head?)
    (member : y ∈ run) : le x y = true := by
  obtain ⟨rest, rfl⟩ := List.head?_eq_some_iff.mp first
  rcases List.mem_cons.mp member with rfl | member
  · exact h.rel_self .forward y
  · exact List.rel_of_pairwise_cons runs.up member

theorem append (runs : IsRun le P run) (runs' : IsRun le P run')
    (across : ∀ x ∈ run, ∀ y ∈ run', le x y = true) : IsRun le P (run ++ run') :=
  ⟨List.pairwise_append.mpr ⟨runs.up, runs'.up, across⟩,
    fun x member => (List.mem_append.mp member).elim (runs.all x) (runs'.all x)⟩

theorem sublist (runs : IsRun le P run) (sub : run'.Sublist run) : IsRun le P run' :=
  ⟨runs.up.sublist sub, fun x member => runs.all x (sub.subset member)⟩

/-- A run with one item more, behind those that may stand in front of it and before the others. -/
theorem insert (runs : IsRun le P (run ++ run')) (h : Compares before le P) (has : P x)
    (pass : ∀ y ∈ run, le y x = true) (stop : ∀ y ∈ run', le y x = false) :
    IsRun le P (run ++ x :: run') := by
  have single : IsRun le P [x] :=
    ⟨List.pairwise_singleton _ x, fun y member => by rwa [List.mem_singleton.mp member]⟩
  have behind := single.append (runs.sublist (List.sublist_append_right run run')) (by
    intro y member z member'
    cases List.mem_singleton.mp member
    exact h.le_of_not_le (stop z member'))
  refine (runs.sublist (List.sublist_append_left run run')).append behind ?_
  intro y member z member'
  rcases List.mem_cons.mp member' with rfl | member'
  · exact pass y member
  · exact (List.pairwise_append.mp runs.up).2.2 y member z member'

end IsRun

namespace Compares

theorem insertAll_run (h : Compares before le P) {run rest : List α} (runs : IsRun le P run)
    (all : ∀ x ∈ rest, P x) :
    ∃ out, insertAll before run rest = .ok out ∧ IsRun le P out ∧
      SameTies le out (run ++ rest) := by
  induction rest generalizing run with
  | nil => exact ⟨run, rfl, runs, by simpa using SameTies.refl run⟩
  | cons x rest ih =>
    have has : P x := all x List.mem_cons_self
    obtain ⟨front, back, rfl, pass, stop⟩ := exists_cut (p := fun y => le y x)
      (runs.up.imp fun {y z} less passes => h.trans y z x less passes)
    have found : halve (fun y => return !(← before x y)) .forward (front ++ back) 0
        (front ++ back).length = .ok front.length := by
      refine halve_eq (p := fun y => le y x) ?_ pass stop .forward (Nat.zero_le _) (by simp)
        (Nat.le_refl _)
      intro y member
      rw [h.compares x y has (runs.all y member)]
      exact congrArg Except.ok (Bool.not_not _)
    have placed := runs.insert h has pass stop
    obtain ⟨out, inserted, sorted, same⟩ := ih placed fun y member =>
      all y (List.mem_cons_of_mem x member)
    refine ⟨out, ?_, sorted, same.trans ?_⟩
    · exact Fault.bind_eq_ok.mpr ⟨front.length, found, by simpa using inserted⟩
    · have apart : ∀ y ∈ [x], ∀ z ∈ back, StableSort.ties le y z = false := by
        intro y member z member'
        cases List.mem_singleton.mp member
        simp [StableSort.ties, stop z member']
      have moved := (SameTies.refl front).append (SameTies.swap h.trans apart)
      simpa using moved.append (SameTies.refl rest)

/-- Going up, and going down for good, are passed on from item to item. -/
theorem goes_on (h : Compares before le P) {descending : Bool} {x y z : α}
    (one : le x y = !descending) (other : le y z = !descending) : le x z = !descending := by
  cases descending with
  | false => exact h.trans x y z one other
  | true =>
    refine Bool.eq_false_iff.mpr fun less => ?_
    exact Bool.eq_false_iff.mp other (h.trans y x z (h.le_of_not_le one) less)

theorem runLength_goes (h : Compares before le P) (descending : Bool) {last : α} (has : P last)
    {rest : List α} (all : ∀ x ∈ rest, P x) :
    ∃ n, runLength before descending last rest = .ok n ∧
      (last :: rest.take n).Pairwise fun x y => le x y = !descending := by
  induction rest generalizing last with
  | nil => exact ⟨0, rfl, by simp⟩
  | cons x rest ih =>
    have has' : P x := all x List.mem_cons_self
    obtain ⟨n, counted, goes⟩ := ih has' fun y member => all y (List.mem_cons_of_mem x member)
    have compared := h.compares x last has' has
    rw [runLength]
    by_cases step : le last x = !descending
    · refine ⟨n + 1, Fault.bind_eq_ok.mpr ⟨_, compared, ?_⟩, ?_⟩
      · rw [if_pos (by simp [step])]
        exact Fault.bind_eq_ok.mpr ⟨n, counted, rfl⟩
      · rw [List.take_succ_cons]
        refine List.pairwise_cons.mpr ⟨?_, goes⟩
        intro y member
        rcases List.mem_cons.mp member with rfl | member
        · exact step
        · exact h.goes_on step (List.rel_of_pairwise_cons goes member)
    · refine ⟨0, Fault.bind_eq_ok.mpr ⟨_, compared, ?_⟩, by simp⟩
      rw [if_neg (by rwa [beq_iff_eq, Bool.not_eq_eq_eq_not])]
      rfl

theorem turned_run (h : Compares before le P) {descending : Bool} {run : List α}
    (goes : run.Pairwise fun x y => le x y = !descending) (all : ∀ x ∈ run, P x) :
    IsRun le P (if descending then run.reverse else run) ∧
      SameTies le (if descending then run.reverse else run) run := by
  cases descending with
  | false => exact ⟨⟨goes, all⟩, SameTies.refl run⟩
  | true =>
    refine ⟨⟨?_, fun x member => all x (List.mem_reverse.mp member)⟩, ?_⟩
    · exact List.pairwise_reverse.mpr (goes.imp h.le_of_not_le)
    · clear all
      induction run with
      | nil => exact SameTies.refl _
      | cons x rest ih =>
        obtain ⟨first, goes⟩ := List.pairwise_cons.mp goes
        have apart : ∀ y ∈ rest, ∀ z ∈ [x], StableSort.ties le y z = false := by
          intro y member z member'
          cases List.mem_singleton.mp member'
          simp [StableSort.ties, first y member]
        have turned := (ih goes).append (SameTies.refl [x])
        simpa using turned.trans (SameTies.swap h.trans apart)

theorem cutRuns_runs (h : Compares before le P) (least : Nat) {items : List α}
    (all : ∀ x ∈ items, P x) :
    ∃ runs, cutRuns before least items = .ok runs ∧ (∀ run ∈ runs, IsRun le P run) ∧
      SameTies le runs.flatten items := by
  induction items using cutRuns.induct least with
  | case1 first second rest ih =>
    have has : P first := all first List.mem_cons_self
    have has' : P second := all second (by simp)
    have all' : ∀ x ∈ rest, P x := fun x member => all x (by simp [member])
    obtain ⟨n, counted, goes⟩ := h.runLength_goes (!le first second) has' all'
    have goes' : (first :: second :: rest.take n).Pairwise fun x y =>
        le x y = !!le first second := by
      refine List.pairwise_cons.mpr ⟨fun y member => ?_, goes⟩
      rcases List.mem_cons.mp member with rfl | member
      · exact (Bool.not_not _).symm
      · exact h.goes_on (Bool.not_not _).symm (List.rel_of_pairwise_cons goes member)
    have taken := ((List.take_sublist n rest).cons_cons second).cons_cons first
    obtain ⟨turned, same⟩ := h.turned_run goes' fun x member => all x (taken.subset member)
    obtain ⟨filled, filling, isRun, same'⟩ := h.insertAll_run turned fun x member =>
      all' x (List.mem_of_mem_drop (List.mem_of_mem_take member))
    obtain ⟨others, cut, areRuns, same''⟩ := ih n fun x member =>
      all' x (List.mem_of_mem_drop (List.mem_of_mem_drop member))
    refine ⟨filled :: others, ?_, List.forall_mem_cons.mpr ⟨isRun, areRuns⟩, ?_⟩
    · rw [cutRuns]
      refine Fault.bind_eq_ok.mpr ⟨_, h.compares second first has' has, ?_⟩
      refine Fault.bind_eq_ok.mpr ⟨n, counted, Fault.bind_eq_ok.mpr ⟨filled, filling, ?_⟩⟩
      exact Fault.bind_eq_ok.mpr ⟨others, cut, rfl⟩
    · have whole := (same'.trans (same.append (SameTies.refl _))).append same''
      rw [List.append_assoc, List.take_append_drop] at whole
      simpa using whole
  | case2 => exact ⟨[], by rw [cutRuns]; rfl, by simp, SameTies.refl []⟩
  | case3 single short none =>
    refine ⟨[single], ?_, ?_, by simpa using SameTies.refl single⟩
    · rw [cutRuns]
      · rfl
      · exact short
      · exact none
    · intro run member
      cases List.mem_singleton.mp member
      refine ⟨?_, all⟩
      cases single with
      | nil => exact List.Pairwise.nil
      | cons first rest =>
        cases rest with
        | nil => exact List.pairwise_singleton _ first
        | cons second rest => exact (short first second rest rfl).elim

end Compares

theorem mergeShorter_run (h : Compares before le P) (limit : Nat) {earlier later : List α}
    (runs : IsRun le P earlier) (runs' : IsRun le P later)
    (begins : ∀ x ∈ earlier.head?, ∀ y ∈ later.head?, le x y = false)
    (ends : ∀ x ∈ earlier.getLast?, ∀ y ∈ later.getLast?, le x y = false) :
    ∃ out limit', mergeShorter before limit earlier later = .ok (out, limit') ∧
      IsRun le P out ∧ SameTies le out (earlier ++ later) := by
  have within {out : List α} (same : SameTies le out (earlier ++ later)) : ∀ x ∈ out, P x := by
    intro x member
    rcases List.mem_append.mp (same.mem h.total member) with member | member
    · exact runs.all x member
    · exact runs'.all x member
  unfold mergeShorter
  split
  · have ends' : Merging.EndsRight le .forward earlier later := by
      intro x top y member
      have last := List.getLast?_eq_some_getLast (List.ne_nil_of_mem member)
      refine Way.laterFirst_forward.mpr (Bool.eq_false_iff.mpr fun less => ?_)
      exact Bool.eq_false_iff.mp (ends x top _ last)
        (h.trans x y _ less (runs'.le_last h member last))
    have begins' : ∀ x ∈ earlier.head?, ∀ y ∈ later.head?,
        Way.forward.laterFirst le x y = true :=
      fun x first y first' => Way.laterFirst_forward.mpr (begins x first y first')
    obtain ⟨out, limit', merged, meets⟩ :=
      merge_meets h .forward limit runs.up runs'.up runs.all runs'.all ends' begins'
    exact ⟨out, limit', merged, ⟨meets.up, within meets.same⟩, meets.same⟩
  · have ends' : Merging.EndsRight le .backward earlier.reverse later.reverse := by
      intro y first' x member
      rw [List.getLast?_reverse] at first'
      rw [List.mem_reverse] at member
      have first := List.head?_eq_some_head (List.ne_nil_of_mem member)
      refine Bool.eq_false_iff.mpr fun less => ?_
      exact Bool.eq_false_iff.mp (begins _ first y first')
        (h.trans _ x y (runs.le_of_head h first member) less)
    have begins' : ∀ x ∈ earlier.reverse.head?, ∀ y ∈ later.reverse.head?,
        Way.backward.laterFirst le x y = false := by
      simp only [List.head?_reverse]
      exact ends
    obtain ⟨out, limit', merged, meets⟩ :=
      merge_meets h .backward limit (List.pairwise_reverse.mpr runs.up)
        (List.pairwise_reverse.mpr runs'.up)
          (fun x member => runs.all x (List.mem_reverse.mp member))
        (fun y member => runs'.all y (List.mem_reverse.mp member)) ends' begins'
    have same : SameTies le out.reverse (earlier ++ later) := by
      simpa [Way.join] using meets.same.reverse
    refine ⟨out.reverse, limit', Fault.bind_eq_ok.mpr ⟨_, merged, rfl⟩, ⟨?_, within same⟩, same⟩
    exact List.pairwise_reverse.mpr meets.up

/-- What is in place at either end can be left out of a merge. -/
theorem mergeMiddle_run (h : Compares before le P) (limit : Nat) {front back mid tail : List α}
    {x y : α} (runs : IsRun le P (front ++ back)) (runs' : IsRun le P (mid ++ tail))
    (last : x ∈ back.getLast?) (first : y ∈ mid.head?)
    (pass : ∀ u ∈ front, le u y = true) (stop : ∀ u ∈ back, le u y = false)
    (pass' : ∀ v ∈ tail, le x v = true) (stop' : ∀ v ∈ mid, le x v = false) :
    ∃ merged limit', mergeShorter before limit back mid = .ok (merged, limit') ∧
      IsRun le P (front ++ merged ++ tail) ∧
      SameTies le (front ++ merged ++ tail) (front ++ back ++ (mid ++ tail)) := by
  have begins : ∀ u ∈ back.head?, ∀ v ∈ mid.head?, le u v = false := by
    intro u top v top'
    cases first.symm.trans top'
    exact stop u (List.mem_of_mem_head? top)
  have ends : ∀ u ∈ back.getLast?, ∀ v ∈ mid.getLast?, le u v = false := by
    intro u top v top'
    cases last.symm.trans top
    exact stop' v (List.mem_of_mem_getLast? top')
  have inner := runs.sublist (List.sublist_append_right front back)
  have inner' := runs'.sublist (List.sublist_append_left mid tail)
  obtain ⟨merged, limit', merging, run, same⟩ := mergeShorter_run h limit inner inner' begins ends
  obtain ⟨_, _, across⟩ := List.pairwise_append.mp runs.up
  obtain ⟨_, _, across'⟩ := List.pairwise_append.mp runs'.up
  have least : ∀ v ∈ mid, le y v = true := fun v => inner'.le_of_head h first
  have greatest : ∀ u ∈ back, le u x = true := fun u member => inner.le_last h member last
  have above : IsRun le P (front ++ merged) := by
    refine (runs.sublist (List.sublist_append_left front back)).append run ?_
    intro u member w member'
    rcases List.mem_append.mp (same.mem h.total member') with member' | member'
    · exact across u member w member'
    · exact h.trans u y w (pass u member) (least w member')
  have whole := ((SameTies.refl front).append same).append (SameTies.refl tail)
  refine ⟨merged, limit', merging, ?_, by simpa using whole⟩
  refine above.append (runs'.sublist (List.sublist_append_right mid tail)) ?_
  intro w member v member'
  rcases List.mem_append.mp member with member | member
  · have lower := across w member x (List.mem_of_mem_getLast? last)
    exact h.trans w x v lower (pass' v member')
  · rcases List.mem_append.mp (same.mem h.total member) with member | member
    · exact h.trans w x v (greatest w member) (pass' v member')
    · exact across' w member v member'

/-- What may stay in front of a later run that begins with `y`. -/
theorem gallop_front (h : Compares before le P) {run : List α} {y : α} (runs : IsRun le P run)
    (has : P y) :
    ∃ front back, run = front ++ back ∧
      gallop (fun x => return !(← before y x)) .forward run = .ok front.length ∧
      (∀ x ∈ front, le x y = true) ∧ ∀ x ∈ back, le x y = false := by
  obtain ⟨front, back, rfl, pass, stop⟩ := exists_cut (p := fun x => le x y)
    (runs.up.imp fun {u v} less passes => h.trans u v y less passes)
  refine ⟨front, back, rfl, gallop_eq (fun x member => ?_) pass stop .forward, pass, stop⟩
  rw [h.compares y x has (runs.all x member)]
  exact congrArg Except.ok (Bool.not_not _)

/-- What may stay behind an earlier run that ends with `x`. -/
theorem gallop_tail (h : Compares before le P) {run : List α} {x : α} (runs : IsRun le P run)
    (has : P x) :
    ∃ mid tail, run = mid ++ tail ∧
      gallop (fun y => return !(← before y x)) .backward run.reverse = .ok tail.length ∧
      (∀ y ∈ mid, le x y = false) ∧ ∀ y ∈ tail, le x y = true := by
  obtain ⟨tail, mid, reversed, pass, stop⟩ := exists_cut (p := fun y => le x y)
    ((List.pairwise_reverse.mpr runs.up).imp fun {u v} less passes => h.trans x v u passes less)
  have whole : run = mid.reverse ++ tail.reverse := by
    rw [← List.reverse_append, ← reversed, List.reverse_reverse]
  refine ⟨mid.reverse, tail.reverse, whole, ?_, by simpa using stop, by simpa using pass⟩
  rw [reversed, List.length_reverse]
  refine gallop_eq (fun y member => ?_) pass stop .backward
  rw [← reversed, List.mem_reverse] at member
  rw [h.compares y x (runs.all y member) has]
  exact congrArg Except.ok (Bool.not_not _)

theorem mergeRuns_run (h : Compares before le P) (limit : Nat) {earlier later : List α}
    (runs : IsRun le P earlier) (runs' : IsRun le P later) :
    ∃ out limit', mergeRuns before limit earlier later = .ok (out, limit') ∧
      IsRun le P out ∧ SameTies le out (earlier ++ later) := by
  cases later with
  | nil => exact ⟨earlier, limit, rfl, runs, by simpa using SameTies.refl earlier⟩
  | cons y b =>
    obtain ⟨front, back, rfl, found, pass, stop⟩ :=
      gallop_front h runs (runs'.all y List.mem_cons_self)
    unfold mergeRuns
    cases last : back.getLast? with
    | none =>
      refine ⟨_, limit, Fault.bind_eq_ok.mpr ⟨_, found, ?_⟩, ?_, SameTies.refl _⟩
      · rw [List.drop_left, last]
        rfl
      · rw [List.getLast?_eq_none_iff] at last
        refine runs.append runs' fun u member v member' => ?_
        rw [last, List.append_nil] at member
        exact h.trans u y v (pass u member) (runs'.le_of_head h rfl member')
    | some x =>
      have has : P x := runs.all x (List.mem_append_right front (List.mem_of_mem_getLast? last))
      obtain ⟨mid, tail, whole, found', stop', pass'⟩ := gallop_tail h runs' has
      have count : (y :: b).length - tail.length = mid.length := by
        rw [whole, List.length_append, Nat.add_sub_cancel]
      by_cases none : mid = []
      · refine ⟨_, limit, Fault.bind_eq_ok.mpr ⟨_, found, ?_⟩, ?_, SameTies.refl _⟩
        · rw [List.drop_left, last]
          refine Fault.bind_eq_ok.mpr ⟨_, found', ?_⟩
          dsimp only
          rw [count, none, if_pos List.length_nil]
          rfl
        · refine runs.append runs' fun u member v member' => ?_
          rw [whole, none, List.nil_append] at member'
          have greatest := runs.le_last h member (by rw [List.getLast?_append, last]; rfl)
          exact h.trans u x v greatest (pass' v member')
      · have first : y ∈ mid.head? := by
          obtain ⟨z, others, rfl⟩ := List.exists_cons_of_ne_nil none
          rw [List.cons_append] at whole
          rw [(List.cons.inj whole).1]
          rfl
        rw [whole] at runs'
        obtain ⟨merged, limit', merging, run, same⟩ :=
          mergeMiddle_run h limit runs runs' last first pass stop pass' stop'
        rw [← whole] at same
        refine ⟨_, limit', Fault.bind_eq_ok.mpr ⟨_, found, ?_⟩, run, same⟩
        rw [List.drop_left, last]
        refine Fault.bind_eq_ok.mpr ⟨_, found', ?_⟩
        dsimp only
        rw [count, if_neg (by simpa using none), whole, List.take_left, List.take_left,
          List.drop_left]
        exact Fault.bind_eq_ok.mpr ⟨_, merging, rfl⟩

/-- What is held while runs are pushed: runs, which together have the items so far. -/
structure Held.Fits (le : α → α → Bool) (P : α → Prop) (items : List α) (held : Held α) :
    Prop where
  below : ∀ entry ∈ held.below, IsRun le P entry.1
  top : IsRun le P held.top
  same : SameTies le held.items items

theorem settle_fits (h : Compares before le P) (power : Nat) {limit : Nat}
    {below : List (List α × Nat)} {top : List α} (runs : ∀ entry ∈ below, IsRun le P entry.1)
    (run : IsRun le P top) :
    ∃ held, settle before power below top limit = .ok held ∧
      held.Fits le P (below.reverse.flatMap Prod.fst ++ top) := by
  induction below generalizing top limit with
  | nil => exact ⟨⟨[], top, limit⟩, rfl, runs, run, SameTies.refl _⟩
  | cons entry below ih =>
    obtain ⟨next, deep⟩ := entry
    obtain ⟨runs', others⟩ := List.forall_mem_cons.mp runs
    rw [settle]
    split
    · obtain ⟨merged, limit', merging, run', same⟩ := mergeRuns_run h limit runs' run
      obtain ⟨held, settled, fits⟩ := ih others run'
      refine ⟨held, Fault.bind_eq_ok.mpr ⟨_, merging, settled⟩, fits.below, fits.top,
        fits.same.trans ?_⟩
      simpa using (SameTies.refl (below.reverse.flatMap Prod.fst)).append same
    · exact ⟨_, rfl, runs, run, SameTies.refl _⟩

theorem push_fits (h : Compares before le P) (total : Nat) {items run : List α} {held : Held α}
    (fits : held.Fits le P items) (runs : IsRun le P run) :
    ∃ pushed, held.push before total run = .ok pushed ∧ pushed.Fits le P (items ++ run) := by
  obtain ⟨settled, settling, fits'⟩ := settle_fits h _ fits.below fits.top
  refine ⟨_, Fault.bind_eq_ok.mpr ⟨settled, settling, rfl⟩, ?_, runs, ?_⟩
  · exact List.forall_mem_cons.mpr ⟨fits'.top, fits'.below⟩
  · have same := (fits'.same.trans fits.same).append (SameTies.refl run)
    simpa [Held.items] using same

theorem foldlM_push_fits (h : Compares before le P) (total : Nat) {items : List α}
    {runs : List (List α)} {held : Held α} (fits : held.Fits le P items)
    (areRuns : ∀ run ∈ runs, IsRun le P run) :
    ∃ last, runs.foldlM (Held.push before total) held = .ok last ∧
      last.Fits le P (items ++ runs.flatten) := by
  induction runs generalizing held items with
  | nil => exact ⟨held, rfl, by simpa using fits⟩
  | cons run runs ih =>
    obtain ⟨first, others⟩ := List.forall_mem_cons.mp areRuns
    obtain ⟨pushed, pushing, fits'⟩ := push_fits h total fits first
    obtain ⟨last, folded, fits''⟩ := ih fits' others
    exact ⟨last, Fault.bind_eq_ok.mpr ⟨pushed, pushing, folded⟩, by simpa using fits''⟩

theorem collapse_run (h : Compares before le P) (limit : Nat) {below : List (List α)}
    {top : List α} (areRuns : ∀ run ∈ below, IsRun le P run) (run : IsRun le P top) :
    ∃ out, collapse before limit below top = .ok out ∧ IsRun le P out ∧
      SameTies le out (below.reverse.flatten ++ top) := by
  induction limit, below, top using collapse.induct with
  | case1 limit top => exact ⟨top, by rw [collapse]; rfl, run, SameTies.refl _⟩
  | case2 limit next top =>
    obtain ⟨merged, limit', merging, run', same⟩ :=
      mergeRuns_run h limit (areRuns next List.mem_cons_self) run
    rw [collapse]
    exact ⟨merged, Fault.bind_eq_ok.mpr ⟨_, merging, rfl⟩, run', by simpa using same⟩
  | case3 limit next lower below top shorter ih =>
    obtain ⟨first, others⟩ := List.forall_mem_cons.mp areRuns
    obtain ⟨second, others⟩ := List.forall_mem_cons.mp others
    obtain ⟨merged, limit', merging, run', same⟩ := mergeRuns_run h limit second first
    obtain ⟨out, collapsed, sorted, same'⟩ :=
      ih merged limit' (List.forall_mem_cons.mpr ⟨run', others⟩) run
    rw [collapse, if_pos shorter]
    refine ⟨out, Fault.bind_eq_ok.mpr ⟨_, merging, collapsed⟩, sorted, same'.trans ?_⟩
    have whole := ((SameTies.refl below.reverse.flatten).append same).append (SameTies.refl top)
    simpa using whole
  | case4 limit next lower below top longer ih =>
    obtain ⟨first, others⟩ := List.forall_mem_cons.mp areRuns
    obtain ⟨merged, limit', merging, run', same⟩ := mergeRuns_run h limit first run
    obtain ⟨out, collapsed, sorted, same'⟩ := ih merged limit' others run'
    rw [collapse, if_neg longer]
    refine ⟨out, Fault.bind_eq_ok.mpr ⟨_, merging, collapsed⟩, sorted, same'.trans ?_⟩
    simpa using (SameTies.refl (lower :: below).reverse.flatten).append same

/-- Where the comparisons are those of an order, a sort by runs ends with the list of merge sort. -/
theorem sort_eq_mergeSort {items : List α} (h : Compares before le (· ∈ items)) :
    sort before items = .ok (items.mergeSort le) := by
  have all : ∀ x ∈ items, x ∈ items := fun _ => id
  obtain ⟨runs, cut, areRuns, same⟩ := h.cutRuns_runs (leastRun items.length 0) all
  suffices sorted : ∃ out, sort before items = .ok out ∧ IsRun le (· ∈ items) out ∧
      SameTies le out items by
    obtain ⟨out, sorted, run, same⟩ := sorted
    rw [sorted, StableSort.eq_mergeSort h.trans h.total run.up same]
  cases runs with
  | nil =>
    refine ⟨[], Fault.bind_eq_ok.mpr ⟨_, cut, rfl⟩, ⟨List.Pairwise.nil, ?_⟩, same⟩
    intro x member
    cases member
  | cons first others =>
    obtain ⟨run, areRuns⟩ := List.forall_mem_cons.mp areRuns
    have fits : Held.Fits le (· ∈ items) first ⟨[], first, 7⟩ :=
      ⟨List.forall_mem_nil _, run, SameTies.refl first⟩
    obtain ⟨held, pushed, fits⟩ := foldlM_push_fits h items.length fits areRuns
    have below : ∀ run ∈ held.below.map Prod.fst, IsRun le (· ∈ items) run := by
      intro run member
      obtain ⟨entry, held', rfl⟩ := List.mem_map.mp member
      exact fits.below entry held'
    obtain ⟨out, collapsed, sorted, same'⟩ := collapse_run h held.limit below fits.top
    rw [← List.map_reverse, ← List.flatMap_def] at same'
    refine ⟨out, Fault.bind_eq_ok.mpr ⟨_, cut, Fault.bind_eq_ok.mpr ⟨held, pushed, collapsed⟩⟩,
      sorted, (same'.trans fits.same).trans same⟩

end NameLint.RunSort
