import NameLint.RunSort

/-!
# Sorting by runs keeps the items

Every part of the sort only moves items: insertion, the steps of a merge, and the
merging of runs. So whatever the comparisons say, a sort that ends has neither lost
an item nor made one up.
-/

namespace NameLint.RunSort

variable {α : Type} {before : α → α → Except Fault Bool}

theorem insertAll_perm {run rest out : List α} (h : insertAll before run rest = .ok out) :
    out.Perm (run ++ rest) := by
  induction rest generalizing run with
  | nil =>
    cases h
    simp
  | cons x rest ih =>
    obtain ⟨i, _, h⟩ := Fault.bind_eq_ok.mp h
    have put : (run.take i ++ x :: run.drop i).Perm (x :: run) := by
      refine List.perm_middle.trans ?_
      rw [List.take_append_drop]
    exact (ih h).trans ((put.append_right rest).trans List.perm_middle.symm)

theorem cutRuns_perm {least : Nat} {items : List α} {runs : List (List α)}
    (h : cutRuns before least items = .ok runs) : runs.flatten.Perm items := by
  induction items using cutRuns.induct least generalizing runs with
  | case1 first second rest ih =>
    rw [cutRuns] at h
    obtain ⟨descending, _, h⟩ := Fault.bind_eq_ok.mp h
    obtain ⟨n, _, h⟩ := Fault.bind_eq_ok.mp h
    obtain ⟨filled, filling, h⟩ := Fault.bind_eq_ok.mp h
    obtain ⟨others, cut, h⟩ := Fault.bind_eq_ok.mp h
    cases h
    have turned : (if descending then (first :: second :: rest.take n).reverse
        else first :: second :: rest.take n).Perm (first :: second :: rest.take n) := by
      split
      · exact List.reverse_perm _
      · exact List.Perm.refl _
    rw [List.flatten_cons]
    refine ((insertAll_perm filling).append (ih n cut)).trans ?_
    rw [List.append_assoc, List.take_append_drop]
    simpa using turned.append_right (rest.drop n)
  | case2 =>
    rw [cutRuns] at h
    cases h
    exact List.Perm.refl _
  | case3 single short none =>
    rw [cutRuns] at h
    · cases h
      simp
    · exact short
    · exact none

namespace Merging

theorem rest_perm (way : Way) (s : Merging α) : (s.rest way).Perm (s.earlier ++ s.later) := by
  cases way with
  | forward => exact List.perm_append_comm
  | backward => exact List.Perm.refl _

theorem takeEarlier_perm (s : Merging α) (n : Nat) (pace : Pace) :
    ((s.takeEarlier n pace).1 ++
      ((s.takeEarlier n pace).2.earlier ++ (s.takeEarlier n pace).2.later)).Perm
      (s.earlier ++ s.later) := by
  simp [takeEarlier, ← List.append_assoc]

theorem takeLater_perm (s : Merging α) (n : Nat) (pace : Pace) :
    ((s.takeLater n pace).1 ++
      ((s.takeLater n pace).2.earlier ++ (s.takeLater n pace).2.later)).Perm
      (s.earlier ++ s.later) := by
  refine (List.perm_append_comm_assoc _ _ _).trans (List.Perm.append_left _ ?_)
  simp [takeLater]

theorem step_perm {way : Way} {s next : Merging α} {taken : List α}
    (h : s.step before way = .ok (taken, next)) :
    (taken ++ (next.earlier ++ next.later)).Perm (s.earlier ++ s.later) := by
  rcases step_cases before h with ⟨n, pace, taking, _⟩ | ⟨n, pace, taking, _⟩ |
    ⟨nothing, same, same', _⟩
  · cases taking
    exact s.takeEarlier_perm n pace
  · cases taking
    exact s.takeLater_perm n pace
  · rw [nothing, same, same', List.nil_append]

theorem finish_perm {way : Way} {s : Merging α} {limit : Nat} {out : List α}
    (h : s.finish before way = .ok (out, limit)) : out.Perm (s.earlier ++ s.later) := by
  induction s using finish.induct before way generalizing out with
  | case1 s going fault failed =>
    rw [finish, dif_pos going] at h
    split at h
    · cases h
    · rename_i succeeded
      cases failed.symm.trans succeeded
  | case2 s going taken next stepped ih =>
    rw [finish, dif_pos going] at h
    split at h
    · cases h
    · rename_i stepped'
      cases stepped.symm.trans stepped'
      obtain ⟨⟨others, last⟩, finished, h⟩ := Fault.bind_eq_ok.mp h
      cases h
      exact ((ih finished).append_left taken).trans (step_perm stepped)
  | case3 s done =>
    rw [finish, dif_neg done] at h
    cases h
    exact s.rest_perm way

end Merging

theorem merge_perm {way : Way} {limit limit' : Nat} {earlier later out : List α}
    (h : merge before way limit earlier later = .ok (out, limit')) :
    out.Perm (earlier ++ later) := by
  obtain ⟨⟨others, last⟩, finished, h⟩ := Fault.bind_eq_ok.mp h
  cases h
  have kept := Merging.finish_perm finished
  cases way with
  | forward => exact (kept.append_left _).trans (Merging.takeLater_perm _ _ _)
  | backward => exact (kept.append_left _).trans (Merging.takeEarlier_perm _ _ _)

theorem mergeShorter_perm {limit limit' : Nat} {earlier later out : List α}
    (h : mergeShorter before limit earlier later = .ok (out, limit')) :
    out.Perm (earlier ++ later) := by
  unfold mergeShorter at h
  split at h
  · exact merge_perm h
  · obtain ⟨⟨merged, last⟩, reversed, h⟩ := Fault.bind_eq_ok.mp h
    cases h
    refine (List.reverse_perm merged).trans ((merge_perm reversed).trans ?_)
    exact (List.reverse_perm earlier).append (List.reverse_perm later)

theorem mergeRuns_perm {limit limit' : Nat} {earlier later out : List α}
    (h : mergeRuns before limit earlier later = .ok (out, limit')) :
    out.Perm (earlier ++ later) := by
  unfold mergeRuns at h
  split at h
  · cases h
    simp
  · obtain ⟨m, _, h⟩ := Fault.bind_eq_ok.mp h
    split at h
    · cases h
      exact List.Perm.refl _
    · obtain ⟨behind, _, h⟩ := Fault.bind_eq_ok.mp h
      dsimp only at h
      split at h
      · cases h
        exact List.Perm.refl _
      · obtain ⟨⟨merged, last⟩, merging, h⟩ := Fault.bind_eq_ok.mp h
        cases h
        have inside := (mergeShorter_perm merging).append_left (earlier.take m)
        refine (inside.append_right _).trans ?_
        rw [List.append_assoc, List.append_assoc, List.take_append_drop, ← List.append_assoc,
          List.take_append_drop]

/-- The items of all runs that are held, those of the lowest run first. -/
def Held.items (held : Held α) : List α :=
  held.below.reverse.flatMap Prod.fst ++ held.top

theorem settle_perm {power limit : Nat} {below : List (List α × Nat)} {top : List α}
    {held : Held α} (h : settle before power below top limit = .ok held) :
    held.items.Perm (below.reverse.flatMap Prod.fst ++ top) := by
  induction below generalizing top limit with
  | nil =>
    cases h
    exact List.Perm.refl _
  | cons entry below ih =>
    obtain ⟨run, deep⟩ := entry
    rw [settle] at h
    split at h
    · obtain ⟨⟨merged, last⟩, merging, h⟩ := Fault.bind_eq_ok.mp h
      refine (ih h).trans (((mergeRuns_perm merging).append_left _).trans ?_)
      simp
    · cases h
      exact List.Perm.refl _

theorem push_perm {total : Nat} {held pushed : Held α} {run : List α}
    (h : held.push before total run = .ok pushed) : pushed.items.Perm (held.items ++ run) := by
  obtain ⟨settled, settling, h⟩ := Fault.bind_eq_ok.mp h
  cases h
  refine List.Perm.append_right run ?_
  simpa [Held.items] using settle_perm settling

theorem foldlM_push_perm {total : Nat} {runs : List (List α)} {held last : Held α}
    (h : runs.foldlM (Held.push before total) held = .ok last) :
    last.items.Perm (held.items ++ runs.flatten) := by
  induction runs generalizing held with
  | nil =>
    cases h
    simp
  | cons run runs ih =>
    obtain ⟨pushed, pushing, h⟩ := Fault.bind_eq_ok.mp h
    refine (ih h).trans ?_
    rw [List.flatten_cons, ← List.append_assoc]
    exact (push_perm pushing).append_right _

theorem collapse_perm {limit : Nat} {below : List (List α)} {top out : List α}
    (h : collapse before limit below top = .ok out) :
    out.Perm (below.reverse.flatten ++ top) := by
  induction limit, below, top using collapse.induct with
  | case1 limit top =>
    rw [collapse] at h
    cases h
    exact List.Perm.refl _
  | case2 limit run top =>
    rw [collapse] at h
    obtain ⟨⟨merged, last⟩, merging, h⟩ := Fault.bind_eq_ok.mp h
    cases h
    simpa using mergeRuns_perm merging
  | case3 limit run lower below top shorter ih =>
    rw [collapse, if_pos shorter] at h
    obtain ⟨⟨merged, last⟩, merging, h⟩ := Fault.bind_eq_ok.mp h
    have merged' := ((mergeRuns_perm merging).append_left below.reverse.flatten).append_right top
    exact (ih merged last h).trans (by simpa using merged')
  | case4 limit run lower below top longer ih =>
    rw [collapse, if_neg longer] at h
    obtain ⟨⟨merged, last⟩, merging, h⟩ := Fault.bind_eq_ok.mp h
    have merged' := (mergeRuns_perm merging).append_left (lower :: below).reverse.flatten
    exact (ih merged last h).trans (by simpa using merged')

/-- A sort that ends loses no item and makes none up. -/
theorem sort_perm {items sorted : List α} (h : sort before items = .ok sorted) :
    sorted.Perm items := by
  obtain ⟨runs, cut, h⟩ := Fault.bind_eq_ok.mp h
  refine List.Perm.trans ?_ (cutRuns_perm cut)
  cases runs with
  | nil =>
    cases h
    exact List.Perm.refl _
  | cons first others =>
    obtain ⟨held, pushing, h⟩ := Fault.bind_eq_ok.mp h
    have kept := foldlM_push_perm pushing
    have merged := collapse_perm h
    rw [← List.map_reverse, ← List.flatMap_def] at merged
    exact merged.trans kept

end NameLint.RunSort
