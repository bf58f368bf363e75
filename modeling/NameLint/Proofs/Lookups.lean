import NameLint.Config.Settings

/-!
# Lookups in entries

What is found after a value has been put under a key, and after entries have been
merged over others. A key is told from others by an equality that need not hold for
every value as one would expect, so both are stated for keys among which it does. It
does among all values where what is looked up is a text, and among all that can be
keys whatever is looked up.
-/

namespace NameLint

namespace Value

/-- Only a text is equal to a text. -/
theorem same_text {v : Value} {s : String} : v.same (.text s) = true ↔ v = .text s := by
  cases v <;> simp [same, sameScalar, number?]

theorem text_same {v : Value} {s : String} : (Value.text s).same v = true ↔ v = .text s := by
  cases v with
  | text t =>
    simp only [same, sameScalar, beq_iff_eq, text.injEq]
    exact eq_comm
  | _ => simp [same, sameScalar, number?]

theorem same_text_comm (v : Value) (s : String) : v.same (.text s) = (Value.text s).same v := by
  rw [Bool.eq_iff_iff, same_text, text_same]

/-- Whether equality to `key` goes along with the equality of `k` and `l`. -/
structure AgreeOn (key k l : Value) : Prop where
  alike : k.same l = true → k.same key = l.same key
  equal : k.same key = true → l.same key = true → k.same l = true

theorem agreeOn_text (s : String) (k l : Value) : AgreeOn (.text s) k l := by
  constructor
  · intro same
    rw [Bool.eq_iff_iff, same_text, same_text]
    constructor
    · rintro rfl
      exact text_same.mp same
    · rintro rfl
      exact same_text.mp same
  · intro first second
    rw [same_text.mp second]
    exact first

end Value

namespace Entries

theorem find?_cons (k v : Value) (rest : Entries) (key : Value) :
    find? ((k, v) :: rest) key = if k.same key = true then some v else rest.find? key := by
  by_cases same : k.same key = true <;> simp [find?, same]

@[simp] theorem get?_nil (key : String) : get? [] key = none := rfl

theorem get?_cons_self (key : String) (v : Value) (rest : Entries) :
    get? ((.text key, v) :: rest) key = some v := by
  rw [get?, find?_cons, if_pos (Value.same_text.mpr rfl)]

theorem get?_cons_of_ne {k : Value} {key : String} (other : k ≠ .text key) (v : Value)
    (rest : Entries) : get? ((k, v) :: rest) key = get? rest key := by
  rw [get?, find?_cons, if_neg fun same => other (Value.same_text.mp same)]
  rfl

@[simp] theorem get?_cons_text (k key : String) (v : Value) (rest : Entries) :
    get? ((.text k, v) :: rest) key = if k = key then some v else get? rest key := by
  by_cases own : k = key
  · rw [own, get?_cons_self, if_pos rfl]
  · rw [get?_cons_of_ne (by simpa using own), if_neg own]

theorem find?_of_absent {entries : Entries} {key : Value}
    (absent : ∀ e ∈ entries, e.1.same key = false) : entries.find? key = none := by
  rw [find?, List.find?_eq_none.mpr]
  · rfl
  · intro e he same
    rw [absent e he] at same
    cases same

/-- An entry is found under its key, if no other is. -/
theorem find?_of_mem {entries : Entries} {k v : Value}
    (once : entries.Pairwise fun e f => e.1.same k = true → f.1.same k = false)
    (self : k.same k = true) (member : (k, v) ∈ entries) : entries.find? k = some v := by
  induction entries with
  | nil => cases member
  | cons e rest ih =>
    obtain ⟨l, w⟩ := e
    obtain ⟨alone, later⟩ := List.pairwise_cons.mp once
    rcases List.mem_cons.mp member with same | behind
    · cases same
      rw [find?_cons, if_pos self]
    · have apart : ¬ l.same k = true := fun same =>
        Bool.eq_false_iff.mp (alone _ behind same) self
      rw [find?_cons, if_neg apart]
      exact ih later behind

/-- The keys stay in their order, and a new one comes last. -/
theorem keys_put (entries : Entries) (key v : Value) :
    (entries.put key v).map Prod.fst =
      entries.map Prod.fst ++ [key].filter fun k => (entries.find? k).isNone := by
  induction entries with
  | nil => rfl
  | cons e rest ih =>
    obtain ⟨k, old⟩ := e
    by_cases same : k.same key = true
    · simp [put, find?_cons, same]
    · simp [put, find?_cons, same, ih, List.filter_cons]

/-- No other key comes in with what is put. -/
theorem forall_mem_put {p : Value → Prop} {entries : Entries} (keyed : ∀ e ∈ entries, p e.1)
    {k : Value} (isKey : p k) (v : Value) : ∀ e ∈ entries.put k v, p e.1 := by
  intro e member
  have among : e.1 ∈ (entries.put k v).map Prod.fst := List.mem_map_of_mem member
  rw [keys_put, List.mem_append] at among
  rcases among with old | new
  · obtain ⟨o, there, same⟩ := List.mem_map.mp old
    exact same ▸ keyed o there
  · obtain rfl := List.mem_singleton.mp (List.mem_filter.mp new).1
    exact isKey

section Agreement

variable {good : Value → Prop} {key : Value}
  (agree : ∀ k l, good k → good l → Value.AgreeOn key k l)

include agree

/-- What is equal to the key has the same entry. -/
theorem find?_congr {entries : Entries} (keyed : ∀ e ∈ entries, good e.1) {k : Value}
    (isGood : good k) (same : k.same key = true) : entries.find? k = entries.find? key := by
  induction entries with
  | nil => rfl
  | cons e rest ih =>
    obtain ⟨l, v⟩ := e
    have agrees := agree l k (keyed _ List.mem_cons_self) isGood
    have alike : l.same k = l.same key := by
      rw [Bool.eq_iff_iff]
      exact ⟨fun equal => (agrees.alike equal).trans same, fun equal => agrees.equal equal same⟩
    rw [find?_cons, find?_cons, alike, ih fun e he => keyed e (List.mem_cons_of_mem _ he)]

/-- What is found after a value has been put under a key. -/
theorem find?_put {entries : Entries} (keyed : ∀ e ∈ entries, good e.1) {k : Value}
    (isGood : good k) (v : Value) :
    (entries.put k v).find? key = if k.same key = true then some v else entries.find? key := by
  induction entries with
  | nil => exact find?_cons k v [] key
  | cons e rest ih =>
    obtain ⟨l, old⟩ := e
    have agrees := agree l k (keyed _ List.mem_cons_self) isGood
    rw [put]
    split
    · rename_i own
      rw [find?_cons, find?_cons, agrees.alike own]
      split <;> rfl
    · rename_i other
      rw [find?_cons, find?_cons, ih fun e he => keyed e (List.mem_cons_of_mem _ he)]
      by_cases own : l.same key = true
      · -- The two keys are not equal, as the first entry is under one and not under the other.
        rw [if_pos own, if_neg fun same => other (agrees.equal own same), if_pos own]
      · rw [if_neg own, if_neg own]

/-- What is found in merged entries, if it stands at most once in those on top. -/
theorem find?_merge {base top : Entries} (below : ∀ e ∈ base, good e.1)
    (above : ∀ e ∈ top, good e.1)
    (once : top.Pairwise fun e f => e.1.same key = true → f.1.same key = false) :
    find? (LintConfig.merge base top) key =
      (find? top key).elim (find? base key) fun v =>
        some (LintConfig.mergeValue (find? base key) v) := by
  induction top generalizing base with
  | nil => rw [LintConfig.merge]; rfl
  | cons e rest ih =>
    obtain ⟨k, v⟩ := e
    obtain ⟨alone, later⟩ := List.pairwise_cons.mp once
    have isGood : good k := above _ List.mem_cons_self
    rw [LintConfig.merge, ih (forall_mem_put below isGood _)
      (fun e he => above e (List.mem_cons_of_mem _ he)) later, find?_put agree below isGood,
      find?_cons]
    by_cases same : k.same key = true
    · rw [find?_of_absent fun e he => alone e he same, if_pos same, if_pos same,
        find?_congr agree below isGood same]
      rfl
    · rw [if_neg same, if_neg same]

end Agreement

end Entries

end NameLint
