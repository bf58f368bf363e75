import NameLint.Proofs.ConfigAcceptance
import NameLint.Proofs.EqualKeys

/-!
# Merged mappings by paths

Entries are written over others mapping by mapping, so what stands in the result is
told along paths of keys. Where a path leads to a value in the entries written over,
it leads to that value in the result, merged over what the path leads to below. The
rules for values, for keys that are missing and for mappings that meet none are read
off from this, and so is the order of the keys at each level. Writing the same entries
over the result once more finds each of them already there.
-/

namespace NameLint

namespace Value

/-- Equality is as one would expect among values that can be keys. -/
theorem agreeOn_of_canBeKey (key : Value) {k l : Value} (isKey : k.canBeKey = true)
    (isKey' : l.canBeKey = true) : AgreeOn key k l := by
  refine ⟨fun same => same_left isKey same key, fun first second => ?_⟩
  rw [same_left isKey first, ← same_left isKey' second]
  exact same_self isKey'

/-- What a path of keys leads to. -/
def at? : Value → List Value → Option Value
  | v, [] => some v
  | v, key :: path => v.entries?.bind fun entries => (entries.find? key).bind fun w => at? w path

/-- The keys of the mapping that a path leads to, in their order. -/
def keysAt (v : Value) (path : List Value) : List Value :=
  (((v.at? path).bind entries?).getD []).map Prod.fst

mutual

/-- Whether the value is made of mappings that end: none holds itself, and each has keys that can be
keys, all different. What is no mapping is not looked into. -/
def isNested : Value → Bool
  | .map entries => entriesNested entries
  | .again mapping => !mapping
  | _ => true

/-- Whether the keys can be keys and are all different, and the values are nested. -/
def entriesNested : List (Value × Value) → Bool
  | [] => true
  | (k, v) :: rest =>
    k.canBeKey && rest.all (fun e => !k.same e.1) && isNested v && entriesNested rest

end

theorem entriesNested_cons {k v : Value} {rest : Entries} :
    entriesNested ((k, v) :: rest) = true ↔
      k.canBeKey = true ∧ (∀ e ∈ rest, k.same e.1 = false) ∧ v.isNested = true ∧
        entriesNested rest = true := by
  simp [entriesNested, and_assoc]

theorem isNested_map {entries : Entries} :
    (Value.map entries).isNested = entriesNested entries := by
  rw [isNested]

/-- What may be there is a mapping or not. -/
theorem isMapping_or (b : Option Value) :
    b.bind entries? = none ∨ ∃ entries, b = some (.map entries) := by
  rcases b with _ | (_ | _) <;> simp [entries?]

theorem at?_map_cons (entries : Entries) (key : Value) (path : List Value) :
    (Value.map entries).at? (key :: path) = (entries.find? key).bind (·.at? path) := rfl

theorem at?_cons_eq_some {v w key : Value} {path : List Value} :
    v.at? (key :: path) = some w ↔
      ∃ (entries : Entries) (next : Value), v = .map entries ∧ entries.find? key = some next ∧
        next.at? path = some w := by
  simp [at?, Option.bind_eq_some_iff, entries?_eq_some]

/-- No path goes on from what is no mapping. -/
theorem bind_at?_of_plain {b : Option Value} (plain : b.bind entries? = none) (key : Value)
    (path : List Value) : b.bind (·.at? (key :: path)) = none := by
  cases b with
  | none => rfl
  | some v =>
    rw [Option.bind_some] at plain ⊢
    rw [at?, plain]
    rfl

/-- A path that goes on leads through what it has led to. -/
theorem at?_append (v : Value) (front back : List Value) :
    v.at? (front ++ back) = (v.at? front).bind (·.at? back) := by
  induction front generalizing v with
  | nil => rfl
  | cons key front ih => simp only [List.cons_append, at?, ih, Option.bind_assoc]

theorem at?_snoc {v : Value} {path : List Value} {entries : Entries}
    (leads : v.at? path = some (.map entries)) (key : Value) :
    v.at? (path ++ [key]) = entries.find? key := by
  rw [at?_append, leads, Option.bind_some, at?_map_cons]
  exact Option.bind_fun_some _

end Value

/-- A value made of mappings that end. -/
structure NestedValue where
  value : Value
  nested : value.isNested = true

structure NestedEntries where
  entries : Entries
  nested : (Value.map entries).isNested = true

def NestedEntries.toValue (own : NestedEntries) : NestedValue :=
  ⟨.map own.entries, own.nested⟩

namespace Entries

theorem forall_mem_of_nested {entries : Entries} (nested : Value.entriesNested entries = true) :
    ∀ e ∈ entries, e.1.canBeKey = true ∧ e.2.isNested = true := by
  induction entries with
  | nil => exact fun _ he => absurd he List.not_mem_nil
  | cons e rest ih =>
    obtain ⟨isKey, -, own, later⟩ := Value.entriesNested_cons.mp nested
    exact List.forall_mem_cons.mpr ⟨⟨isKey, own⟩, ih later⟩

theorem canBeKey_of_mem {entries : Entries} (nested : Value.entriesNested entries = true) :
    ∀ e ∈ entries, e.1.canBeKey = true :=
  fun e he => (forall_mem_of_nested nested e he).1

theorem isNested_of_find? {entries : Entries} (nested : Value.entriesNested entries = true)
    {key v : Value} (found : entries.find? key = some v) : v.isNested = true := by
  obtain ⟨e, first, rfl⟩ := Option.map_eq_some_iff.mp found
  exact (forall_mem_of_nested nested e (List.mem_of_find?_eq_some first)).2

theorem all_isNested_find? {entries : Entries} (nested : Value.entriesNested entries = true)
    (key : Value) : (entries.find? key).all Value.isNested = true := by
  cases found : entries.find? key with
  | none => rfl
  | some v => exact isNested_of_find? nested found

end Entries

namespace Value

/-- A path through nested mappings leads to nested ones. -/
theorem isNested_of_at? {v : Value} (nested : v.isNested = true) {path : List Value} {w : Value}
    (leads : v.at? path = some w) : w.isNested = true := by
  induction path generalizing v with
  | nil =>
    obtain rfl := Option.some.inj leads
    exact nested
  | cons key path ih =>
    obtain ⟨entries, next, rfl, found, onward⟩ := at?_cons_eq_some.mp leads
    rw [isNested_map] at nested
    exact ih (Entries.isNested_of_find? nested found) onward

end Value

namespace Entries

/-- To put what is there changes nothing. -/
theorem put_of_find? {entries : Entries} {key v : Value} (found : entries.find? key = some v) :
    entries.put key v = entries := by
  induction entries with
  | nil => cases found
  | cons e rest ih =>
    obtain ⟨k, old⟩ := e
    rw [find?_cons] at found
    by_cases same : k.same key = true
    · rw [if_pos same] at found
      obtain rfl := Option.some.inj found
      rw [put, if_pos same]
    · rw [if_neg same] at found
      rw [put, if_neg same, ih found]

/-- Different keys of nested entries are not equal to one key. -/
theorem once_of_nested {entries : Entries} (nested : Value.entriesNested entries = true)
    (key : Value) :
    entries.Pairwise fun e f => e.1.same key = true → f.1.same key = false := by
  induction entries with
  | nil => exact .nil
  | cons e rest ih =>
    obtain ⟨isKey, alone, -, later⟩ := Value.entriesNested_cons.mp nested
    refine List.pairwise_cons.mpr ⟨fun f hf own => ?_, ih later⟩
    have agrees := Value.agreeOn_of_canBeKey key isKey (canBeKey_of_mem later f hf)
    exact Bool.eq_false_iff.mpr fun again =>
      Bool.eq_false_iff.mp (alone f hf) (agrees.equal own again)

/-- Each entry is found under its key. -/
theorem find?_of_mem_nested {entries : Entries} (nested : Value.entriesNested entries = true)
    {k v : Value} (member : (k, v) ∈ entries) : entries.find? k = some v :=
  find?_of_mem (once_of_nested nested k) (Value.same_self (canBeKey_of_mem nested _ member)) member

end Entries

namespace LintConfig

/-- What is found in merged entries. -/
theorem find?_merge {base top : Entries} (keyed : ∀ e ∈ base, e.1.canBeKey = true)
    (nested : Value.entriesNested top = true) (key : Value) :
    Entries.find? (merge base top) key =
      (Entries.find? top key).elim (Entries.find? base key) fun v =>
        some (mergeValue (Entries.find? base key) v) :=
  Entries.find?_merge (fun _ _ => Value.agreeOn_of_canBeKey key) keyed
    (Entries.canBeKey_of_mem nested) (Entries.once_of_nested nested key)

/-- The keys of merged entries: first those below, then the new ones, each in their order. -/
theorem keys_merge {base top : Entries} (keyed : ∀ e ∈ base, e.1.canBeKey = true)
    (nested : Value.entriesNested top = true) :
    (merge base top).map Prod.fst =
      base.map Prod.fst ++ (top.map Prod.fst).filter fun k => (Entries.find? base k).isNone := by
  induction top generalizing base with
  | nil => rw [merge]; simp
  | cons e rest ih =>
    obtain ⟨k, v⟩ := e
    obtain ⟨isKey, alone, -, later⟩ := Value.entriesNested_cons.mp nested
    -- The keys that follow are found below as before, since none is equal to this one.
    have unmoved : ∀ l ∈ rest.map Prod.fst,
        (Entries.find? (Entries.put base k (mergeValue (Entries.find? base k) v)) l).isNone =
          (Entries.find? base l).isNone := by
      intro l among
      obtain ⟨e, he, rfl⟩ := List.mem_map.mp among
      rw [Entries.find?_put (fun _ _ => Value.agreeOn_of_canBeKey e.1) keyed isKey,
        if_neg (Bool.eq_false_iff.mp (alone e he))]
    rw [merge, ih (Entries.forall_mem_put (p := (Value.canBeKey · = true)) keyed isKey _) later,
      Entries.keys_put, List.filter_congr unmoved, List.append_assoc, ← List.filter_append]
    rfl

/-- Over what is no mapping, or nothing, a value stays as it is. -/
theorem mergeValue_over_plain {b : Option Value} (plain : b.bind Value.entries? = none)
    (v : Value) : mergeValue b v = v := by
  unfold mergeValue
  split
  · cases plain
  · rfl

variable {b : Option Value} {t : Value}

/-- Where a path leads to a value in what is written over, it leads in the result to that value over
what it leads to below. -/
theorem at?_mergeValue (below : b.all Value.isNested = true) (nested : t.isNested = true)
    {path : List Value} {v : Value} (leads : t.at? path = some v) :
    (mergeValue b t).at? path = some (mergeValue (b.bind (·.at? path)) v) := by
  induction path generalizing b t with
  | nil =>
    obtain rfl := Option.some.inj leads
    cases b <;> rfl
  | cons key path ih =>
    rcases Value.isMapping_or b with plain | ⟨base, rfl⟩
    · rw [mergeValue_over_plain plain, Value.bind_at?_of_plain plain, mergeValue_none, leads]
    · obtain ⟨top, next, rfl, found, onward⟩ := Value.at?_cons_eq_some.mp leads
      rw [Value.isNested_map] at nested
      rw [Option.all_some, Value.isNested_map] at below
      rw [mergeValue_map, Value.at?_map_cons,
        find?_merge (Entries.canBeKey_of_mem below) nested, found]
      exact ih (Entries.all_isNested_find? below _)
        (Entries.isNested_of_find? nested found) onward

/-- Where a path leads nowhere in what is written over, but leads to a value in the result, it leads
to that value below. -/
theorem at?_of_at?_mergeValue (below : b.all Value.isNested = true) (nested : t.isNested = true)
    {path : List Value} (nowhere : t.at? path = none) {v : Value}
    (leads : (mergeValue b t).at? path = some v) : b.bind (·.at? path) = some v := by
  induction path generalizing b t with
  | nil => cases nowhere
  | cons key path ih =>
    rcases Value.isMapping_or b with plain | ⟨base, rfl⟩
    · rw [mergeValue_over_plain plain, nowhere] at leads
      cases leads
    · cases written : t.entries? with
      | none => rw [mergeValue_of_plain _ written, nowhere] at leads; cases leads
      | some top =>
        obtain rfl := Value.entries?_eq_some.mp written
        rw [Value.isNested_map] at nested
        rw [Option.all_some, Value.isNested_map] at below
        rw [mergeValue_map, Value.at?_map_cons,
          find?_merge (Entries.canBeKey_of_mem below) nested] at leads
        rw [Value.at?_map_cons] at nowhere
        cases found : Entries.find? top key with
        | none => rw [found] at leads; exact leads
        | some next =>
          rw [found] at nowhere leads
          exact ih (Entries.all_isNested_find? below _)
            (Entries.isNested_of_find? nested found) nowhere leads

section Rules

variable (s t : NestedValue)

/-- A value that is no mapping stands in the result where it stands in what is written over. -/
theorem at?_mergeValue_of_plain {path : List Value} {v : Value} (leads : t.value.at? path = some v)
    (plain : v.entries? = none) : (mergeValue (some s.value) t.value).at? path = some v := by
  rw [at?_mergeValue (b := some s.value) s.nested t.nested leads, mergeValue_of_plain _ plain]

/-- Where two mappings meet, a key that the one on top lacks leads to what it leads to below. -/
theorem at?_mergeValue_of_missing {front : List Value} {own inner : Entries} {key : Value}
    (leads : t.value.at? front = some (.map own)) (missing : own.find? key = none)
    (there : s.value.at? front = some (.map inner)) (back : List Value) :
    (mergeValue (some s.value) t.value).at? (front ++ key :: back) =
      s.value.at? (front ++ key :: back) := by
  have nestedOwn := Value.isNested_of_at? t.nested leads
  have nestedInner := Value.isNested_of_at? s.nested there
  rw [Value.isNested_map] at nestedOwn nestedInner
  rw [Value.at?_append, at?_mergeValue (b := some s.value) s.nested t.nested leads,
    Option.bind_some, Option.bind_some, there, mergeValue_map, Value.at?_map_cons,
    find?_merge (Entries.canBeKey_of_mem nestedInner) nestedOwn, missing, Value.at?_append, there]
  rfl

/-- A mapping that meets none is in the result as it is. -/
theorem at?_mergeValue_of_unmet {front : List Value} {own : Entries}
    (leads : t.value.at? front = some (.map own))
    (unmet : (s.value.at? front).bind Value.entries? = none)
    (back : List Value) :
    (mergeValue (some s.value) t.value).at? (front ++ back) = t.value.at? (front ++ back) := by
  rw [Value.at?_append, at?_mergeValue (b := some s.value) s.nested t.nested leads,
    Option.bind_some, Option.bind_some, mergeValue_over_plain unmet, Value.at?_append, leads]
  rfl

/-- At each level of the result come first the keys below, then the new ones. -/
theorem keys_of_at?_mergeValue {path : List Value} {both : Entries}
    (leads : (mergeValue (some s.value) t.value).at? path = some (.map both)) :
    both.map Prod.fst =
      s.value.keysAt path ++ (t.value.keysAt path).filter fun key =>
        (s.value.at? (path ++ [key])).isNone := by
  cases written : t.value.at? path with
  | none =>
    have there : s.value.at? path = some (.map both) :=
      at?_of_at?_mergeValue (b := some s.value) s.nested t.nested written leads
    simp [Value.keysAt, written, there, Value.entries?]
  | some v =>
    rw [at?_mergeValue (b := some s.value) s.nested t.nested written, Option.bind_some] at leads
    have result := Option.some.inj leads
    rcases Value.isMapping_or (s.value.at? path) with plain | ⟨inner, there⟩
    · rw [mergeValue_over_plain plain] at result
      subst result
      have new : ∀ key, s.value.at? (path ++ [key]) = none := fun key => by
        rw [Value.at?_append, Value.bind_at?_of_plain plain]
      simp [Value.keysAt, written, plain, Value.entries?, new]
    · rw [there] at result
      cases mapping : v.entries? with
      | none =>
        rw [mergeValue_of_plain _ mapping] at result
        subst result
        cases mapping
      | some own =>
        obtain rfl := Value.entries?_eq_some.mp mapping
        have nestedOwn := Value.isNested_of_at? t.nested written
        have nestedInner := Value.isNested_of_at? s.nested there
        rw [Value.isNested_map] at nestedOwn nestedInner
        rw [mergeValue_map] at result
        obtain rfl := Value.map.inj result
        rw [keys_merge (Entries.canBeKey_of_mem nestedInner) nestedOwn]
        simp [Value.keysAt, written, there, Value.entries?, Value.at?_snoc there]

end Rules

/-- Entries that are already there change nothing. -/
theorem merge_eq_self {done top : Entries} (there : ∀ e ∈ top, ∃ w,
    Entries.find? done e.1 = some w ∧ mergeValue (some w) e.2 = w) : merge done top = done := by
  induction top with
  | nil => rw [merge]
  | cons e rest ih =>
    obtain ⟨w, found, same⟩ := there e List.mem_cons_self
    rw [merge, found, same, Entries.put_of_find? found]
    exact ih fun e he => there e (List.mem_cons_of_mem _ he)

mutual

/-- A value written twice over another is as if written once. -/
theorem mergeValue_mergeValue (t : Value) {b : Option Value} (below : b.all Value.isNested = true)
    (nested : t.isNested = true) : mergeValue (some (mergeValue b t)) t = mergeValue b t := by
  cases t with
  | map top =>
    rw [Value.isNested_map] at nested
    rcases Value.isMapping_or b with plain | ⟨base, rfl⟩
    · rw [mergeValue_over_plain plain, mergeValue_map, merge_eq_self]
      intro e he
      have again := mergeValue_of_mem top (b := none) nested (by simp) e he
      rw [mergeValue_none] at again
      exact ⟨e.2, Entries.find?_of_mem_nested nested he, again⟩
    · rw [Option.all_some, Value.isNested_map] at below
      rw [mergeValue_map, mergeValue_map, merge_eq_self]
      intro e he
      refine ⟨mergeValue (Entries.find? base e.1) e.2, ?_, ?_⟩
      · rw [find?_merge (Entries.canBeKey_of_mem below) nested,
          Entries.find?_of_mem_nested nested he]
        rfl
      · exact mergeValue_of_mem top nested (Entries.all_isNested_find? below _) e he
  | _ => rw [mergeValue_of_plain _ rfl, mergeValue_of_plain _ rfl]

theorem mergeValue_of_mem (top : List (Value × Value)) {b : Option Value}
    (nested : Value.entriesNested top = true) (below : b.all Value.isNested = true) :
    ∀ e ∈ top, mergeValue (some (mergeValue b e.2)) e.2 = mergeValue b e.2 := by
  match top with
  | [] => exact fun _ he => absurd he List.not_mem_nil
  | (_, v) :: rest =>
    obtain ⟨-, -, own, later⟩ := Value.entriesNested_cons.mp nested
    exact List.forall_mem_cons.mpr
      ⟨mergeValue_mergeValue v below own, mergeValue_of_mem rest later below⟩

end

/-- Entries written over others, by paths. A value that is no mapping stands where it stands in
`top`. Where both have a mapping and `top` lacks the next key, the path leads where it leads in
`base`. Where `top` has a mapping and `base` has none, the path leads where it leads in `top`. At
each level come the keys of `base` and then the new ones of `top`, in their order, and a second
writing changes nothing. -/
theorem merge_along_paths (base top : NestedEntries) :
    (∀ path v, (Value.map top.entries).at? path = some v → v.entries? = none →
      (Value.map (merge base.entries top.entries)).at? path = some v) ∧
    (∀ front key back own inner, (Value.map top.entries).at? front = some (.map own) →
      Entries.find? own key = none → (Value.map base.entries).at? front = some (.map inner) →
      (Value.map (merge base.entries top.entries)).at? (front ++ key :: back) =
        (Value.map base.entries).at? (front ++ key :: back)) ∧
    (∀ front back own, (Value.map top.entries).at? front = some (.map own) →
      ((Value.map base.entries).at? front).bind Value.entries? = none →
      (Value.map (merge base.entries top.entries)).at? (front ++ back) =
        (Value.map top.entries).at? (front ++ back)) ∧
    (∀ path both, (Value.map (merge base.entries top.entries)).at? path = some (.map both) →
      both.map Prod.fst = (Value.map base.entries).keysAt path ++
        ((Value.map top.entries).keysAt path).filter fun key =>
          ((Value.map base.entries).at? (path ++ [key])).isNone) ∧
    merge (merge base.entries top.entries) top.entries = merge base.entries top.entries := by
  have twice := mergeValue_mergeValue (b := some (.map base.entries)) _ base.nested top.nested
  rw [mergeValue_map, mergeValue_map] at twice
  rw [← mergeValue_map]
  refine ⟨?_, ?_, ?_, ?_, Value.map.inj twice⟩
  · exact fun path v leads plain => at?_mergeValue_of_plain base.toValue top.toValue leads plain
  · exact fun front key back own inner leads missing there =>
      at?_mergeValue_of_missing base.toValue top.toValue leads missing there back
  · exact fun front back own leads unmet =>
      at?_mergeValue_of_unmet base.toValue top.toValue leads unmet back
  · exact fun path both leads => keys_of_at?_mergeValue base.toValue top.toValue leads

/-- The entry of a rule in which a mapping stands for a text, another adds to a mapping, and keys
are of several kinds. -/
def mixedEntry : Entries :=
  [(.text "severity", .map [(.text "level", .int 2)]),
   (.text "params", .map [(.text "quote", .null), (.int 1, .map [])]),
   (.bool false, .text "off")]

/-- Entries to be written over the defaults. -/
def mixedEntries : Entries :=
  [(.text "rules", .map [(.text Camelcase.identifier, .map mixedEntry)]), (.null, .list [.int 1])]

/-- The paths of `mixedEntries` over the defaults. -/
theorem merge_along_paths_mixed :
    (Value.map defaults).isNested = true ∧ (Value.map mixedEntries).isNested = true ∧
    (Value.map (merge defaults mixedEntries)).at?
      [.text "rules", .text "camelcase", .text "params", .text "quote"] = some .null ∧
    (Value.map (merge defaults mixedEntries)).at?
      [.text "rules", .text "camelcase", .text "params", .text "ignore"] = some (.list []) ∧
    (Value.map (merge defaults mixedEntries)).at?
      [.text "rules", .text "camelcase", .text "severity", .text "level"] = some (.int 2) ∧
    (merge defaultEntry mixedEntry).map Prod.fst =
      [.text "enabled", .text "severity", .text "params", .bool false] ∧
    merge (merge defaults mixedEntries) mixedEntries = merge defaults mixedEntries := by
  have nestedBase : (Value.map defaults).isNested = true := by decide +kernel
  have nestedTop : (Value.map mixedEntries).isNested = true := by decide +kernel
  obtain ⟨plain, missing, unmet, keys, twice⟩ :=
    merge_along_paths ⟨defaults, nestedBase⟩ ⟨mixedEntries, nestedTop⟩
  refine ⟨nestedBase, nestedTop, ?_, ?_, ?_, ?_, twice⟩
  · with_unfolding_all exact plain _ _ rfl rfl
  · with_unfolding_all exact (missing [.text "rules", .text "camelcase", .text "params"]
      (.text "ignore") [] _ _ rfl rfl rfl).trans rfl
  · with_unfolding_all exact (unmet [.text "rules", .text "camelcase", .text "severity"]
      [.text "level"] _ rfl rfl).trans rfl
  · with_unfolding_all exact (keys [.text "rules", .text "camelcase"] _ rfl).trans rfl

end LintConfig

end NameLint
