import NameLint.Report.Template

/-!
# Filling templates

Text without an opening brace is copied as it is, whatever follows it. A message
with the placeholder for a name between two such texts is therefore the texts with
the name between them, and the name is not looked at again.
-/

namespace NameLint.Template

theorem placeholder_eq_none {c : Char} (h : c ≠ '\x7b') (cs : List Char) :
    placeholder? (c :: cs) = none := by
  unfold placeholder?
  split
  · rename_i inner shape
    cases shape
    exact absurd rfl h
  · rfl

/-- A character where no placeholder begins is copied. -/
theorem fill_of_plain (known : String → Except Fault (Option String)) {c : Char} {cs : List Char}
    (plain : placeholder? (c :: cs) = none) :
    fill known (c :: cs) = (fill known cs).map (c :: ·) := by
  rw [fill]
  split
  · rename_i p found
    rw [plain] at found
    cases found
  · cases fill known cs <;> rfl

/-- A placeholder is replaced by the text for its key, or else copied. -/
theorem fill_of_placeholder (known : String → Except Fault (Option String)) {cs : List Char}
    {p : Placeholder} (h : placeholder? cs = some p) :
    fill known cs = known (String.ofList p.key) >>= fun text =>
      (fill known p.rest).map (text.elim p.spelling String.toList ++ ·) := by
  cases cs with
  | nil => cases h
  | cons c others =>
    rw [fill]
    split
    · rename_i q hq
      obtain rfl : q = p := Option.some.inj (hq.symm.trans h)
      cases known (String.ofList q.key) with
      | error fault => rfl
      | ok text => cases fill known q.rest <;> cases text <;> rfl
    · rename_i hq
      rw [h] at hq
      cases hq

/-- Text without an opening brace is copied. -/
theorem fill_append (known : String → Except Fault (Option String)) (front rest : List Char)
    (plain : '\x7b' ∉ front) :
    fill known (front ++ rest) = (fill known rest).map (front ++ ·) := by
  induction front with
  | nil =>
    rw [List.nil_append]
    cases fill known rest <;> rfl
  | cons c front ih =>
    have next := ih (List.not_mem_of_not_mem_cons plain)
    have none := placeholder_eq_none (List.ne_of_not_mem_cons plain).symm (front ++ rest)
    rw [List.cons_append, fill_of_plain known none, next]
    cases fill known rest <;> rfl

def namePlaceholder : List Char := "\x7b\x7bname\x7d\x7d".toList

theorem placeholder_name (rest : List Char) :
    placeholder? (namePlaceholder ++ rest) = some ⟨"name".toList, namePlaceholder, rest⟩ := by
  have spelled : namePlaceholder = ['\x7b', '\x7b', 'n', 'a', 'm', 'e', '\x7d', '\x7d'] := by
    decide +kernel
  have letters : Text.isWord 'n' ∧ Text.isWord 'a' ∧ Text.isWord 'm' ∧ Text.isWord 'e' := by
    decide +kernel
  have start : Text.isBlank 'n' = false := by decide +kernel
  have stop : Text.isWord '\x7d' = false ∧ Text.isBlank '\x7d' = false := by decide +kernel
  rw [spelled]
  simp [placeholder?, letters, start, stop]

/-- A name with a text goes between the texts around its placeholder; one without ends the
filling. -/
theorem format_name [Stack] (front back : List Char) (name : Item) (before : '\x7b' ∉ front)
    (behind : '\x7b' ∉ back) :
    format (String.ofList (front ++ (namePlaceholder ++ back))) (.record [("name", name)]) =
      (name.textFor .message).map fun text =>
        String.ofList (front ++ (text.toList ++ back)) := by
  let known := lookup (.record [("name", name)])
  have copied : fill known back = .ok back := by
    have whole := fill_append known back [] behind
    rw [List.append_nil, fill] at whole
    exact whole.trans (congrArg Except.ok (List.append_nil back))
  have asked : known "name" = (name.textFor .message).map some := by
    show (List.lookup "name" [("name", name)]).mapM (Item.textFor .message) = _
    rw [List.lookup_cons_self]
    rfl
  have replaced := fill_of_placeholder known (placeholder_name back)
  have full : (Item.record [("name", name)]).truthy = true := rfl
  change fill known _ = known "name" >>= _ at replaced
  rw [format, if_pos full, String.toList_ofList, fill_append _ _ _ before, replaced, asked, copied]
  cases name.textFor .message <;> rfl

end NameLint.Template
