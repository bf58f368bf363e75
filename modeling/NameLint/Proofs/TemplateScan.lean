import Mathlib.Data.List.TakeWhile
import NameLint.Proofs.LintResult

/-!
# Scanning templates

A placeholder is two braces, blanks, a key of word characters, blanks and two braces.
No character is both a blank and of a word, so at each place of a text at most one
placeholder begins, and one is found wherever there is one. Filling a template is then
one scan from the left: a placeholder that begins where the scan stands is replaced or
copied as a whole, and the scan goes on behind it; any other character is copied.
-/

namespace NameLint

namespace Text

theorem Ranges.contains_iff {ranges : Ranges} {n : Nat} :
    ranges.contains n = true ↔ ∃ range ∈ ranges.toList, range.1 ≤ n ∧ n ≤ range.2 := by
  simp only [Ranges.contains, Array.any_eq_true', Array.mem_toList_iff, Bool.and_eq_true,
    decide_eq_true_iff]

/-- Whether every range of one table ends before every range of the other or begins behind it. -/
def Ranges.areApart (a b : Ranges) : Bool :=
  a.toList.all fun x => b.toList.all fun y => Nat.blt y.2 x.1 || Nat.blt x.2 y.1

theorem Ranges.contains_eq_false_of_areApart {a b : Ranges} (apart : a.areApart b = true) {n : Nat}
    (held : a.contains n = true) : b.contains n = false := by
  rw [Bool.eq_false_iff]
  intro also
  obtain ⟨x, hx, _, _⟩ := Ranges.contains_iff.mp held
  obtain ⟨y, hy, _, _⟩ := Ranges.contains_iff.mp also
  have order := List.all_eq_true.mp (List.all_eq_true.mp apart x hx) y hy
  rw [Bool.or_eq_true, Nat.blt_eq, Nat.blt_eq] at order
  omega

def Blank.codes : List Nat :=
  Blank.table.toList.flatMap fun range => List.range' range.1 (range.2 + 1 - range.1)

theorem Blank.mem_codes {n : Nat} (held : Blank.table.contains n = true) : n ∈ codes := by
  obtain ⟨range, member, low, high⟩ := Ranges.contains_iff.mp held
  refine List.mem_flatMap.mpr ⟨range, member, ?_⟩
  rw [List.mem_range'_1]
  omega

/-- No blank is of a word. -/
theorem isWord_of_isBlank {c : Char} (blank : isBlank c = true) : isWord c = false := by
  have letters : Blank.table.areApart Letter.table = true := by decide +kernel
  have numerals : Blank.table.areApart Numeric.table = true := by decide +kernel
  have others : ∀ n ∈ Blank.codes, (Char.ofNat n).isAlpha = false ∧
      (Char.ofNat n).isDigit = false ∧ (Char.ofNat n == '_') = false := by decide +kernel
  obtain ⟨alpha, digit, underscore⟩ := others c.toNat (Blank.mem_codes blank)
  rw [Char.ofNat_toNat] at alpha digit underscore
  rw [isWord, isLetter, isNumeric, Ranges.contains_eq_false_of_areApart letters blank,
    Ranges.contains_eq_false_of_areApart numerals blank, alpha, digit, underscore, ite_self]
  rfl

end Text

namespace Template

def Spells (key spelling : List Char) : Prop :=
  ∃ before after, (∀ c ∈ before, Text.isBlank c = true) ∧ (∀ c ∈ after, Text.isBlank c = true) ∧
    key ≠ [] ∧ (∀ c ∈ key, Text.isWord c = true) ∧
    spelling = ['\x7b', '\x7b'] ++ before ++ key ++ after ++ ['\x7d', '\x7d']

/-- Each part of a placeholder ends where the next one begins. -/
theorem stops_of_parts {key after : List Char} (present : key ≠ [])
    (word : ∀ c ∈ key, Text.isWord c = true) (blanks : ∀ c ∈ after, Text.isBlank c = true)
    (rest : List Char) :
    (∀ d ∈ (key ++ (after ++ '\x7d' :: '\x7d' :: rest)).head?, Text.isBlank d = false) ∧
    (∀ d ∈ (after ++ '\x7d' :: '\x7d' :: rest).head?, Text.isWord d = false) ∧
    ∀ d ∈ ('\x7d' :: '\x7d' :: rest).head?, Text.isBlank d = false := by
  have close : Text.isWord '\x7d' = false ∧ Text.isBlank '\x7d' = false := by decide +kernel
  refine ⟨fun d front => ?_, fun d front => ?_, fun d front => ?_⟩
  · obtain ⟨c, cs, rfl⟩ := List.exists_cons_of_ne_nil present
    obtain rfl := Option.some.inj front
    rw [Bool.eq_false_iff]
    intro blank
    have apart := Text.isWord_of_isBlank blank
    rw [word c List.mem_cons_self] at apart
    cases apart
  · cases after with
    | nil =>
      obtain rfl := Option.some.inj front
      exact close.1
    | cons a after =>
      obtain rfl := Option.some.inj front
      exact Text.isWord_of_isBlank (blanks _ List.mem_cons_self)
  · obtain rfl := Option.some.inj front
    exact close.2

/-- A placeholder is found where its spelling begins. -/
theorem placeholder?_of_spells {key spelling : List Char} (spells : Spells key spelling)
    (rest : List Char) : placeholder? (spelling ++ rest) = some ⟨key, spelling, rest⟩ := by
  obtain ⟨before, after, blanks, blanks', present, word, rfl⟩ := spells
  obtain ⟨behindBefore, behindKey, behindAfter⟩ := stops_of_parts present word blanks' rest
  have whole : ['\x7b', '\x7b'] ++ before ++ key ++ after ++ ['\x7d', '\x7d'] ++ rest =
      '\x7b' :: '\x7b' ::
        (before ++ (key ++ (after ++ ('\x7d' :: '\x7d' :: rest)))) := by simp
  obtain ⟨takeBefore, dropBefore⟩ := Text.cut_of_stop blanks behindBefore
  obtain ⟨takeKey, dropKey⟩ := Text.cut_of_stop word behindKey
  obtain ⟨takeAfter, dropAfter⟩ := Text.cut_of_stop blanks' behindAfter
  obtain ⟨c, cs, rfl⟩ := List.exists_cons_of_ne_nil present
  rw [whole, placeholder?, takeBefore, dropBefore, takeKey, dropKey, takeAfter, dropAfter]
  rfl

/-- What is found at the front is the spelling of a placeholder, with what follows it. -/
theorem spells_of_placeholder? {cs : List Char} {p : Placeholder}
    (found : placeholder? cs = some p) :
    Spells p.key p.spelling ∧ cs = p.spelling ++ p.rest := by
  unfold placeholder? at found
  split at found
  · rename_i inner
    dsimp only at found
    split at found
    · rename_i c key' rest hkey hrest
      obtain rfl := Option.some.inj found
      refine ⟨⟨_, _, fun _ => List.mem_takeWhile_imp, fun _ => List.mem_takeWhile_imp, ?_,
        fun _ => List.mem_takeWhile_imp, rfl⟩, ?_⟩
      · rw [hkey]
        exact List.cons_ne_nil _ _
      · have parts : inner = inner.takeWhile Text.isBlank ++
            ((inner.dropWhile Text.isBlank).takeWhile Text.isWord ++
              (((inner.dropWhile Text.isBlank).dropWhile Text.isWord).takeWhile Text.isBlank ++
                '\x7d' :: '\x7d' :: rest)) := by
          rw [← hrest, List.takeWhile_append_dropWhile, List.takeWhile_append_dropWhile,
            List.takeWhile_append_dropWhile]
        refine (congrArg (fun tail => '\x7b' :: '\x7b' :: tail) parts).trans ?_
        simp only [List.append_assoc, List.cons_append, List.nil_append]
    · cases found
  · cases found

theorem placeholder?_eq_none_iff {cs : List Char} :
    placeholder? cs = none ↔ ∀ key spelling rest, Spells key spelling → cs ≠ spelling ++ rest := by
  constructor
  · rintro none key spelling rest spells rfl
    rw [placeholder?_of_spells spells] at none
    cases none
  · intro plain
    cases found : placeholder? cs with
    | none => rfl
    | some p =>
      obtain ⟨spells, whole⟩ := spells_of_placeholder? found
      exact absurd whole (plain _ _ _ spells)

/-- One scan of a text from the left, with the texts for the known keys. It ends at the first key
whose value has no text. -/
inductive Scans (textOf : String → Option (Except Fault String)) :
    List Char → Except Fault (List Char) → Prop
  | done : Scans textOf [] (.ok [])
  | known {key spelling rest : List Char} {text : String} {result : Except Fault (List Char)}
      (spells : Spells key spelling) (value : textOf (String.ofList key) = some (.ok text))
      (later : Scans textOf rest result) :
      Scans textOf (spelling ++ rest) (result.map (text.toList ++ ·))
  | stopped {key spelling rest : List Char} {fault : Fault} (spells : Spells key spelling)
      (value : textOf (String.ofList key) = some (.error fault)) :
      Scans textOf (spelling ++ rest) (.error fault)
  | unknown {key spelling rest : List Char} {result : Except Fault (List Char)}
      (spells : Spells key spelling) (value : textOf (String.ofList key) = none)
      (later : Scans textOf rest result) :
      Scans textOf (spelling ++ rest) (result.map (spelling ++ ·))
  | copied {c : Char} {cs : List Char} {result : Except Fault (List Char)}
      (plain : ∀ key spelling rest, Spells key spelling → c :: cs ≠ spelling ++ rest)
      (later : Scans textOf cs result) : Scans textOf (c :: cs) (result.map (c :: ·))

/-- The answer to a key: its text, if it is known, or the fault of making it. -/
def answer (textOf : String → Option (Except Fault String)) (key : String) :
    Except Fault (Option String) :=
  match textOf key with
  | none => .ok none
  | some (.ok text) => .ok (some text)
  | some (.error fault) => .error fault

variable {textOf : String → Option (Except Fault String)}

/-- A scan gives what filling gives. -/
theorem Scans.fill_eq {cs : List Char} {result : Except Fault (List Char)}
    (scanned : Scans textOf cs result) : fill (answer textOf) cs = result := by
  induction scanned with
  | done =>
    rw [fill]
    rfl
  | known spells value later ih =>
    rw [fill_of_placeholder _ (placeholder?_of_spells spells _), answer, value, ← ih]
    rfl
  | stopped spells value =>
    rw [fill_of_placeholder _ (placeholder?_of_spells spells _), answer, value]
    rfl
  | unknown spells value later ih =>
    rw [fill_of_placeholder _ (placeholder?_of_spells spells _), answer, value, ← ih]
    rfl
  | copied plain later ih => rw [fill_of_plain _ (placeholder?_eq_none_iff.mpr plain), ih]

/-- Every text can be scanned. The induction is on the length, since the scan goes on behind a
placeholder. -/
theorem exists_scans (textOf : String → Option (Except Fault String)) (cs : List Char) :
    ∃ result, Scans textOf cs result := by
  cases cs with
  | nil => exact ⟨.ok [], .done⟩
  | cons c others =>
    cases found : placeholder? (c :: others) with
    | none =>
      obtain ⟨result, later⟩ := exists_scans textOf others
      exact ⟨_, .copied (placeholder?_eq_none_iff.mp found) later⟩
    | some p =>
      have shorter := length_rest_lt found
      obtain ⟨result, later⟩ := exists_scans textOf p.rest
      obtain ⟨spells, whole⟩ := spells_of_placeholder? found
      rw [whole]
      cases value : textOf (String.ofList p.key) with
      | none => exact ⟨_, .unknown spells value later⟩
      | some made =>
        cases made with
        | error fault => exact ⟨_, .stopped spells value⟩
        | ok text => exact ⟨_, .known spells value later⟩
termination_by cs.length
decreasing_by
  · simp
  · exact shorter

/-- There is one scan, and filling carries it out. -/
theorem scans_iff {cs : List Char} {result : Except Fault (List Char)} :
    Scans textOf cs result ↔ result = fill (answer textOf) cs := by
  constructor
  · intro scanned
    exact scanned.fill_eq.symm
  · rintro rfl
    obtain ⟨result, scanned⟩ := exists_scans textOf cs
    rw [scanned.fill_eq]
    exact scanned

/-- Where no key is known nothing is replaced. -/
theorem Scans.eq_of_unknown {cs : List Char} {result : Except Fault (List Char)}
    (scanned : Scans (fun _ => none) cs result) : result = .ok cs := by
  induction scanned with
  | done => rfl
  | known spells value later ih => cases value
  | stopped spells value => cases value
  | unknown spells value later ih => rw [ih]; rfl
  | copied plain later ih => rw [ih]; rfl

/-- Where all values have texts the scan comes to an end. -/
theorem Scans.exists_ok {cs : List Char} {result : Except Fault (List Char)}
    (scanned : Scans textOf cs result) (texts : ∀ key fault, textOf key ≠ some (.error fault)) :
    ∃ out, result = .ok out := by
  induction scanned with
  | done => exact ⟨[], rfl⟩
  | stopped spells value => exact absurd value (texts _ _)
  | known spells value later ih =>
    obtain ⟨out, rfl⟩ := ih
    exact ⟨_, rfl⟩
  | unknown spells value later ih =>
    obtain ⟨out, rfl⟩ := ih
    exact ⟨_, rfl⟩
  | copied plain later ih =>
    obtain ⟨out, rfl⟩ := ih
    exact ⟨_, rfl⟩

/-- The texts of the values in a mapping, as far as they can be made; missing data knows no key. -/
def textOf? [Stack] : Item → Option (String → Option (Except Fault String))
  | .record entries => some fun key => (entries.lookup key).map (Item.textFor .message)
  | .plain (.map entries) =>
    some fun key => (Entries.get? entries key).map (Value.textFor .message)
  | .plain .null => some fun _ => none
  | _ => none

theorem mapM_eq_answer {α : Type} (found : String → Option α) (make : α → Except Fault String)
    (key : String) : (found key).mapM make = answer (fun k => (found k).map make) key := by
  show (found key).mapM make = match (found key).map make with
    | none => .ok none
    | some (.ok text) => .ok (some text)
    | some (.error fault) => .error fault
  cases found key with
  | none => rfl
  | some value =>
    rw [Option.map_some]
    show some <$> make value = _
    cases make value <;> rfl

/-- Data that counts as false knows no key; all other data is looked up. -/
theorem textOf?_cases [Stack] {data : Item} (mapping : textOf? data = some textOf) :
    (data.truthy = false ∧ textOf = fun _ => none) ∨
      (data.truthy = true ∧ lookup data = answer textOf) := by
  unfold textOf? at mapping
  split at mapping
  · rename_i entries
    obtain rfl := Option.some.inj mapping
    cases entries with
    | nil => exact Or.inl ⟨rfl, rfl⟩
    | cons e rest => exact Or.inr ⟨rfl, funext (mapM_eq_answer _ _)⟩
  · rename_i entries
    obtain rfl := Option.some.inj mapping
    cases entries with
    | nil => exact Or.inl ⟨rfl, rfl⟩
    | cons e rest => exact Or.inr ⟨rfl, funext (mapM_eq_answer (Entries.get? _) _)⟩
  · obtain rfl := Option.some.inj mapping
    exact Or.inl ⟨rfl, rfl⟩
  · cases mapping

/-- The message is what filling gives, also where the data is not looked at. -/
theorem format_eq_fill [Stack] {data : Item} (mapping : textOf? data = some textOf)
    (template : String) :
    (format template data).map String.toList = fill (answer textOf) template.toList := by
  unfold format
  rcases textOf?_cases mapping with ⟨empty, rfl⟩ | ⟨full, lookups⟩
  · obtain ⟨result, scanned⟩ := exists_scans (fun _ => none) template.toList
    rw [empty, scanned.fill_eq, scanned.eq_of_unknown]
    rfl
  · rw [if_pos full, lookups]
    cases fill (answer textOf) template.toList with
    | error fault => rfl
    | ok out => exact congrArg Except.ok String.toList_ofList

open Camelcase in
/-- A message about a name is the name between two texts. -/
theorem format_message_text [Stack] {t : SubType} (known : t = identifierType ∨ t = propertyType)
    (name : String) :
    format t.message (.record [("name", .plain (.text name))]) =
      .ok ((if t = identifierType then "Identifier '" else "Property '") ++ name ++
        "' is not in camel case.") := by
  let f : Finding := ⟨⟨0, "", [], none, []⟩, t, .plain (.text name)⟩
  have told : f.isTold = true := Finding.isTold_of_text rfl
  have message : (format t.message (.record [("name", .plain (.text name))])).toOption =
      if f.isTold then some f.wording else none := f.format_message known
  rw [if_pos told] at message
  have worded : f.wording = (if t = identifierType then "Identifier '" else "Property '") ++ name ++
      "' is not in camel case." := by
    refine String.toList_inj.mp ?_
    rw [Finding.wording, String.toList_ofList, String.toList_append, String.toList_append,
      List.append_assoc]
    rfl
  cases made : format t.message (.record [("name", .plain (.text name))]) with
  | error fault =>
    rw [made] at message
    cases message
  | ok text =>
    rw [made] at message
    rw [← worded]
    exact congrArg Except.ok (Option.some.inj message)

open Camelcase in
/-- A message is its template scanned once from the left: where a placeholder begins whose key has
a value, the text of the value takes its place and the scan goes on behind the placeholder, and
everything else is copied. There is no message if and only if the scan comes to a value that has no
text. Data without entries gives the template, which is what the scan gives. The messages about
names hold the name as it is, whatever stands in it. -/
theorem format_scans_once [Stack] (template : String) :
    (∀ data textOf, textOf? data = some textOf →
      (∀ result, Scans textOf template.toList result ↔
        result = (format template data).map String.toList) ∧
      fill (answer textOf) template.toList = (format template data).map String.toList ∧
      ((∀ key fault, textOf key ≠ some (.error fault)) →
        ∃ text, format template data = .ok text)) ∧
    ∀ name : String,
      format identifierType.message (.record [("name", .plain (.text name))]) =
        .ok ("Identifier '" ++ name ++ "' is not in camel case.") ∧
      format propertyType.message (.record [("name", .plain (.text name))]) =
        .ok ("Property '" ++ name ++ "' is not in camel case.") := by
  constructor
  · intro data textOf mapping
    have filled := format_eq_fill mapping template
    refine ⟨fun result => ?_, filled.symm, fun texts => ?_⟩
    · rw [filled]
      exact scans_iff
    · obtain ⟨out, ends⟩ := (scans_iff.mpr filled).exists_ok texts
      cases made : format template data with
      | ok text => exact ⟨text, rfl⟩
      | error fault =>
        rw [made] at ends
        cases ends
  · intro name
    refine ⟨format_message_text (Or.inl rfl) name, ?_⟩
    have other : ¬ propertyType = identifierType := by decide
    rw [format_message_text (Or.inr rfl) name, if_neg other]

/-- Data whose first value looks like a placeholder for the second, while the third has no text. -/
def nestedData : Item :=
  .record [("a", .plain (.text "\x7b\x7bb\x7d\x7d")), ("b", .plain (.int 1)),
    ("c", .plain (.int (Int.ofNat (Binary64.tenTo Text.digitLimit))))]

open scoped Stack in
/-- The text that comes in for the first placeholder is not taken for the second. A brace in front
of a placeholder and a placeholder without a value stay. A value with too many digits leaves no
message. -/
theorem format_nestedData :
    let template := "\x7b\x7b\x7ba\x7d\x7d \x7b\x7b b \x7d\x7d \x7b\x7bd\x7d\x7d"
    let filled := "\x7b\x7b\x7bb\x7d\x7d 1 \x7b\x7bd\x7d\x7d"
    ∃ textOf, textOf? nestedData = some textOf ∧
      Scans textOf template.toList (.ok filled.toList) ∧
      format template nestedData = .ok filled ∧
      Scans textOf "\x7b\x7bc\x7d\x7d".toList (.error .badValue) := by
  intro template filled
  obtain ⟨scans, _, _⟩ := (format_scans_once template).1 nestedData _ rfl
  obtain ⟨stops, _, _⟩ := (format_scans_once "\x7b\x7bc\x7d\x7d").1 nestedData _ rfl
  have computed : (format template nestedData).toOption = some filled := by decide +kernel
  have stopped : (match format "\x7b\x7bc\x7d\x7d" nestedData with
      | .error .badValue => true
      | _ => false) = true := by decide +kernel
  cases made : format template nestedData with
  | error fault =>
    rw [made] at computed
    cases computed
  | ok text =>
    rw [made] at computed
    obtain rfl : text = filled := Option.some.inj computed
    refine ⟨_, rfl, (scans _).mpr (by rw [made]; rfl), rfl, (stops _).mpr ?_⟩
    split at stopped
    · rename_i failed
      rw [failed]
      rfl
    · cases stopped

end Template

end NameLint
