import NameLint.Value
import NameLint.Proofs.Doubles

/-!
# Equal keys

Keys are equal across their kinds: a truth value, a whole number and a double can be
one key, and two timestamps with offsets are one where they name one moment. So that
equality can be reasoned with, each key is given a form that it shares with the keys
equal to it and with no others.
-/

namespace NameLint

namespace Number

/-- How large a number is, in units of the least double. -/
inductive Size where
  | nan
  | infinite (negative : Bool)
  | units (n : Int)

def unitsOfOne : Int := Binary64.twoTo (-Binary64.leastExponent)

def size : Number → Size
  | .whole n => .units (n * unitsOfOne)
  | .double .nan => .nan
  | .double (.infinity negative) => .infinite negative
  | .double (.finite negative m e) => .units (Binary64.finite negative m e).units

theorem unitsOfOne_ne_zero : unitsOfOne ≠ 0 :=
  Int.natCast_ne_zero.mpr (Binary64.twoTo_pos _).ne'

theorem compareInt?_eq (n : Int) (x : Binary64) :
    Binary64.compareInt? n x =
      match x with
      | .nan => none
      | .infinity s => some (if s then .gt else .lt)
      | .finite s m e => some (compare (n * unitsOfOne) (Binary64.finite s m e).units) := by
  cases x <;> rfl

/-- Two numbers have one size if they are equal or neither is a number. -/
theorem size_eq_iff (a b : Number) :
    b.size = a.size ↔ a.same b = true ∨ a = .double .nan ∧ b = .double .nan := by
  rw [eq_comm (a := b.size)]
  rcases a with m | _ | (_ | _) | ⟨s, m, e⟩ <;> rcases b with n | _ | (_ | _) | ⟨t, k, f⟩ <;>
    simp [same, size, compare?, compareInt?_eq, Binary64.compare?, unitsOfOne_ne_zero]
  exact eq_comm

end Number

namespace Timestamp

/-- What a timestamp is equal by: its moment if it has an offset, and its parts otherwise. -/
inductive Mark where
  | moment (microseconds : Int)
  | parts (t : Timestamp)

def mark (t : Timestamp) : Mark :=
  match t.time with
  | none => .parts t
  | some time => time.offset.elim (.parts t) fun offset => .moment (t.moment time offset)

theorem same_iff (s t : Timestamp) : s.same t = true ↔ t.mark = s.mark := by
  rw [eq_comm (a := t.mark)]
  obtain ⟨year, month, day, _ | ⟨hour, minute, second, micro, _ | offset⟩⟩ := s <;>
    obtain ⟨year', month', day', _ | ⟨hour', minute', second', micro', _ | offset'⟩⟩ := t <;>
    simp [same, mark]

end Timestamp

/-- What a key is equal by. -/
inductive KeyForm where
  | null
  | number (size : Number.Size)
  | text (s : String)
  | stamp (mark : Timestamp.Mark)
  | bytes (b : List UInt8)
  | tuple (items : List KeyForm)

namespace Value

mutual

/-- The form of a value that can be a key. -/
def keyForm? : Value → Option KeyForm
  | .null => some .null
  | .bool b => some (.number (Number.whole (if b then 1 else 0)).size)
  | .int n => some (.number (Number.whole n).size)
  | .float x => some (.number (Number.double x).size)
  | .text s => some (.text s)
  | .tuple items => (keyForms? items).map .tuple
  | .stamp t => some (.stamp t.mark)
  | .bytes b => some (.bytes b)
  | _ => none

def keyForms? : List Value → Option (List KeyForm)
  | [] => some []
  | v :: rest => (keyForm? v).bind fun form => (keyForms? rest).map (form :: ·)

end

mutual

theorem isSome_keyForm? : ∀ v : Value, v.keyForm?.isSome = v.canBeKey
  | .tuple items => by simp [keyForm?, canBeKey, isSome_keyForms? items]
  | .null => rfl
  | .bool _ => rfl
  | .int _ => rfl
  | .float _ => rfl
  | .text _ => rfl
  | .list _ => rfl
  | .map _ => rfl
  | .stamp _ => rfl
  | .bytes _ => rfl
  | .set _ => rfl
  | .again _ => rfl

theorem isSome_keyForms? : ∀ items : List Value, (keyForms? items).isSome = allCanBeKeys items
  | [] => rfl
  | v :: rest => by
    have own := isSome_keyForm? v
    have later := isSome_keyForms? rest
    cases first : v.keyForm? <;> simp_all [keyForms?, allCanBeKeys]

end

theorem keyForm?_eq_number {v : Value} {size : Number.Size} :
    v.keyForm? = some (.number size) ↔ ∃ x, v.number? = some x ∧ x.size = size := by
  cases v <;> simp [keyForm?, number?]

/-- A number is equal to the numbers of its value, and what is no number to its like. -/
theorem same_of_number {a : Value} {x : Number} (number : a.number? = some x) (b : Value) :
    a.same b = true ↔ ∃ y, b.number? = some y ∧
      (x.same y = true ∨ x = .double .nan ∧ y = .double .nan) := by
  rcases a with _ | p | n | (_ | _ | _) | _ | _ | _ | _ | _ | _ | _ | _ <;> cases number <;>
    rcases b with _ | _ | _ | (_ | _ | _) | _ | _ | _ | _ | _ | _ | _ | _ <;>
    simp [same, sameScalar, number?]

theorem same_iff_of_number {a : Value} {x : Number} (number : a.number? = some x) (b : Value) :
    a.same b = true ↔ b.keyForm? = some (.number x.size) := by
  simp only [same_of_number number, keyForm?_eq_number, Number.size_eq_iff]

theorem keyForms?_cons {v : Value} {rest : List Value} {forms : List KeyForm} :
    keyForms? (v :: rest) = some forms ↔
      ∃ form later, v.keyForm? = some form ∧ keyForms? rest = some later ∧
        form :: later = forms := by
  simp only [keyForms?, Option.bind_eq_some_iff, Option.map_eq_some_iff]
  grind

mutual

/-- A key is equal to the values of its form, and to no others. -/
theorem same_iff_of_keyForm? : ∀ {a : Value} {form : KeyForm}, a.keyForm? = some form →
    ∀ b : Value, a.same b = true ↔ b.keyForm? = some form
  | .tuple items, form, ha, b => by
    obtain ⟨forms, own, rfl⟩ := Option.map_eq_some_iff.mp ha
    cases b with
    | tuple others =>
      simp only [same, keyForm?, Option.map_eq_some_iff, KeyForm.tuple.injEq, exists_eq_right]
      exact sameItems_iff_keyForms? own others
    | _ => simp [same, sameScalar, keyForm?, number?]
  | .null, form, ha, b => by
    cases ha
    cases b <;> simp [same, sameScalar, keyForm?, number?]
  | .bool p, form, ha, b => by
    cases ha
    exact same_iff_of_number rfl b
  | .int n, form, ha, b => by
    cases ha
    exact same_iff_of_number rfl b
  | .float x, form, ha, b => by
    cases ha
    exact same_iff_of_number rfl b
  | .text s, form, ha, b => by
    cases ha
    cases b with
    | text t => simp [same, sameScalar, keyForm?, eq_comm (a := s)]
    | _ => simp [same, sameScalar, keyForm?, number?]
  | .stamp t, form, ha, b => by
    cases ha
    cases b <;> simp [same, sameScalar, keyForm?, number?, Timestamp.same_iff]
  | .bytes bs, form, ha, b => by
    cases ha
    cases b with
    | bytes cs => simp [same, sameScalar, keyForm?, eq_comm (a := bs)]
    | _ => simp [same, sameScalar, keyForm?, number?]
  | .list _, form, ha, b => by cases ha
  | .map _, form, ha, b => by cases ha
  | .set _, form, ha, b => by cases ha
  | .again _, form, ha, b => by cases ha

theorem sameItems_iff_keyForms? : ∀ {as : List Value} {forms : List KeyForm},
    keyForms? as = some forms →
      ∀ bs : List Value, sameItems as bs = true ↔ keyForms? bs = some forms
  | [], forms, has, bs => by
    cases has
    cases bs with
    | nil => simp [sameItems, keyForms?]
    | cons b bs => simp [sameItems, keyForms?_cons]
  | a :: as, forms, has, bs => by
    obtain ⟨form, later, own, behind, rfl⟩ := keyForms?_cons.mp has
    cases bs with
    | nil => simp [sameItems, keyForms?]
    | cons b bs =>
      rw [sameItems, Bool.and_eq_true, same_iff_of_keyForm? own b,
        sameItems_iff_keyForms? behind bs, keyForms?_cons]
      simp

end

/-- A key is equal to what has its form. -/
theorem same_iff {a b : Value} (key : a.canBeKey = true) :
    a.same b = true ↔ b.keyForm? = a.keyForm? := by
  rw [← isSome_keyForm?] at key
  obtain ⟨form, own⟩ := Option.isSome_iff_exists.mp key
  rw [own]
  exact same_iff_of_keyForm? own b

theorem same_self {a : Value} (key : a.canBeKey = true) : a.same a = true :=
  (same_iff key).mpr rfl

/-- What is equal to a key is a key. -/
theorem canBeKey_of_same {a b : Value} (key : a.canBeKey = true) (same : a.same b = true) :
    b.canBeKey = true := by
  rwa [← isSome_keyForm?, (same_iff key).mp same, isSome_keyForm?]

/-- Equal keys are equal to the same values. -/
theorem same_left {a b : Value} (key : a.canBeKey = true) (same : a.same b = true) (c : Value) :
    a.same c = b.same c := by
  rw [Bool.eq_iff_iff, same_iff key, same_iff (canBeKey_of_same key same), (same_iff key).mp same]

end Value

end NameLint
