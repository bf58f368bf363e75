import NameLint.Tree.Node
import NameLint.Text.Word

/-!
# Message templates

A template is a text with placeholders: a key between double braces, with blanks
around it or not. Filling a template replaces the placeholders whose key is known,
in one pass from the left; inserted text is not looked at again and everything
else stays as it is. A value without a text ends the filling.
-/

namespace NameLint

namespace Template

structure Placeholder where
  /-- The key between the braces. -/
  key : List Char
  /-- The placeholder as it is spelled. -/
  spelling : List Char
  /-- What follows it. -/
  rest : List Char

def placeholder? : List Char → Option Placeholder
  | '\x7b' :: '\x7b' :: cs =>
    let before := cs.takeWhile Text.isBlank
    let inner := cs.dropWhile Text.isBlank
    let key := inner.takeWhile Text.isWord
    let outer := inner.dropWhile Text.isWord
    let after := outer.takeWhile Text.isBlank
    match key, outer.dropWhile Text.isBlank with
    | _ :: _, '\x7d' :: '\x7d' :: rest =>
      some ⟨key, ['\x7b', '\x7b'] ++ before ++ key ++ after ++ ['\x7d', '\x7d'], rest⟩
    | _, _ => none
  | _ => none

theorem length_dropWhile_le {α : Type} (p : α → Bool) (l : List α) :
    (l.dropWhile p).length ≤ l.length :=
  (List.dropWhile_suffix p).length_le

/-- What follows a placeholder is shorter than the text in front of which it stands. -/
theorem length_rest_lt {cs : List Char} {p : Placeholder} (h : placeholder? cs = some p) :
    p.rest.length < cs.length := by
  unfold placeholder? at h
  split at h
  · rename_i inner
    dsimp only at h
    split at h
    · rename_i rest hkey hrest
      have last := length_dropWhile_le Text.isBlank
        (List.dropWhile Text.isWord (List.dropWhile Text.isBlank inner))
      have middle := length_dropWhile_le Text.isWord (List.dropWhile Text.isBlank inner)
      have first := length_dropWhile_le Text.isBlank inner
      rw [hrest] at last
      obtain rfl := Option.some.inj h
      simp only [List.length_cons] at last ⊢
      omega
    · cases h
  · cases h

/-- The template with its known placeholders replaced. The text for a key is asked for as often as
a placeholder with it is met. -/
def fill (known : String → Except Fault (Option String)) (cs : List Char) :
    Except Fault (List Char) :=
  match cs with
  | [] => return []
  | c :: others =>
    match _h : placeholder? (c :: others) with
    | some p => do
      let text ← known (String.ofList p.key)
      let rest ← fill known p.rest
      match text with
      | some s => return s.toList ++ rest
      | none => return p.spelling ++ rest
    | none => do
      let rest ← fill known others
      return c :: rest
termination_by cs.length
decreasing_by
  · exact length_rest_lt _h
  · simp

/-- The text for a key in the data of a message. Records and mappings know their keys. A sequence or
a text that happens to hold the key has no value for it; what holds nothing cannot be asked. -/
def lookup [Stack] (data : Item) (key : String) : Except Fault (Option String) :=
  match data with
  | .record entries => (entries.lookup key).mapM (Item.textFor .message)
  | .plain (.map entries) => (Entries.get? entries key).mapM (Value.textFor .message)
  | .plain (.list items) => if items.any (·.same (.text key)) then throw .wrongKind else return none
  | .plain (.tuple items) =>
    if items.any (·.same (.text key)) then throw .wrongKind else return none
  | .plain (.set items) => if items.any (·.same (.text key)) then throw .wrongKind else return none
  | .tuple items =>
    if items.any (fun i => i.text? == some key) then throw .wrongKind else return none
  | .plain (.text s) =>
    if Text.hasPart key.toList s.toList then throw .wrongKind else return none
  | _ => throw .wrongKind

/-- The message that a template and its data give. Data that counts as false leaves the template
alone. -/
def format [Stack] (template : String) (data : Item) : Except Fault String :=
  if data.truthy then do
    let cs ← fill (lookup data) template.toList
    return String.ofList cs
  else return template

end Template

end NameLint
