import NameLint.Text.Word
import NameLint.Tree.Node

/-!
# Private members

A documentation comment right in front of a node marks it as private by a tag. It
ends on the line on which the node begins or on the line above.
-/

namespace NameLint

namespace Comment

/-- The tag that marks a private member. -/
def privateTag : List Char := "@private".toList

/-- Whether a word does not go on here. -/
def endsWord : List Char → Bool
  | [] => true
  | c :: _ => !Text.isWord c

/-- Whether the text holds the tag, with a blank before it and no word character behind it. -/
def hasTag : List Char → Bool
  | [] => false
  | c :: rest =>
    (Text.isBlank c && privateTag.isPrefixOf rest && endsWord (rest.drop privateTag.length)) ||
      hasTag rest

/-- Whether the comment ends at most one line above the line. Lines have to be numbers. -/
def isNear (startLine endLine : Value) : Except Fault Bool :=
  match startLine.number?, endLine.number? with
  | some a, some b =>
    match a.sub? b with
    | some distance => return distance.atMost (.whole 1)
    | none => throw .tooLarge
  | _, _ => throw .wrongKind

/-- Whether the comment marks what begins at the line as private. -/
def marksPrivate (c : Comment) (startLine : Value) : Except Fault Bool :=
  if !c.type.same (.text "Block") then return false
  else
    match c.value, c.loc with
    | .text s, loc =>
      if s.toList.head? != some '*' then return false
      else
        match loc with
        | none => return false
        | some l => do
          if ← isNear startLine l.endLine then return hasTag s.toList else return false
    | _, _ => throw .noMember

def anyMarksPrivate (startLine : Value) : List Comment → Except Fault Bool
  | [] => return false
  | c :: rest => do
    if ← c.marksPrivate startLine then return true else anyMarksPrivate startLine rest

end Comment

/-- Whether a comment in front of the node marks it as private. -/
def Node.hasPrivateTag (n : Node) : Except Fault Bool :=
  match n.loc with
  | none => return false
  | some loc => Comment.anyMarksPrivate loc.startLine n.comments

end NameLint
