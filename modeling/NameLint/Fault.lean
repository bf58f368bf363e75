import NameLint.Config.Fault

/-!
# Faults

Why an operation stops. The first three causes carry a wording; the others say
only what kind of thing went wrong.
-/

namespace NameLint

inductive Fault where
  /-- The configuration is refused. -/
  | config (reason : ConfigFault)
  /-- A value stands where a syntax node is needed. -/
  | notANode (given : Value)
  /-- A rule gives up on a node. -/
  | ruleFailed (text : String)
  /-- An operation meets a value of a kind that it is not for. -/
  | wrongKind
  /-- A value is asked for a part that its kind does not have. -/
  | noMember
  /-- A value of the right kind is outside what is admitted. -/
  | badValue
  /-- A mapping lacks a key. -/
  | missingKey
  /-- A sequence is asked for a place that it does not have. -/
  | outOfRange
  /-- A number is too large for the operation. -/
  | tooLarge
  /-- Bytes are no text. -/
  | undecodable
  /-- A directory stands where a file is needed. -/
  | isDirectory
  /-- A file or its directory does not exist. -/
  | notFound
  /-- A file stands where a directory is needed. -/
  | notADirectory
  /-- A file stands where a directory is to be made. -/
  | alreadyExists
  /-- The file system refuses a path. -/
  | pathRefused
  /-- A text would be longer than any that can be kept. -/
  | outOfMemory
  /-- A pattern asks for more than the matcher has numbers for. -/
  | patternTooWide
  /-- A group of a match ends before it begins. -/
  | crossedGroup
  /-- The stack has no room for the calls that a value or a pattern nests. -/
  | stackExhausted

/-- The wording of a fault that has one. A value that is no node is quoted up to its eightieth
character. -/
def Fault.message? : Fault → Option String
  | .config reason => some reason.message
  | .notANode given =>
    some ("Not an ESTree node: " ++ String.ofList (given.written.toList.take 80))
  | .ruleFailed text => some text
  | _ => none

/-- An attempt in two parts succeeds if and only if both parts do. -/
theorem Fault.bind_eq_ok {α β : Type} {x : Except Fault α} {f : α → Except Fault β} {b : β} :
    (x >>= f) = .ok b ↔ ∃ a, x = .ok a ∧ f a = .ok b := by
  cases x with
  | error fault =>
    constructor
    · intro h; cases h
    · rintro ⟨a, h, _⟩; cases h
  | ok a =>
    constructor
    · intro h; exact ⟨a, rfl, h⟩
    · rintro ⟨a', h, hf⟩; cases h; exact hf

def Fault.of? {α : Type} : Except Fault α → Option Fault
  | .ok _ => none
  | .error fault => some fault

theorem Fault.of?_eq_some {α : Type} {x : Except Fault α} {fault : Fault} :
    Fault.of? x = some fault ↔ x = .error fault := by
  cases x with
  | ok a => simp [of?]
  | error other => simp [of?]

/-- A text that cannot be made, because of an obstacle. -/
def Fault.ofObstacle : Value.Obstacle → Fault
  | .digits => .badValue
  | .depth => .stackExhausted

/-- A refusal of the configuration. One that cannot be worded is what keeps it from being. -/
def Fault.refusal [Stack] (reason : ConfigFault) : Fault :=
  (reason.obstacle?.map ofObstacle).getD (.config reason)

/-- The text of a value on its own, if there is room for it. -/
def Value.textFor [Stack] (w : Writing) (v : Value) : Except Fault String :=
  match v.shownObstacle? (Stack.room w) with
  | none => return v.shown
  | some obstacle => throw (.ofObstacle obstacle)

end NameLint
