/-
Submissions: what a caller hands in to be checked.

A submission ought to be a text, but a caller may hand in any value.  A value that holds nothing
counts as an input without statements; any other value that is no text cannot be processed.
-/
import SqlGuard.Engine.Basic
import SqlGuard.Verdict

namespace SqlGuard

/-- What a caller hands in. -/
inductive Submission where
  | text (s : Text)
  /-- A value that is no text. -/
  | other (value : Json)

namespace Submission

/-- A value as a submission. -/
def ofJson : Json → Submission
  | .str s => text s.toList
  | v => other v

/-- A submission as a value. -/
def toJson : Submission → Json
  | text s => .str (String.ofList s)
  | other v => v

/-- Whether nothing was handed in: no characters, or a value that holds nothing. -/
def isBlankSheet : Submission → Bool
  | text s => s.isEmpty
  | other v => !v.isTruthy

/-- The text that was handed in, for an operation that only texts have. -/
def textFor (operation : String) : Submission → Except Fault Text
  | text s => .ok s
  | other v => .error (.noOperation v.typeName operation)

/-- The text that was handed in, where its characters are needed. -/
def characters : Submission → Except Fault Text
  | text s => .ok s
  | other v => .error (.notText v.typeName)

/-- The statements that were handed in. -/
def statements (input : Submission) : Except Fault (List Text) :=
  if input.isBlankSheet then .ok [] else (input.textFor "split").map SqlGuard.statements

end Submission

end SqlGuard
