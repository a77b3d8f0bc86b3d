/-
Values as text.

A text stands for itself, and any other value is written out, an integer in full: none that can be
read is too long for that.  Inside a list or an object a text is quoted, so that what it holds
cannot be taken for the brackets and commas around it.
-/
import SqlGuard.Json.Basic
import SqlGuard.Text.Quoted

namespace SqlGuard.Json

mutual

/-- A value as it stands inside another one. -/
def inner : Json → Text
  | null => "None".toList
  | bool true => "True".toList
  | bool false => "False".toList
  | int n => (toString n).toList
  | real literal => Double.text literal
  | str s => Text.quoted s.toList
  | arr items => '[' :: [',', ' '].intercalate (innerItems items) ++ [']']
  | obj members => '\x7b' :: [',', ' '].intercalate (innerMembers members) ++ ['\x7d']

/-- The items of a list. -/
def innerItems : List Json → List Text
  | [] => []
  | v :: rest => inner v :: innerItems rest

/-- The members of an object, each with its key. -/
def innerMembers : List (String × Json) → List Text
  | [] => []
  | (key, v) :: rest =>
    (Text.quoted key.toList ++ ':' :: ' ' :: inner v) :: innerMembers rest

end

/-- A value as text. -/
def shown : Json → Text
  | str s => s.toList
  | v => inner v

end SqlGuard.Json
