/-
Filters: the clause that keeps an UPDATE or DELETE from touching every row.

A filter is active when the word WHERE stands in the code of a line, as a word of its own, with
a condition behind it.  It is commented when the same word stands behind a comment marker.  The
detector of commented filters looks at the shape of a whole line; the extractor is content with
a comment that starts with the word, and takes the first one it meets.
-/
import SqlGuard.Statement.Comment
import SqlGuard.Text.Word

namespace SqlGuard

/-! ### The filter word and its condition -/

/-- The filter word in lower case. -/
def filterWord : Text :=
  "where".toList

/-- What follows the filter word at the head of a text, in whatever case the word is written. -/
def afterFilterWord? (s : Text) : Option Text :=
  if (s.take filterWord.length).map Char.toLower == filterWord then
    some (s.drop filterWord.length)
  else
    none

/-- Whether a condition follows: a blank at least, and then a character that may open it. -/
def hasCondition (opens : Char → Bool) (rest : Text) : Bool :=
  rest.head?.any isBlank && (rest.dropWhile isBlank).head?.any opens

/-- Whether a filter starts at a cut: the word WHERE, no word character right before it, and a
condition behind it. -/
def startsFilter (opens : Char → Bool) (before after : Text) : Bool :=
  match afterFilterWord? after with
  | none => false
  | some rest => !before.head?.any isWord && hasCondition opens rest

/-! ### Active filters -/

/-- Whether a filter stands in the text; a semicolon opens no condition. -/
def mentionsFilter (code : Text) : Bool :=
  code.hasCut (startsFilter (· != ';'))

/-- Whether some line of the statement has a filter in its code. -/
def hasActiveFilter (s : Text) : Bool :=
  s.lines.any fun line => !isCommentLine line && mentionsFilter (codePart line)

/-! ### Commented filters -/

/-- Whether a filter is disabled at a cut: behind code that does not end in the marker's own
character stands the marker, and the word WHERE is the first word after it. -/
def startsDisabled (m : Marker) (before after : Text) : Bool :=
  m.text.isPrefixOf after && (before.dropWhile isBlank).head?.any (· != m.char) &&
    match afterFilterWord? ((after.drop m.text.length).dropWhile isBlank) with
    | none => false
    | some rest => !rest.head?.any isWord

/-- Whether a line disables a filter: a comment line that holds one with any condition, or code
with a comment that starts with the filter word. -/
def disablesFilter (line : Text) : Bool :=
  (isCommentLine line && line.trim.hasCut (startsFilter fun _ => true)) ||
    Marker.all.any fun m => line.hasCut (startsDisabled m)

/-- Whether a filter was written in the statement and then commented out. -/
def hasCommentedFilter (s : Text) : Bool :=
  s.lines.any disablesFilter

/-- A commented filter, located in its statement. -/
structure CommentedFilter where
  /-- The number of its line, from zero. -/
  line : Nat
  /-- What the line holds before the marker. -/
  before : Text
  /-- The comment, trimmed; it starts with the filter word. -/
  clause : Text
deriving DecidableEq

/-- The comment behind the first occurrence of a marker, if it starts with the filter word. -/
def Marker.filterClause? (m : Marker) (line : Text) : Option (Text × Text) :=
  match Text.breakAt? m.text line with
  | none => none
  | some (before, comment) =>
    if "WHERE".toList.isPrefixOf comment.trim.upper then some (before, comment.trim) else none

/-- The first commented filter of a statement. -/
def commentedFilter? (s : Text) : Option CommentedFilter :=
  s.lines.zipIdx.findSome? fun (line, number) =>
    (Marker.all.findSome? (·.filterClause? line)).map fun (before, clause) =>
      { line := number, before, clause }

end SqlGuard
