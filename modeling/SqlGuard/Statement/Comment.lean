/-
Comments, and what is left of a statement without them.

There are two line comments, each opened by a doubled character, and one block comment.  The
code part of a line is what precedes its first marker.  Cleaning a statement drops line
comments first and block comments from what is left, so a marker inside a block comment still
ends its line.
-/
import SqlGuard.Text.Basic

namespace SqlGuard

/-- What opens a comment that runs to the end of its line. -/
inductive Marker where
  | dashes
  | slashes
deriving DecidableEq

namespace Marker

/-- The character a marker doubles. -/
def char : Marker → Char
  | dashes => '-'
  | slashes => '/'

/-- The marker as it is written. -/
def text (m : Marker) : Text :=
  [m.char, m.char]

/-- Both markers, in the order in which they are tried. -/
def all : List Marker :=
  [dashes, slashes]

end Marker

/-! ### Line comments -/

/-- A line cut at the first occurrence of one marker after the other. -/
def cutMarkers (markers : List Marker) (line : Text) : Text :=
  markers.foldl (fun code m => Text.upTo m.text code) line

/-- The code of a line: the trimmed line up to its first marker. -/
def codePart (line : Text) : Text :=
  cutMarkers Marker.all line.trim

/-- Whether a line holds nothing but a comment. -/
def isCommentLine (line : Text) : Bool :=
  Marker.all.any fun m => m.text.isPrefixOf line.trim

/-- A statement whose lines end at their first marker. -/
def dropLineComments (s : Text) : Text :=
  Text.unlines (s.lines.map (cutMarkers Marker.all))

/-! ### Block comments -/

/-- What opens a block comment. -/
def blockOpen : Text :=
  ['/', '*']

/-- What closes a block comment. -/
def blockClose : Text :=
  ['*', '/']

/-- The stretches of a text outside its block comments, last one first, in front of `kept`.
A block that is never closed is no comment, and neither is any behind it. -/
def outsideBlocks (kept : List Text) (s : Text) : List Text :=
  match _hopen : Text.breakAt? blockOpen s with
  | none => s :: kept
  | some (before, opened) =>
    match _hclose : Text.breakAt? blockClose opened with
    | none => s :: kept
    | some (_, rest) => outsideBlocks (before :: kept) rest
termination_by s.length
decreasing_by
  have h₁ := Text.length_lt_of_breakAt? (by simp [blockOpen]) _hopen
  have h₂ := Text.length_lt_of_breakAt? (by simp [blockClose]) _hclose
  omega

/-- A text without its block comments. -/
def dropBlockComments (s : Text) : Text :=
  (outsideBlocks [] s).reverse.flatten

/-! ### Clean text -/

/-- A statement without comments, its words one space apart. -/
def clean (s : Text) : Text :=
  (dropBlockComments (dropLineComments s)).spaced

/-- The first word of a clean text in upper case, `UNKNOWN` if it has no word. -/
def leadingKeyword (text : Text) : String :=
  match text.words with
  | [] => "UNKNOWN"
  | word :: _ => String.ofList word.upper

/-- The kind of a statement: the leading keyword of its clean text. -/
def kind (s : Text) : String :=
  leadingKeyword (clean s)

end SqlGuard
