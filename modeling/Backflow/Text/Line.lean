/-! # Lines of a text

A line ends at a line feed, and a carriage return right before that line feed belongs to the
line ending.  A text that does not end in a line feed has a last line that keeps whatever
stands there, a carriage return included; a text that does has no empty line after it.
-/

namespace Backflow.Text

/-- The content of a line that a line feed ends, given its characters last first. -/
def closeLine : List Char → List Char
  | '\r' :: earlier => earlier.reverse
  | current => current.reverse

/-- The lines of a text, `current` being the characters of the line under way, last first. -/
def linesFrom (current : List Char) : List Char → List (List Char)
  | [] => if current.isEmpty then [] else [current.reverse]
  | c :: rest =>
    if c = '\n' then closeLine current :: linesFrom [] rest else linesFrom (c :: current) rest

/-- The lines of a text, without their line endings. -/
def lines (text : List Char) : List (List Char) :=
  linesFrom [] text

/-- The text of the given lines, each ended by a line feed. -/
def unlines (lines : List String) : String :=
  lines.foldl (fun text line => text ++ line ++ "\n") ""

end Backflow.Text
