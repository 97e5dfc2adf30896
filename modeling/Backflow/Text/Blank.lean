import Backflow.Text.Ranges

/-! # Blank characters

Lines and tokens are trimmed and cut at *blank* characters, those with the Unicode property
`White_Space`.  Between the tokens of an operand list only *gaps* count, which are spaces and
tabs.

* `trim` removes the blanks on both sides.
* `words` are the maximal runs of characters that are not blank.
* `skipGap` removes the spaces and tabs at the front.
-/

namespace Backflow.Text

def blankRanges : Ranges :=
  [(0x9, 0xD), (0x20, 0x20), (0x85, 0x85), (0xA0, 0xA0), (0x1680, 0x1680), (0x2000, 0x200A),
    (0x2028, 0x2029), (0x202F, 0x202F), (0x205F, 0x205F), (0x3000, 0x3000)]

/-- Holds of the characters with the property `White_Space`. -/
def isBlank (c : Char) : Bool :=
  blankRanges.contains c

def isGap (c : Char) : Bool :=
  c == ' ' || c == '\t'

/-! ## Trimming -/

def trimStart (text : List Char) : List Char :=
  text.dropWhile isBlank

def trimEnd (text : List Char) : List Char :=
  (text.reverse.dropWhile isBlank).reverse

def trim (text : List Char) : List Char :=
  trimEnd (trimStart text)

def skipGap (text : List Char) : List Char :=
  text.dropWhile isGap

theorem length_skipGap_le (text : List Char) : (skipGap text).length ≤ text.length :=
  (List.dropWhile_sublist _).length_le

/-! ## Words -/

/-- Cuts a text at its first blank: what stands before it, and what stands after it.  A text
without blanks stands before. -/
def cutAtBlank (text : List Char) : List Char × List Char :=
  (text.takeWhile (!isBlank ·), (text.dropWhile (!isBlank ·)).drop 1)

/-- The words of a text, `current` being the characters of the word under way, last first. -/
def wordsFrom (current : List Char) : List Char → List (List Char)
  | [] => if current.isEmpty then [] else [current.reverse]
  | c :: rest =>
    if isBlank c then
      if current.isEmpty then wordsFrom [] rest else current.reverse :: wordsFrom [] rest
    else
      wordsFrom (c :: current) rest

/-- The maximal runs of characters that are not blank. -/
def words (text : List Char) : List (List Char) :=
  wordsFrom [] text

end Backflow.Text
