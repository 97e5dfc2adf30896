import Backflow.Text.Blank
import Backflow.Text.CaseFold
import Backflow.Text.Digit
import Backflow.Text.Word

/-! # Sets of characters in patterns

The sets that a pattern can ask a character to be in, as written: ranges, the named classes, and
the ways to combine them.  `CharSet.resolve` gives the ranges of a set once it is known whether
case counts.
-/

namespace Backflow

/-- A set of characters as written. -/
inductive CharSet where
  | none
  | range (first last : Char)
  /-- The decimal digits of every script. -/
  | digit
  | blank
  /-- The characters words are made of. -/
  | word
  | complement (set : CharSet)
  | union (left right : CharSet)
  | inter (left right : CharSet)
deriving Repr

namespace CharSet

def single (c : Char) : CharSet :=
  .range c c

def difference (left right : CharSet) : CharSet :=
  .inter left (.complement right)

def symmetricDifference (left right : CharSet) : CharSet :=
  .union (difference left right) (difference right left)

def unionAll (sets : List CharSet) : CharSet :=
  sets.foldr .union .none

/-- The union of the ranges between the given ends. -/
def ofEnds (ends : List (Char × Char)) : CharSet :=
  unionAll (ends.map fun (first, last) => .range first last)

def notLineFeed : CharSet :=
  .complement (single '\n')

def any : CharSet :=
  .complement .none

/-- The code points of a set.  With case ignored, ranges take in their case variants before sets
are combined; the named classes hold all case variants of their members. -/
def codes (ignoreCase : Bool) : CharSet → Text.Ranges
  | .none => []
  | .range first last =>
    let range : Text.Ranges := [(first.toNat, last.toNat)]
    if ignoreCase then range.anyCase else range
  | .digit => Text.digitRanges
  | .blank => Text.blankRanges
  | .word => Text.wordRanges
  | .complement set => (set.codes ignoreCase).complement
  | .union left right => (left.codes ignoreCase).union (right.codes ignoreCase)
  | .inter left right => (left.codes ignoreCase).inter (right.codes ignoreCase)

/-- The characters of a set, with case ignored or not. -/
def resolve (set : CharSet) (ignoreCase : Bool) : Text.Ranges :=
  (set.codes ignoreCase).characters

/-- The ASCII classes that a pattern names between colons. -/
def ofName? : String → Option CharSet
  | "alnum" => some (ofEnds [('0', '9'), ('A', 'Z'), ('a', 'z')])
  | "alpha" => some (ofEnds [('A', 'Z'), ('a', 'z')])
  | "ascii" => some (ofEnds [('\x00', '\x7f')])
  | "blank" => some (ofEnds [('\t', '\t'), (' ', ' ')])
  | "cntrl" => some (ofEnds [('\x00', '\x1f'), ('\x7f', '\x7f')])
  | "digit" => some (ofEnds [('0', '9')])
  | "graph" => some (ofEnds [('!', '~')])
  | "lower" => some (ofEnds [('a', 'z')])
  | "print" => some (ofEnds [(' ', '~')])
  | "punct" => some (ofEnds [('!', '/'), (':', '@'), ('[', '\x60'), ('\x7b', '~')])
  | "space" => some (ofEnds [('\t', '\r'), (' ', ' ')])
  | "upper" => some (ofEnds [('A', 'Z')])
  | "word" => some (ofEnds [('0', '9'), ('A', 'Z'), ('_', '_'), ('a', 'z')])
  | "xdigit" => some (ofEnds [('0', '9'), ('A', 'F'), ('a', 'f')])
  | _ => none

end CharSet

end Backflow
