/-! # Sets of characters as ranges

A set of characters is a list of closed ranges of code points, in ascending order and with gaps
between them.  The character classes of the library that reach beyond ASCII are tables of this
form.

* `Ranges.contains` is membership.
* `Ranges.ofList` puts ranges in order and joins those that touch.
* `Ranges.union`, `Ranges.complement` and `Ranges.inter` combine sets.
-/

namespace Backflow.Text

/-- Closed ranges of code points, in ascending order and with gaps between them. -/
abbrev Ranges := List (Nat × Nat)

namespace Ranges

def containsCode : Ranges → Nat → Bool
  | [], _ => false
  | (first, last) :: rest, n => decide (first ≤ n) && (decide (n ≤ last) || containsCode rest n)

def contains (set : Ranges) (c : Char) : Bool :=
  set.containsCode c.toNat

/-- Joins ascending ranges that touch, `(first, last)` being the range under way. -/
def joinFrom (first last : Nat) : Ranges → Ranges
  | [] => [(first, last)]
  | (a, b) :: rest =>
    if a ≤ last + 1 then joinFrom first (max last b) rest else (first, last) :: joinFrom a b rest

def join : Ranges → Ranges
  | [] => []
  | (first, last) :: rest => joinFrom first last rest

def startsFirst (left right : Nat × Nat) : Bool :=
  decide (left.1 ≤ right.1)

def ofList (ranges : List (Nat × Nat)) : Ranges :=
  join (ranges.mergeSort startsFirst)

def union (left right : Ranges) : Ranges :=
  join (left.merge right startsFirst)

/-- The ranges of code points from `next` on that lie between the given ones. -/
def gapsFrom (next : Nat) : Ranges → Ranges
  | [] => if next ≤ 0x10FFFF then [(next, 0x10FFFF)] else []
  | (first, last) :: rest =>
    if next < first then (next, first - 1) :: gapsFrom (last + 1) rest else gapsFrom (last + 1) rest

def complement (set : Ranges) : Ranges :=
  gapsFrom 0 set

def inter (left right : Ranges) : Ranges :=
  complement (union left.complement right.complement)

def surrogates : Ranges :=
  [(0xD800, 0xDFFF)]

/-- The characters among the code points of a set. -/
def characters (set : Ranges) : Ranges :=
  set.inter surrogates.complement

end Ranges

end Backflow.Text
