import Backflow.Text.Ranges

/-! # Character ranges as bytes

In UTF-8 the characters of a range are written as sequences of bytes.  A range is cut into
smaller ones, each of which holds all sequences with the first byte in one range of bytes, the
second in another, and so on.
-/

namespace Backflow.Text

/-- A closed range of bytes. -/
abbrev ByteRange := Nat × Nat

def utf8Bytes (n : Nat) : List Nat :=
  if n < 0x80 then [n]
  else if n < 0x800 then [0xC0 + n / 64, 0x80 + n % 64]
  else if n < 0x10000 then [0xE0 + n / 4096, 0x80 + n / 64 % 64, 0x80 + n % 64]
  else [0xF0 + n / 262144, 0x80 + n / 4096 % 64, 0x80 + n / 64 % 64, 0x80 + n % 64]

/-- Where a range that starts or ends within a block of code points with the same leading bytes
is cut off from the blocks it holds in full. -/
def blockCut? (first last block : Nat) : Option Nat :=
  if first / block = last / block then none
  else if first % block ≠ 0 then some ((first / block + 1) * block)
  else if last % block ≠ block - 1 then some (last / block * block)
  else none

/-- The code point before which a range is cut: where the number of bytes changes, or else where
a block begins. -/
def utf8Cut? (first last : Nat) : Option Nat :=
  match [0x80, 0x800, 0x10000].find? fun bound => decide (first < bound ∧ bound ≤ last) with
  | some bound => some bound
  | none => if last < 0x80 then none else [64, 4096, 262144].findSome? (blockCut? first last)

/-- The ranges of bytes that the characters of a range are written with, in order. -/
def utf8Sequences (first last : Nat) : List (List ByteRange) :=
  match utf8Cut? first last with
  | some middle =>
    if first < middle ∧ middle ≤ last then
      utf8Sequences first (middle - 1) ++ utf8Sequences middle last
    else
      []
  | none => [(utf8Bytes first).zip (utf8Bytes last)]
termination_by last - first

/-- The ranges of bytes that the characters of a set are written with, in order. -/
def Ranges.utf8 (set : Ranges) : List (List ByteRange) :=
  set.flatMap fun (first, last) => utf8Sequences first last

end Backflow.Text
