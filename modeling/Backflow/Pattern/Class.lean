import Backflow.Pattern.Escape

/-! # Bracketed classes

A class in brackets is a union of characters, ranges, escapes, named ASCII classes and further
classes in brackets, all of it complemented after a leading `^`.  The operators `&&`, `--` and
`~~` (both, only the first, exactly one) combine the unions on their two sides, from left to
right.
-/

namespace Backflow.Pattern

inductive SetOperator where
  | inter
  | difference
  | symmetricDifference

def SetOperator.apply : SetOperator → CharSet → CharSet → CharSet
  | .inter => .inter
  | .difference => .difference
  | .symmetricDifference => .symmetricDifference

/-- A set, and how deep brackets, unions and operators are nested in it. -/
structure ClassPart where
  set : CharSet
  nesting : Nat

/-- A part without parts of its own. -/
def ClassPart.leaf (set : CharSet) : ClassPart :=
  ⟨set, 0⟩

/-- The union of parts: nothing is nested in a part that stands alone. -/
def ClassPart.union : List ClassPart → ClassPart
  | [] => .leaf .none
  | [part] => part
  | parts => ⟨CharSet.unionAll (parts.map (·.set)), 1 + (parts.map (·.nesting)).foldl max 0⟩

/-- A class whose closing bracket has not been met. -/
structure OpenClass where
  negated : Bool
  /-- The operator met last, and what stands before it. -/
  left : Option (ClassPart × SetOperator)
  /-- The parts of the union under way, last first. -/
  items : List ClassPart

namespace OpenClass

def add (c : OpenClass) (part : ClassPart) : OpenClass :=
  { c with items := part :: c.items }

def total (c : OpenClass) : ClassPart :=
  let right := ClassPart.union c.items
  match c.left with
  | some (left, operator) =>
    ⟨operator.apply left.set right.set, 1 + max left.nesting right.nesting⟩
  | none => right

/-- Takes an operator: a new union starts. -/
def operate (c : OpenClass) (operator : SetOperator) : OpenClass :=
  { c with left := some (c.total, operator), items := [] }

def close (c : OpenClass) : ClassPart :=
  let total := c.total
  ⟨if c.negated then .complement total.set else total.set, 1 + total.nesting⟩

end OpenClass

/-- Reads what follows an opening bracket: a caret, hyphens that stand for themselves, and a
closing bracket that does so if it comes first. -/
def openClass? (text : List Char) : Option (OpenClass × List Char) :=
  let (negated, inside) := match text with
    | '^' :: rest => (true, rest)
    | _ => (false, text)
  let hyphens := (inside.takeWhile (· == '-')).map fun c => ClassPart.leaf (.single c)
  match hyphens, inside.dropWhile (· == '-') with
  | _, [] => none
  | [], ']' :: rest => some (⟨negated, none, [.leaf (.single ']')]⟩, rest)
  | _, rest => some (⟨negated, none, hyphens⟩, rest)

/-- Reads a named ASCII class after its opening bracket: `:alpha:]` or `:^alpha:]`. -/
def readNamedClass? : List Char → Option (CharSet × List Char)
  | ':' :: text =>
    let (negated, inside) := match text with
      | '^' :: rest => (true, rest)
      | _ => (false, text)
    match inside.dropWhile (· != ':') with
    | ':' :: ']' :: rest =>
      (CharSet.ofName? (String.ofList (inside.takeWhile (· != ':')))).map fun set =>
        (if negated then .complement set else set, rest)
    | _ => none
  | _ => none

def readClassAtom? : List Char → Option (Escape × List Char)
  | [] => none
  | '\\' :: rest => readEscape? rest
  | c :: rest => some (.char c, rest)

/-- Reads a character, a range of characters or an escape for a class. -/
def readClassItem? (text : List Char) : Option (CharSet × List Char) := do
  let (first, rest) ← readClassAtom? text
  let alone : Option (CharSet × List Char) := match first with
    | .char c => some (.single c, rest)
    | .chars set => some (set, rest)
    | .condition _ => none
  match rest with
  | [] => none
  | '-' :: ']' :: _ => alone
  | '-' :: '-' :: _ => alone
  | '-' :: after =>
    match first, ← readClassAtom? after with
    | .char a, (.char b, rest) => if a ≤ b then some (.range a b, rest) else none
    | _, _ => none
  | _ => alone

/-- What becomes of a class after one more of its parts. -/
inductive ClassStep where
  | closed (part : ClassPart)
  | inside (innermost : OpenClass) (outer : List OpenClass)

def readClassPart? (innermost : OpenClass) (outer : List OpenClass) :
    List Char → Option (ClassStep × List Char)
  | '[' :: rest =>
    match readNamedClass? rest with
    | some (set, rest) => some (.inside (innermost.add (.leaf set)) outer, rest)
    | none => (openClass? rest).map fun (c, rest) => (.inside c (innermost :: outer), rest)
  | ']' :: rest =>
    match outer with
    | [] => some (.closed innermost.close, rest)
    | parent :: outer => some (.inside (parent.add innermost.close) outer, rest)
  | '&' :: '&' :: rest => some (.inside (innermost.operate .inter) outer, rest)
  | '-' :: '-' :: rest => some (.inside (innermost.operate .difference) outer, rest)
  | '~' :: '~' :: rest => some (.inside (innermost.operate .symmetricDifference) outer, rest)
  | text =>
    (readClassItem? text).map fun (set, rest) => (.inside (innermost.add (.leaf set)) outer, rest)

/-- Reads a class up to its closing bracket, in at most `steps` parts. -/
def readClassParts? (innermost : OpenClass) (outer : List OpenClass) (text : List Char) :
    (steps : Nat) → Option (ClassPart × List Char)
  | 0 => none
  | steps + 1 =>
    match readClassPart? innermost outer text with
    | none => none
    | some (.closed part, rest) => some (part, rest)
    | some (.inside innermost outer, rest) => readClassParts? innermost outer rest steps

/-- Reads a class after its opening bracket.  Every part takes a character, so there are no more
parts than characters. -/
def readClass? (text : List Char) : Option (ClassPart × List Char) := do
  let (c, rest) ← openClass? text
  readClassParts? c [] rest rest.length

end Backflow.Pattern
