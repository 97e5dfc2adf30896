import Backflow.Pattern

/-! # Simplified patterns

Patterns are put together by functions that simplify as they go: sequences and alternatives are
flat, characters in a row are one literal, alternatives that are all single characters or all
classes are one class, what all alternatives start with stands before them, and a repetition of
something that takes no characters is tried once at most.  The size of a pattern is that of its
simplified form.
-/

namespace Backflow.Pattern

def ofSet : Text.Ranges → Pattern
  | [(first, last)] => if first = last then .literal [Char.ofNat first] else .oneOf [(first, last)]
  | set => .oneOf set

/-! ## Sequences -/

/-- The parts that a pattern adds to a sequence. -/
def sequenceParts : Pattern → List Pattern
  | .empty => []
  | .seq parts => parts
  | p => [p]

/-- Puts a part before others; two literals become one. -/
def consPart : Pattern → List Pattern → List Pattern
  | .literal first, .literal second :: rest => .literal (first ++ second) :: rest
  | part, rest => part :: rest

def sequence (patterns : List Pattern) : Pattern :=
  match (patterns.flatMap sequenceParts).foldr consPart [] with
  | [] => .empty
  | [p] => p
  | parts => .seq parts

/-! ## Alternatives -/

def choiceParts : Pattern → List Pattern
  | .alt alternatives => alternatives
  | p => [p]

def singleSet? : Pattern → Option Text.Ranges
  | .literal [c] => some [(c.toNat, c.toNat)]
  | _ => none

def classSet? : Pattern → Option Text.Ranges
  | .oneOf set => some set
  | _ => none

/-- The set that alternatives stand for if all of them are single characters or all of them are
classes. -/
def unionSet? (alternatives : List Pattern) : Option Text.Ranges :=
  (alternatives.mapM singleSet? <|> alternatives.mapM classSet?).map fun sets =>
    .ofList sets.flatten

def parts? : Pattern → Option (List Pattern)
  | .seq parts => some parts
  | _ => none

def commonStart : List Pattern → List Pattern → List Pattern
  | p :: left, q :: right => if p == q then p :: commonStart left right else []
  | _, _ => []

/-- What all alternatives start with; nothing if one of them is not a sequence. -/
def sharedStart (alternatives : List Pattern) : List Pattern :=
  match alternatives.mapM parts? with
  | some (first :: rest) => rest.foldl commonStart first
  | _ => []

def dropParts (count : Nat) : Pattern → Pattern
  | .seq parts => sequence (parts.drop count)
  | p => p

mutual

def weight : Pattern → Nat
  | .group _ body => 1 + body.weight
  | .seq parts => 1 + weightOfAll parts
  | .alt alternatives => 1 + weightOfAll alternatives
  | .repeated body _ _ _ => 1 + body.weight
  | _ => 1

def weightOfAll : List Pattern → Nat
  | [] => 0
  | p :: rest => p.weight + weightOfAll rest

end

/-- One of the given patterns, a shared start being taken out at most `steps` times. -/
def choiceWithin : (steps : Nat) → List Pattern → Pattern
  | steps, patterns =>
    match patterns.flatMap choiceParts with
    | [] => .oneOf []
    | [p] => p
    | alternatives =>
      match unionSet? alternatives, sharedStart alternatives, steps with
      | some set, _, _ => ofSet set
      | none, [], _ => .alt alternatives
      | none, _ :: _, 0 => .alt alternatives
      | none, start, steps + 1 =>
        sequence (start ++ [choiceWithin steps (alternatives.map (dropParts start.length))])

/-- One of the given patterns.  Taking out a shared start makes the alternatives smaller, so it
is done no more often than they have parts. -/
def choice (patterns : List Pattern) : Pattern :=
  choiceWithin (weightOfAll patterns) patterns

/-! ## Repetitions -/

mutual

def isWidthless : Pattern → Bool
  | .empty => true
  | .literal chars => chars.isEmpty
  | .oneOf _ => false
  | .assertion _ => true
  | .group _ body => body.isWidthless
  | .seq parts => allWidthless parts
  | .alt alternatives => allWidthless alternatives
  | .repeated body _ _ _ => body.isWidthless

def allWidthless : List Pattern → Bool
  | [] => true
  | p :: rest => p.isWidthless && allWidthless rest

end

def times (body : Pattern) (least : Nat) (most : Option Nat) (eager : Bool) : Pattern :=
  let (least, most) :=
    if body.isWidthless then (min least 1, some (min (most.getD 1) 1)) else (least, most)
  if most = some 0 then .empty
  else if least = 1 ∧ most = some 1 then body
  else .repeated body least most eager

end Backflow.Pattern
