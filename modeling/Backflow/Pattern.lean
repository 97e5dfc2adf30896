import Backflow.Text.Word

/-! # Patterns

Patterns are regular expressions over characters with assertions about the place of a match.  A
text is accepted when some part of it matches, so neither end is anchored unless the pattern
says so.

A pattern is run on sets of *spots*, the places between characters: `Pattern.ends` takes the
spots at which a match may start to those at which it may end.  A set of spots is a number with
a bit for each spot.  `Pattern.plan` works out once for a text which spots each class and each
assertion allows.
-/

namespace Backflow

/-- A condition on a spot. -/
inductive Assertion where
  | textStart
  | textEnd
  | lineStart
  | lineEnd
  | wordBoundary
  | notWordBoundary
  | wordStart
  | wordEnd
  /-- No word character stands before. -/
  | wordStartHalf
  /-- No word character stands after. -/
  | wordEndHalf
deriving DecidableEq, Repr

inductive Pattern where
  | empty
  /-- The given characters in a row. -/
  | literal (chars : List Char)
  | oneOf (set : Text.Ranges)
  | assertion (condition : Assertion)
  /-- A group, numbered by its opening parenthesis. -/
  | group (number : Nat) (body : Pattern)
  | seq (parts : List Pattern)
  | alt (alternatives : List Pattern)
  /-- At least `least` and at most `most` times the same.  Whether long matches are preferred
  does not change what is accepted. -/
  | repeated (body : Pattern) (least : Nat) (most : Option Nat) (eager : Bool)
deriving Repr, BEq

/-! ## Spots -/

/-- A set of spots of a text: bit `k` stands for the spot before character `k`. -/
abbrev Spots := Nat

/-- The set of spots with the given bits, that of the first spot first. -/
def Spots.ofBits (bits : List Bool) : Spots :=
  bits.foldr (fun bit rest => 2 * rest + bit.toNat) 0

def isWordAt (c : Option Char) : Bool :=
  c.any Text.isWordChar

/-- Holds when the assertion is true between two characters, either of which may be missing at
an end of the text. -/
def Assertion.holds : Assertion → Option Char → Option Char → Bool
  | .textStart, before, _ => before.isNone
  | .textEnd, _, after => after.isNone
  | .lineStart, before, _ => before.all (· == '\n')
  | .lineEnd, _, after => after.all (· == '\n')
  | .wordBoundary, before, after => isWordAt before != isWordAt after
  | .notWordBoundary, before, after => isWordAt before == isWordAt after
  | .wordStart, before, after => !isWordAt before && isWordAt after
  | .wordEnd, before, after => isWordAt before && !isWordAt after
  | .wordStartHalf, before, _ => !isWordAt before
  | .wordEndHalf, _, after => !isWordAt after

/-- Whether an assertion holds at each spot of a text, `before` being the character in front. -/
def Assertion.bits (assertion : Assertion) (before : Option Char) : List Char → List Bool
  | [] => [assertion.holds before none]
  | c :: rest => assertion.holds before (some c) :: assertion.bits (some c) rest

def Spots.before (test : Char → Bool) (text : List Char) : Spots :=
  Spots.ofBits (text.map test)

/-! ## Running a pattern -/

/-- A pattern prepared for a text. -/
inductive Plan where
  /-- Stays at the given spots. -/
  | stay (spots : Spots)
  /-- Passes the character after each of the given spots. -/
  | pass (spots : Spots)
  | seq (plans : List Plan)
  | alt (plans : List Plan)
  | repeated (body : Plan) (least : Nat) (further : Nat)

mutual

def Pattern.plan (text : List Char) : Pattern → Plan
  | .empty => .seq []
  | .literal chars => .seq (chars.map fun c => .pass (Spots.before (· == c) text))
  | .oneOf set => .pass (Spots.before set.contains text)
  | .assertion condition => .stay (Spots.ofBits (condition.bits none text))
  | .group _ body => body.plan text
  | .seq parts => .seq (Pattern.plans text parts)
  | .alt alternatives => .alt (Pattern.plans text alternatives)
  | .repeated body least most _ =>
    .repeated (body.plan text) least (most.getD (least + text.length + 1) - least)

def Pattern.plans (text : List Char) : List Pattern → List Plan
  | [] => []
  | p :: rest => p.plan text :: Pattern.plans text rest

end

/-- Applies a step a number of times, or until it changes nothing. -/
def Spots.iterate (step : Spots → Spots) : Nat → Spots → Spots
  | 0, spots => spots
  | count + 1, spots =>
    let next := step spots
    if next = spots then spots else Spots.iterate step count next

mutual

/-- The spots at which a match may end that starts at one of the given spots. -/
def Plan.ends : Plan → Spots → Spots
  | .stay spots, starts => starts &&& spots
  | .pass spots, starts => 2 * (starts &&& spots)
  | .seq plans, starts => Plan.endsOfAll plans starts
  | .alt plans, starts => Plan.endsOfAny plans starts
  | .repeated body least further, starts =>
    let required := Spots.iterate body.ends least starts
    Spots.iterate (fun spots => spots ||| body.ends spots) further required

/-- The spots at which matches of all plans in a row may end. -/
def Plan.endsOfAll : List Plan → Spots → Spots
  | [], starts => starts
  | plan :: rest, starts => Plan.endsOfAll rest (plan.ends starts)

/-- The spots at which a match of one of the plans may end. -/
def Plan.endsOfAny : List Plan → Spots → Spots
  | [], _ => 0
  | plan :: rest, starts => plan.ends starts ||| Plan.endsOfAny rest starts

end

/-- The spots at which a match may end that starts at one of the given spots of a text. -/
def Pattern.ends (pattern : Pattern) (text : List Char) (starts : Spots) : Spots :=
  (pattern.plan text).ends starts

/-- Holds when some part of the text matches. -/
def Pattern.accepts (pattern : Pattern) (text : String) : Bool :=
  let everywhere := Spots.ofBits (true :: text.toList.map fun _ => true)
  pattern.ends text.toList everywhere != 0

end Backflow
