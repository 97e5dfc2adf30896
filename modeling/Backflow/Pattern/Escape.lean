import Backflow.Pattern
import Backflow.Pattern.CharSet

/-! # Escapes in patterns

What a backslash means together with the characters after it: a character, a class of
characters or a condition on a spot.  Letters and digits without a meaning are refused, so
there are no references to groups.
-/

namespace Backflow.Pattern

inductive Escape where
  | char (c : Char)
  | chars (set : CharSet)
  | condition (condition : Assertion)

/-! ## Characters by number -/

def hexValue? (c : Char) : Option Nat :=
  if '0' ≤ c ∧ c ≤ '9' then some (c.toNat - '0'.toNat)
  else if 'a' ≤ c ∧ c ≤ 'f' then some (c.toNat - 'a'.toNat + 10)
  else if 'A' ≤ c ∧ c ≤ 'F' then some (c.toNat - 'A'.toNat + 10)
  else none

def charOfHex? (digits : List Char) : Option Char := do
  let value ← digits.foldlM (fun n c => (hexValue? c).map (16 * n + ·)) 0
  if digits ≠ [] ∧ value.isValidChar then some (Char.ofNat value) else none

/-- Reads the number of a character: `width` digits, or any number of digits in braces. -/
def readCharNumber? (width : Nat) : List Char → Option (Char × List Char)
  | '{' :: rest =>
    match rest.dropWhile (· != '}') with
    | _ :: after => (charOfHex? (rest.takeWhile (· != '}'))).map (·, after)
    | [] => none
  | text =>
    if text.length < width then none
    else (charOfHex? (text.take width)).map (·, text.drop width)

/-! ## Word boundaries -/

/-- Holds of the characters that name a special word boundary. -/
def isBoundaryNameChar (c : Char) : Bool :=
  c.isAlpha || c == '-'

def boundaryOfName? : String → Option Assertion
  | "start" => some .wordStart
  | "end" => some .wordEnd
  | "start-half" => some .wordStartHalf
  | "end-half" => some .wordEndHalf
  | _ => none

/-- Reads what may follow the escape of a word boundary: a name in braces.  Braces that do not
start a name are left to be read as a repetition. -/
def readBoundary? : List Char → Option (Assertion × List Char)
  | '{' :: rest =>
    match rest.takeWhile isBoundaryNameChar, rest.dropWhile isBoundaryNameChar with
    | [], [] => none
    | [], _ => some (.wordBoundary, '{' :: rest)
    | name, '}' :: after => (boundaryOfName? (String.ofList name)).map (·, after)
    | _, _ => none
  | text => some (.wordBoundary, text)

/-! ## Escapes -/

def classOfLetter? : Char → Option CharSet
  | 'd' => some .digit
  | 'D' => some (.complement .digit)
  | 's' => some .blank
  | 'S' => some (.complement .blank)
  | 'w' => some .word
  | 'W' => some (.complement .word)
  | _ => none

def controlOfLetter? : Char → Option Char
  | 'a' => some '\x07'
  | 'f' => some '\x0c'
  | 't' => some '\t'
  | 'n' => some '\n'
  | 'r' => some '\r'
  | 'v' => some '\x0b'
  | _ => none

def conditionOfLetter? : Char → Option Assertion
  | 'A' => some .textStart
  | 'z' => some .textEnd
  | 'B' => some .notWordBoundary
  | '<' => some .wordStart
  | '>' => some .wordEnd
  | _ => none

def readEscape? : List Char → Option (Escape × List Char)
  | [] => none
  | 'x' :: rest => (readCharNumber? 2 rest).map fun (c, rest) => (.char c, rest)
  | 'u' :: rest => (readCharNumber? 4 rest).map fun (c, rest) => (.char c, rest)
  | 'U' :: rest => (readCharNumber? 8 rest).map fun (c, rest) => (.char c, rest)
  | 'b' :: rest => (readBoundary? rest).map fun (condition, rest) => (.condition condition, rest)
  | c :: rest =>
    match classOfLetter? c, controlOfLetter? c, conditionOfLetter? c with
    | some set, _, _ => some (.chars set, rest)
    | none, some control, _ => some (.char control, rest)
    | none, none, some condition => some (.condition condition, rest)
    | none, none, none => if c.toNat < 128 && !c.isAlphanum then some (.char c, rest) else none

end Backflow.Pattern
