import Backflow.Pattern.Class
import Backflow.Text.Decimal
import Backflow.Text.Number

/-! # Tokens of patterns

A pattern is cut into tokens before its groups are put together.  A bracketed class is one
token, and so is the opening of a group with the flags it sets.
-/

namespace Backflow.Pattern

/-! ## Flags -/

structure Flags where
  ignoreCase : Bool := false
  /-- `^` and `$` also stand for the ends of lines. -/
  multiLine : Bool := false
  /-- A dot also stands for a line feed. -/
  dotAll : Bool := false
  /-- Repetitions prefer short matches, unless they are marked. -/
  short : Bool := false
deriving DecidableEq, Repr

/-- Sets or clears the flag that a letter stands for.  The letter `u` stands for Unicode classes,
which cannot be turned off. -/
def Flags.change? (flags : Flags) (letter : Char) (value : Bool) : Option Flags :=
  match letter with
  | 'i' => some { flags with ignoreCase := value }
  | 'm' => some { flags with multiLine := value }
  | 's' => some { flags with dotAll := value }
  | 'U' => some { flags with short := value }
  | 'u' => if value then some flags else none
  | _ => none

/-- Applies a list of letters: those before a hyphen are set, those after it are cleared. -/
def Flags.changeAll? (flags : Flags) (letters : List Char) : Option Flags := do
  let on := letters.takeWhile (· != '-')
  let off := (letters.dropWhile (· != '-')).drop 1
  let flags ← on.foldlM (·.change? · true) flags
  off.foldlM (·.change? · false) flags

/-- Holds of the lists of letters that set flags: no letter twice, at most one hyphen, and not
at the end. -/
def isFlagList (letters : List Char) : Bool :=
  decide letters.Nodup && letters.getLast? != some '-' && (({} : Flags).changeAll? letters).isSome

/-! ## Tokens -/

inductive Token where
  | literal (c : Char)
  /-- A class, and how deep it is nested. -/
  | chars (set : CharSet) (nesting : Nat)
  | dot
  | caret
  | dollar
  | condition (condition : Assertion)
  | bar
  /-- The opening of a group: whether it is numbered, its name if it has one, and the flags it
  sets. -/
  | openGroup (captures : Bool) (name : Option String) (letters : List Char)
  | closeGroup
  /-- Flags for the rest of the enclosing group. -/
  | setFlags (letters : List Char)
  /-- A repetition, marked or not for the less usual preference. -/
  | times (least : Nat) (most : Option Nat) (marked : Bool)

/-! ## Groups -/

def isGroupName : List Char → Bool
  | [] => false
  | c :: rest =>
    (c == '_' || Text.isAlphabetic c) &&
      rest.all fun d => d == '_' || d == '.' || d == '[' || d == ']' || Text.isAlphanumeric d

/-- Reads the name of a group and the bracket after it. -/
def readGroupName? (text : List Char) : Option (Token × List Char) :=
  let name := text.takeWhile (· != '>')
  match text.dropWhile (· != '>') with
  | _ :: rest =>
    if isGroupName name then some (.openGroup true (some (String.ofList name)) [], rest) else none
  | [] => none

def readFlags? (text : List Char) : Option (Token × List Char) :=
  let letters := text.takeWhile fun c => c != ':' && c != ')'
  if !isFlagList letters then none
  else
    match text.dropWhile fun c => c != ':' && c != ')' with
    | ':' :: rest => some (.openGroup false none letters, rest)
    | ')' :: rest => if letters.isEmpty then none else some (.setFlags letters, rest)
    | _ => none

/-- Reads what follows an opening parenthesis.  Conditions on what stands around a match are
refused. -/
def readGroup? : List Char → Option (Token × List Char)
  | '?' :: '<' :: '=' :: _ => none
  | '?' :: '<' :: '!' :: _ => none
  | '?' :: 'P' :: '<' :: rest => readGroupName? rest
  | '?' :: '<' :: rest => readGroupName? rest
  | '?' :: rest => readFlags? rest
  | rest => some (.openGroup true none [], rest)

/-! ## Repetitions -/

/-- The token of a repetition, and the rest after the question mark that may mark it. -/
def markedTimes (least : Nat) (most : Option Nat) : List Char → Token × List Char
  | '?' :: rest => (.times least most true, rest)
  | rest => (.times least most false, rest)

/-- Reads a count, with blanks around it. -/
def readCount? (text : List Char) : Option (Nat × List Char) :=
  let start := Text.trimStart text
  (Text.readDecimal? 4294967295 (start.takeWhile Char.isDigit)).map
    (·, Text.trimStart (start.dropWhile Char.isDigit))

/-- Reads a repetition after its opening brace: `m}`, `m,}` or `m,n}`. -/
def readTimes? (text : List Char) : Option (Token × List Char) := do
  let (least, rest) ← readCount? text
  match rest with
  | '}' :: rest => some (markedTimes least (some least) rest)
  | ',' :: '}' :: rest => some (markedTimes least none rest)
  | ',' :: rest =>
    let (most, rest) ← readCount? rest
    match rest with
    | '}' :: rest => if least ≤ most then some (markedTimes least (some most) rest) else none
    | _ => none
  | _ => none

/-! ## Reading tokens -/

def readToken? : List Char → Option (Token × List Char)
  | [] => none
  | '(' :: rest => readGroup? rest
  | ')' :: rest => some (.closeGroup, rest)
  | '|' :: rest => some (.bar, rest)
  | '[' :: rest => (readClass? rest).map fun (part, rest) => (.chars part.set part.nesting, rest)
  | '?' :: rest => some (markedTimes 0 (some 1) rest)
  | '*' :: rest => some (markedTimes 0 none rest)
  | '+' :: rest => some (markedTimes 1 none rest)
  | '{' :: rest => readTimes? rest
  | '.' :: rest => some (.dot, rest)
  | '^' :: rest => some (.caret, rest)
  | '$' :: rest => some (.dollar, rest)
  | '\\' :: rest =>
    (readEscape? rest).map fun (escape, rest) =>
      match escape with
      | .char c => (.literal c, rest)
      | .chars set => (.chars set 0, rest)
      | .condition condition => (.condition condition, rest)
  | c :: rest => some (.literal c, rest)

/-- Cuts a text into at most `steps` tokens. -/
def tokensWithin? (text : List Char) : (steps : Nat) → Option (List Token)
  | 0 => if text.isEmpty then some [] else none
  | steps + 1 =>
    if text.isEmpty then some []
    else do
      let (token, rest) ← readToken? text
      let tokens ← tokensWithin? rest steps
      return token :: tokens

/-- Cuts a pattern into tokens.  Every token takes a character, so there are no more tokens than
characters. -/
def tokens? (text : List Char) : Option (List Token) :=
  tokensWithin? text text.length

end Backflow.Pattern
