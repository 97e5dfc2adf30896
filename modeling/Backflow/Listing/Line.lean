import Backflow.Listing
import Backflow.Operand.Handler
import Backflow.Operand.Reader

/-! # Lines of a listing

What one line of a listing says, before it is placed in a method.

* `uncommented` cuts off a comment, which starts at a `#` outside of string literals.
* `Line.ofText` reads a line that is neither blank nor inside a skipped block.
* `Block` lists the blocks whose content is skipped.
-/

namespace Backflow.Listing

open Backflow.Text

/-! ## Comments -/

/-- Where a character stands with respect to string literals. -/
inductive Quoting where
  | outside
  | inside
  /-- Inside a literal, right after a backslash. -/
  | escape
deriving DecidableEq

def Quoting.next : Quoting → Char → Quoting
  | .outside, c => if c = '"' then .inside else .outside
  | .inside, c => if c = '"' then .outside else if c = '\\' then .escape else .inside
  | .escape, _ => .inside

/-- The text up to its comment, when it starts at the given place. -/
def uncommentedFrom (place : Quoting) : List Char → List Char
  | [] => []
  | c :: rest =>
    if place = .outside ∧ c = '#' then [] else c :: uncommentedFrom (place.next c) rest

def uncommented (line : List Char) : List Char :=
  uncommentedFrom .outside line

/-! ## Skipped blocks -/

/-- The blocks whose content is skipped. -/
inductive Block where
  | annotationBlock
  | subannotationBlock
  | packedSwitch
  | sparseSwitch
  | arrayData
deriving DecidableEq, Repr

def Block.name : Block → String
  | .annotationBlock => "annotation"
  | .subannotationBlock => "subannotation"
  | .packedSwitch => "packed-switch"
  | .sparseSwitch => "sparse-switch"
  | .arrayData => "array-data"

def Block.all : List Block :=
  [.annotationBlock, .subannotationBlock, .packedSwitch, .sparseSwitch, .arrayData]

def Block.ofDirective? (directive : String) : Option Block :=
  Block.all.find? fun block => directive == "." ++ block.name

/-- Holds when a line ends the block: it starts with the closing directive. -/
def Block.endsAt (block : Block) (text : List Char) : Bool :=
  (".end " ++ block.name).toList.isPrefixOf text

/-! ## Lines -/

/-- What a line says. -/
inductive Line where
  | classDecl (name : String)
  | methodDecl (signature : String)
  | methodEnd
  | blockStart (block : Block)
  | entry (entry : Entry)
  | ignored
  | malformed
deriving DecidableEq, Repr

def lastWord? (text : List Char) : Option String :=
  (words text).getLast?.map String.ofList

def Line.ofOperands (mnemonic : String) : Option (List Operand) → Line
  | some operands => .entry ⟨mnemonic, operands⟩
  | none => .malformed

/-- Reads a line that starts with a directive, given the text after it. -/
def Line.ofDirective (directive : String) (rest : List Char) : Line :=
  if directive = ".class" then
    .classDecl ((lastWord? rest).getD "")
  else if directive = ".method" then
    match lastWord? rest with
    | some signature => .methodDecl signature
    | none => .malformed
  else if directive = ".end" then
    if "method".toList.isPrefixOf rest then .methodEnd else .ignored
  else if directive = ".catch" ∨ directive = ".catchall" then
    Line.ofOperands directive (Operand.readHandler? rest)
  else
    match Block.ofDirective? directive with
    | some block => .blockStart block
    | none => .ignored

/-- Reads a trimmed line: its first word decides, and a line that starts with neither a dot nor
a colon is an instruction. -/
def Line.ofText (text : List Char) : Line :=
  let word := (cutAtBlank text).1
  let rest := trim (cutAtBlank text).2
  match word with
  | '.' :: _ => Line.ofDirective (String.ofList word) rest
  | ':' :: _ => .entry ⟨String.ofList word, []⟩
  | _ => Line.ofOperands (String.ofList word) (Operand.readList? rest)

end Backflow.Listing
