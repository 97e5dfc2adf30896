import Backflow.Operand

/-! # Listings

A listing is the disassembly of one or more classes: methods, each with the entries of its body
in order.  Entries have no addresses yet; a store gives them theirs.
-/

namespace Backflow

/-- One line of a method body: a label, a kept directive or an instruction. -/
structure Entry where
  mnemonic : String
  operands : List Operand
deriving DecidableEq, Repr

/-- A method and its body.  The name is qualified by the class: `Lcls;->name(desc)ret`. -/
structure Method where
  name : String
  body : List Entry
deriving DecidableEq, Repr

structure Listing where
  methods : List Method
  /-- The name of a last method that the text leaves open. -/
  unterminated : Option String
deriving DecidableEq, Repr

/-- Why a text is not a listing; lines count from one. -/
inductive ListingError where
  /-- The line cannot be read. -/
  | malformed (line : Nat) (text : String)
  /-- The line belongs to a method body and stands outside of any. -/
  | outsideMethod (line : Nat)
deriving DecidableEq, Repr

def ListingError.message : ListingError → String
  | .malformed line text => "parsing error at line " ++ toString line ++ ": " ++ text
  | .outsideMethod line =>
    "instruction outside of any method at line " ++ toString line

end Backflow
