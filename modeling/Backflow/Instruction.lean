import Backflow.Operand
import Backflow.Text.Decimal

/-! # Instructions

An instruction is one line of a method body with its address: a mnemonic and its operands.
Labels (`:cond_0`) and in-body directives (`.catch`) are instructions too, so that they have an
address and are met when a method is scanned.
-/

namespace Backflow

/-- The place of an instruction in its store. -/
abbrev Address := Nat

/-- The text of an address: at least four digits. -/
def Address.render (address : Address) : String :=
  Text.padded 4 address

structure Instruction where
  addr : Address
  /-- The number of the enclosing method in its store. -/
  method : Nat
  mnemonic : String
  operands : List Operand
deriving DecidableEq, Repr

namespace Instruction

/-! ## Text -/

def renderOperands : List Operand → String
  | [] => ""
  | operands => " " ++ ", ".intercalate (operands.map Operand.render)

/-- The text of an instruction, without its address. -/
def render (i : Instruction) : String :=
  i.mnemonic ++ renderOperands i.operands

/-- The text of an instruction after its address. -/
def renderAt (i : Instruction) : String :=
  Address.render i.addr ++ ": " ++ i.render

/-! ## Kinds -/

/-- Holds when the mnemonic starts with the given text. -/
def isOf (i : Instruction) (family : String) : Bool :=
  i.mnemonic.startsWith family

def isAnyOf (i : Instruction) (families : List String) : Bool :=
  families.any i.isOf

def label? (i : Instruction) : Option String :=
  match i.mnemonic.toList with
  | ':' :: name => some (String.ofList name)
  | _ => none

def isLabel (i : Instruction) : Bool :=
  i.label?.isSome

/-! ## References -/

def references (i : Instruction) (name : String) : Bool :=
  i.operands.contains (.label name)

/-- The field that a field access names: its last field operand. -/
def field? (i : Instruction) : Option String :=
  i.operands.reverse.findSome? fun
    | .field name => some name
    | _ => none

/-- The method that an invocation names: its last method operand. -/
def callee? (i : Instruction) : Option String :=
  i.operands.reverse.findSome? fun
    | .method name => some name
    | _ => none

/-- The member that an instruction is filed under: its last field or method operand. -/
def member? (i : Instruction) : Option String :=
  i.operands.reverse.findSome? fun
    | .field name => some name
    | .method name => some name
    | _ => none

end Instruction

end Backflow
