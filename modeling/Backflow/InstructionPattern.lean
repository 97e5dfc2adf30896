import Backflow.Pattern.Reader
import Backflow.Store

/-! # Patterns of instructions

An instruction is described by a pattern for its mnemonic and patterns for its first operands.
An operand is matched as it is written, and an instruction with fewer operands than patterns
does not match.
-/

namespace Backflow

structure InstructionPattern where
  mnemonic : Pattern
  operands : List Pattern

namespace InstructionPattern

/-- Reads a description; none if one of its patterns cannot be read. -/
def parse? (mnemonic : String) (operands : List String) : Option InstructionPattern := do
  let mnemonic ← Pattern.parse? mnemonic
  let operands ← operands.mapM Pattern.parse?
  return ⟨mnemonic, operands⟩

/-- Holds when each pattern accepts the operand at its position. -/
def acceptsOperands : List Pattern → List Operand → Bool
  | [], _ => true
  | _ :: _, [] => false
  | p :: patterns, operand :: operands =>
    p.accepts operand.render && acceptsOperands patterns operands

def accepts (description : InstructionPattern) (i : Instruction) : Bool :=
  description.mnemonic.accepts i.mnemonic && acceptsOperands description.operands i.operands

end InstructionPattern

def Store.find (store : Store) (description : InstructionPattern) : List Instruction :=
  store.filter description.accepts

end Backflow
