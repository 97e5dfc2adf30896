import Backflow.Explain

/-! # Values of arguments

What can be said of an argument of an invocation: the constant passed for it, the constants
that may flow into it, and the types assumed for the values that may.

Errors are causes; `ValueError.message` words them.
-/

namespace Backflow

/-! ## Errors -/

/-- Why there is no value to speak of. -/
inductive NoSuchValue where
  /-- The first operand of the instruction denotes no registers. -/
  | notInvocation (i : Instruction)
  /-- The invocation has no argument at the index. -/
  | noArgument (i : Instruction) (index : Nat)
  /-- The invocation could not be explained. -/
  | noGraph (i : Instruction)
deriving DecidableEq, Repr

/-- Why an argument has no constant value. -/
inductive Unsolvable where
  /-- The argument comes from an instruction that is no constant. -/
  | comesFrom (index : Nat) (i : Instruction)
  /-- The argument is computed from other values. -/
  | computedBy (index : Nat) (i : Instruction)
  /-- No definition of the argument was found. -/
  | unresolved (index : Nat)
deriving DecidableEq, Repr

/-- Why a query on an argument has no answer. -/
inductive ValueError where
  | noSuchValue (cause : NoSuchValue)
  /-- The argument is no constant in the graph of its invocation. -/
  | unsolvable (cause : Unsolvable) (graph : Option Node)

def NoSuchValue.reason : NoSuchValue → String
  | .notInvocation i => i.render ++ ": not an invocation"
  | .noArgument i index => i.render ++ ": no argument " ++ toString index
  | .noGraph i => i.render ++ ": no data-flow graph"

def Unsolvable.reason : Unsolvable → String
  | .comesFrom index i => "argument " ++ toString index ++ " comes from " ++ i.render
  | .computedBy index i => "argument " ++ toString index ++ " is computed by " ++ i.render
  | .unresolved index => "argument " ++ toString index ++ " is unresolved"

def ValueError.message : ValueError → String
  | .noSuchValue cause => "no such value: " ++ cause.reason
  | .unsolvable cause _ => "unsolvable value: " ++ cause.reason

/-! ## Arguments -/

namespace Instruction

/-- How many registers stand before the arguments of an invocation: the receiver, unless it is
static. -/
def argumentOffset (i : Instruction) : Nat :=
  if i.isOf "invoke-static" then 0 else 1

/-- The register that holds an argument of an invocation. -/
def argumentRegister (i : Instruction) (index : Nat) : Except NoSuchValue Register :=
  match i.operands.head? with
  | none => .error (.noArgument i index)
  | some first =>
    match first.registers? with
    | none => .error (.notInvocation i)
    | some registers =>
      match registers[index + i.argumentOffset]? with
      | some r => .ok r
      | none => .error (.noArgument i index)

/-! ## What a leaf stands for -/

def constant? (i : Instruction) : Option String :=
  if i.isOf "const" then i.operands[1]?.map Operand.value else none

/-- The type assumed for the value that a leaf produces. -/
def assumedType (i : Instruction) : String :=
  if i.mnemonic = "const/4" then
    "Ljava/lang/Integer;"
  else if i.mnemonic = "const-string" ∨ i.mnemonic = "const-string/jumbo" then
    "Ljava/lang/String;"
  else if i.mnemonic = "new-array" then
    (i.operands[2]?.map Operand.value).getD "Ljava/lang/Object;"
  else
    "Ljava/lang/Object;"

end Instruction

/-! ## Sets of texts -/

/-- Puts a text in its place in an ordered list, unless it stands there already. -/
def insertText (text : String) : List String → List String
  | [] => [text]
  | other :: rest =>
    if text < other then text :: other :: rest
    else if text = other then other :: rest
    else other :: insertText text rest

/-- The set of the given texts: in order of their code points and without repetition. -/
def textSet (texts : List String) : List String :=
  texts.foldr insertText []

/-! ## Queries -/

/-- What is known of an argument: the graph of its invocation and the part that explains it. -/
structure ArgumentGraph where
  graph : Option Node
  input : Option Node

def Node.possibleConstants (node : Node) : List String :=
  textSet (node.leaves.filterMap Instruction.constant?)

def Node.assumedTypes (node : Node) : List String :=
  textSet (node.leaves.map Instruction.assumedType)

namespace Store

/-- Explains an argument of an invocation in a fresh query, which is given back as well. -/
def argumentGraphIn (store : Store) (limits : Limits) (i : Instruction) (index : Nat) :
    Except NoSuchValue (ArgumentGraph × Query) :=
  (i.argumentRegister index).map fun r =>
    let (graph, query) := store.explainIn limits i Query.empty
    (⟨graph, graph.bind (·.input? r)⟩, query)

def argumentGraph (store : Store) (limits : Limits) (i : Instruction) (index : Nat) :
    Except NoSuchValue ArgumentGraph :=
  (store.argumentGraphIn limits i index).map (·.1)

end Store

namespace ArgumentGraph

/-- The constant passed for the argument with the given index of `i`. -/
def constant (argument : ArgumentGraph) (i : Instruction) (index : Nat) :
    Except ValueError String :=
  if argument.graph.isNone then
    .error (.noSuchValue (.noGraph i))
  else
    match argument.input with
    | some (.leaf leaf) =>
      match leaf.constant? with
      | some value => .ok value
      | none => .error (.unsolvable (.comesFrom index leaf) argument.graph)
    | some (.internal instr _) => .error (.unsolvable (.computedBy index instr) argument.graph)
    | none => .error (.unsolvable (.unresolved index) argument.graph)

/-- The constants that may flow into the argument; none if it is not explained. -/
def possible (argument : ArgumentGraph) : List String :=
  (argument.input.map Node.possibleConstants).getD []

/-- The types assumed for the values that may flow into the argument; none if it is not
explained. -/
def types (argument : ArgumentGraph) : List String :=
  (argument.input.map Node.assumedTypes).getD []

end ArgumentGraph

namespace Store

/-- The constant passed for an argument of an invocation. -/
def constantArgument (store : Store) (limits : Limits) (i : Instruction) (index : Nat) :
    Except ValueError String :=
  match store.argumentGraph limits i index with
  | .error cause => .error (.noSuchValue cause)
  | .ok argument => argument.constant i index

def possibleArgument (store : Store) (limits : Limits) (i : Instruction) (index : Nat) :
    Except NoSuchValue (List String) :=
  (store.argumentGraph limits i index).map (·.possible)

def argumentTypes (store : Store) (limits : Limits) (i : Instruction) (index : Nat) :
    Except NoSuchValue (List String) :=
  (store.argumentGraph limits i index).map (·.types)

end Store

end Backflow
