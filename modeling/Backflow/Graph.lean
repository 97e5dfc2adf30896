import Backflow.Instruction

/-! # Resolution graphs

A graph explains an instruction: a leaf produces its value by itself, an internal node has, for
each register it reads, the graph of the definition that reaches it, or nothing where none was
found.

* `Node` and its `Inputs` are given by mutual recursion; the inputs stand in register order.
* Graphs share sub-graphs in memory, so equality looks at identity first.
-/

namespace Backflow

mutual

/-- A node of a resolution graph. -/
inductive Node where
  /-- An instruction that produces a value by itself. -/
  | leaf (instr : Instruction)
  /-- An instruction whose input registers are explained by sub-graphs. -/
  | internal (instr : Instruction) (inputs : Inputs)

/-- The inputs of an internal node, in register order. -/
inductive Inputs where
  | nil
  /-- An input that nothing is known about. -/
  | unresolved (register : Register) (rest : Inputs)
  /-- An input explained by a sub-graph. -/
  | resolved (register : Register) (node : Node) (rest : Inputs)

end

deriving instance Repr for Node, Inputs

/-! ## Equality -/

def Inputs.count : Inputs → Nat
  | .nil => 0
  | .unresolved _ rest => rest.count + 1
  | .resolved _ _ rest => rest.count + 1

mutual

/-- Decides equality of nodes; two references to one node need no comparison, and nodes with
different numbers of inputs differ. -/
def Node.decEq (a b : Node) : Decidable (a = b) :=
  withPtrEqDecEq a b fun _ =>
    match a, b with
    | .leaf i, .leaf j => decidable_of_iff (i = j) (by simp)
    | .internal i xs, .internal j ys =>
      if hi : i = j then
        if hc : xs.count = ys.count then
          match Inputs.decEq xs ys with
          | isTrue hx => isTrue (by rw [hi, hx])
          | isFalse hx => isFalse (by simp [hx])
        else
          isFalse fun h => hc (congrArg Inputs.count (Node.internal.inj h).2)
      else
        isFalse (by simp [hi])
    | .leaf _, .internal _ _ => isFalse (by simp)
    | .internal _ _, .leaf _ => isFalse (by simp)

def Inputs.decEq (a b : Inputs) : Decidable (a = b) :=
  match a, b with
  | .nil, .nil => isTrue rfl
  | .unresolved r xs, .unresolved s ys =>
    if hr : r = s then
      match Inputs.decEq xs ys with
      | isTrue hx => isTrue (by rw [hr, hx])
      | isFalse hx => isFalse (by simp [hx])
    else
      isFalse (by simp [hr])
  | .resolved r m xs, .resolved s n ys =>
    if hr : r = s then
      match Node.decEq m n with
      | isTrue hm =>
        match Inputs.decEq xs ys with
        | isTrue hx => isTrue (by rw [hr, hm, hx])
        | isFalse hx => isFalse (by simp [hx])
      | isFalse hm => isFalse (by simp [hm])
    else
      isFalse (by simp [hr])
  | .nil, .unresolved .. | .nil, .resolved .. => isFalse (by simp)
  | .unresolved .., .nil | .unresolved .., .resolved .. => isFalse (by simp)
  | .resolved .., .nil | .resolved .., .unresolved .. => isFalse (by simp)

end

instance : DecidableEq Node := Node.decEq

instance : DecidableEq Inputs := Inputs.decEq

/-! ## Inputs -/

namespace Inputs

def cons (register : Register) (input : Option Node) (rest : Inputs) : Inputs :=
  match input with
  | some node => .resolved register node rest
  | none => .unresolved register rest

def toList : Inputs → List (Register × Option Node)
  | .nil => []
  | .unresolved r rest => (r, none) :: rest.toList
  | .resolved r node rest => (r, some node) :: rest.toList

def ofList : List (Register × Option Node) → Inputs
  | [] => .nil
  | (r, input) :: rest => cons r input (ofList rest)

/-- Puts an input in its place in an ordered list, instead of an input of the same register. -/
def insertSorted (register : Register) (input : Option Node) :
    List (Register × Option Node) → List (Register × Option Node)
  | [] => [(register, input)]
  | (r, other) :: rest =>
    if register.rank < r.rank then (register, input) :: (r, other) :: rest
    else if register = r then (register, input) :: rest
    else (r, other) :: insertSorted register input rest

/-- The given inputs in register order; of two inputs of one register the later one counts. -/
def sorted (inputs : List (Register × Option Node)) : Inputs :=
  ofList (inputs.foldl (fun placed (r, input) => insertSorted r input placed) [])

/-- The input of a register, if it is explained. -/
def get? (register : Register) : Inputs → Option Node
  | .nil => none
  | .unresolved r rest => if r = register then none else rest.get? register
  | .resolved r node rest => if r = register then some node else rest.get? register

def registers : Inputs → List Register
  | .nil => []
  | .unresolved r rest => r :: rest.registers
  | .resolved r _ rest => r :: rest.registers

@[simp] theorem toList_cons (r : Register) (input : Option Node) (rest : Inputs) :
    (cons r input rest).toList = (r, input) :: rest.toList := by
  cases input <;> rfl

@[simp] theorem toList_ofList (inputs : List (Register × Option Node)) :
    (ofList inputs).toList = inputs := by
  induction inputs with
  | nil => rfl
  | cons head rest ih => simp [ofList, ih]

end Inputs

/-! ## Nodes -/

namespace Node

def instr : Node → Instruction
  | .leaf i => i
  | .internal i _ => i

def addr (node : Node) : Address :=
  node.instr.addr

def isLeaf : Node → Bool
  | .leaf _ => true
  | .internal .. => false

def inputs? : Node → Option Inputs
  | .leaf _ => none
  | .internal _ inputs => some inputs

/-- The sub-graph that explains a register, if there is one. -/
def input? (node : Node) (register : Register) : Option Node :=
  node.inputs?.bind (·.get? register)

end Node

end Backflow
