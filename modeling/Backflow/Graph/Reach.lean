import Backflow.Graph
import Std.Data.TreeMap

/-! # What a graph reaches

A depth-first walk that enters every address once.  Several different nodes can have one
address; the walk takes the one it meets first, and of the inputs of a node it goes through the
last one first.

* `Node.reached` maps each address met to its node.
* `Node.leaves` are the leaves among these, in address order.
* `Node.size` counts the addresses, and `Node.measure` does so with a record of earlier counts.
-/

namespace Backflow

/-- The node met first at each address. -/
abbrev Reached := Std.TreeMap Address Node

mutual

/-- Goes on with the walk at a node, unless its address has been met. -/
def Node.reach (node : Node) (seen : Reached) : Reached :=
  if seen.contains node.addr then
    seen
  else
    match node with
    | .leaf i => seen.insert i.addr (.leaf i)
    | .internal i inputs => inputs.reach (seen.insert i.addr (.internal i inputs))

/-- Goes on with the walk at the inputs of a node, the last one first. -/
def Inputs.reach (inputs : Inputs) (seen : Reached) : Reached :=
  match inputs with
  | .nil => seen
  | .unresolved _ rest => rest.reach seen
  | .resolved _ node rest => node.reach (rest.reach seen)

end

namespace Node

/-- The nodes that a walk from `node` meets, one for each address. -/
def reached (node : Node) : Reached :=
  node.reach ∅

/-- The leaf instructions that a walk from `node` meets, in address order. -/
def leaves (node : Node) : List Instruction :=
  node.reached.values.filterMap fun
    | .leaf i => some i
    | .internal .. => none

/-- The number of addresses that a walk from `node` meets. -/
def size (node : Node) : Nat :=
  node.reached.size

end Node

/-! ## Recorded sizes -/

/-- Sizes of graphs, by the address of their root. -/
abbrev Sizes := Std.TreeMap Address Nat

/-- The recorded size of a graph with this root address if there is one, the counted size
otherwise, which is then recorded. -/
def Node.measure (node : Node) (sizes : Sizes) : Nat × Sizes :=
  match sizes[node.addr]? with
  | some size => (size, sizes)
  | none => (node.size, sizes.insert node.addr node.size)

/-- What measuring returns is recorded at the address of the root, and nowhere else. -/
theorem Node.measure_spec (node : Node) (sizes : Sizes) :
    (node.measure sizes).1 = sizes[node.addr]?.getD node.size ∧
      ∀ a : Address, (node.measure sizes).2[a]? =
        if a = node.addr then some (sizes[node.addr]?.getD node.size) else sizes[a]? := by
  unfold Node.measure
  split
  · rename_i size recorded
    refine ⟨by simp [recorded], fun a => ?_⟩
    split
    · rename_i here
      simp [here, recorded]
    · rfl
  · rename_i unrecorded
    refine ⟨by simp [unrecorded], fun a => ?_⟩
    by_cases here : a = node.addr
    · simp [here, unrecorded]
    · simp [here, Ne.symm here, Std.TreeMap.getElem?_insert]

end Backflow
