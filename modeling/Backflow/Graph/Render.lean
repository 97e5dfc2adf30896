import Backflow.Graph
import Backflow.Text.Line

/-! # Graphs as text

A graph is written as a tree.  Each line has an instruction after its address; the line of an
input starts with its register, two columns further in than its node, and an input that is not
explained has a question mark.
-/

namespace Backflow

def indentation (depth : Nat) : String :=
  String.ofList (List.replicate (2 * depth) ' ')

mutual

/-- The lines of a node at the given depth, `lead` being what stands in front of its
instruction. -/
def Node.linesAt (node : Node) (lead : String) (depth : Nat) : List String :=
  match node with
  | .leaf i => [lead ++ i.renderAt]
  | .internal i inputs => (lead ++ i.renderAt) :: inputs.linesAt (depth + 1)

def Inputs.linesAt (inputs : Inputs) (depth : Nat) : List String :=
  match inputs with
  | .nil => []
  | .unresolved r rest => (indentation depth ++ r.render ++ " <- ?") :: rest.linesAt depth
  | .resolved r node rest =>
    node.linesAt (indentation depth ++ r.render ++ " <- ") depth ++ rest.linesAt depth

end

namespace Node

def lines (node : Node) : List String :=
  node.linesAt "" 0

def render (node : Node) : String :=
  Text.unlines node.lines

end Node

end Backflow
