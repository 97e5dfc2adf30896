import Backflow.Graph
import Std.Data.TreeMap

/-! # Graphs as tables

A graph written as a tree repeats what it shares.  A table lists every distinct node once, the
inputs of a node before the node itself, and refers to inputs by their position.  Two nodes are
one row when they agree in address, in being a leaf or not, and in the rows of their inputs.
-/

namespace Backflow

/-- A row of a table: an address and, for an internal node, the rows of its inputs. -/
structure Row where
  addr : Address
  inputs : Option (List (Register × Option Nat))
deriving DecidableEq

/-- The distinct nodes of a graph. -/
structure Table where
  rows : Array Row
  /-- The row of each node entered so far, by address. -/
  entered : Std.TreeMap Address (List (Node × Nat))

namespace Table

def empty : Table :=
  ⟨#[], ∅⟩

def enteredAt (table : Table) (address : Address) : List (Node × Nat) :=
  table.entered.getD address []

def rowOf? (table : Table) (node : Node) : Option Nat :=
  ((table.enteredAt node.addr).find? fun (other, _) => decide (node = other)).map (·.2)

/-- Enters a node whose row is known, adding the row unless it is there. -/
def add (table : Table) (node : Node) (row : Row) : Nat × Table :=
  let others := table.enteredAt node.addr
  match others.find? fun (_, k) => table.rows[k]? == some row with
  | some (_, k) => (k, { table with entered := table.entered.insert node.addr ((node, k) :: others) })
  | none =>
    let k := table.rows.size
    (k, ⟨table.rows.push row, table.entered.insert node.addr ((node, k) :: others)⟩)

end Table

mutual

/-- Enters a node after its inputs, and gives its row. -/
def Node.enter (node : Node) (table : Table) : Nat × Table :=
  match table.rowOf? node with
  | some k => (k, table)
  | none =>
    match node with
    | .leaf i => table.add (.leaf i) ⟨i.addr, none⟩
    | .internal i inputs =>
      let (ids, table) := inputs.enter table
      table.add (.internal i inputs) ⟨i.addr, some ids⟩

/-- Enters the inputs of a node in register order, and gives their rows. -/
def Inputs.enter (inputs : Inputs) (table : Table) : List (Register × Option Nat) × Table :=
  match inputs with
  | .nil => ([], table)
  | .unresolved r rest =>
    let (ids, table) := rest.enter table
    ((r, none) :: ids, table)
  | .resolved r node rest =>
    let (k, table) := node.enter table
    let (ids, table) := rest.enter table
    ((r, some k) :: ids, table)

end

/-- The distinct nodes of a graph, inputs first and the root last. -/
def Node.table (node : Node) : List Row :=
  (node.enter Table.empty).2.rows.toList

end Backflow
