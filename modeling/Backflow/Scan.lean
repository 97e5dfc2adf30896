import Backflow.Store

/-! # Scanning backward

Methods are flat streams of instructions, without a control-flow graph.  A scan goes backward
from an instruction; when it meets a label that does not mark a guarded range, it skips
everything up to the instruction that jumps to that label, so that a definition on a path that
falls through to the label is not taken for the one that reaches it.

* `visible` is the scan over a list of instructions, nearest first.
* `Store.visibleBefore` scans from an instruction of a store.
* `Store.callersOf` are the calls of the enclosing method from other methods.
-/

namespace Backflow

/-- Holds of the labels that mark the ends of guarded ranges. -/
def isGuardLabel (name : String) : Bool :=
  name.startsWith "try_"

/-- The instructions that a scan passes on, `seeking` being the label whose jump it is looking
for. -/
def visibleFrom (seeking : Option String) : List Instruction → List Instruction
  | [] => []
  | i :: rest =>
    match seeking with
    | none =>
      match i.label? with
      | some name => visibleFrom (if isGuardLabel name then none else some name) rest
      | none => i :: visibleFrom none rest
    | some name =>
      if !i.isLabel && i.references name then i :: visibleFrom none rest
      else visibleFrom (some name) rest

/-- The instructions that a scan passes on. -/
def visible (instructions : List Instruction) : List Instruction :=
  visibleFrom none instructions

namespace Store

/-- The instructions of the same method that a scan from `i` passes on, the nearest first. -/
def visibleBefore (store : Store) (i : Instruction) : List Instruction :=
  visible (store.before i.addr)

/-- The calls of the method that encloses `i`, from other methods, in address order. -/
def callersOf (store : Store) (i : Instruction) : List Instruction :=
  match store.nameOf? i with
  | some name => (store.callsTo name).filter fun caller => caller.method != i.method
  | none => []

end Store

end Backflow
