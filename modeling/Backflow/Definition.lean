import Backflow.Scan

/-! # Definitions that reach a use

Where the value of a register or a field was last written, in the same method and then, for a
parameter, at the call sites of the method.

* `Instruction.definedRegisters` are the registers an instruction writes.
* `Store.recentLoads` finds the definitions of several registers at once, with one scan of the
  method and at most one of each call site.
* `Store.recentWrite` finds the write that a field is read from, `Store.recentInvocation` the
  call whose result is moved.

A search is a `Scanned` value: it says where its scans began, beside what it found.
-/

namespace Backflow

/-! ## Searches -/

/-- What a search found, and the addresses from which it scanned a method backward, in order. -/
structure Scanned (α : Type) where
  value : α
  origins : List Address

namespace Scanned

def pure {α : Type} (value : α) : Scanned α :=
  ⟨value, []⟩

def bind {α β : Type} (first : Scanned α) (next : α → Scanned β) : Scanned β :=
  ⟨(next first.value).value, first.origins ++ (next first.value).origins⟩

instance : Monad Scanned where
  pure := Scanned.pure
  bind := Scanned.bind

@[simp] theorem value_pure {α : Type} (value : α) : (Pure.pure value : Scanned α).value = value :=
  rfl

@[simp] theorem value_bind {α β : Type} (first : Scanned α) (next : α → Scanned β) :
    (first >>= next).value = (next first.value).value :=
  rfl

@[simp] theorem origins_pure {α : Type} (value : α) :
    (Pure.pure value : Scanned α).origins = [] :=
  rfl

@[simp] theorem origins_bind {α β : Type} (first : Scanned α) (next : α → Scanned β) :
    (first >>= next).origins = first.origins ++ (next first.value).origins :=
  rfl

end Scanned

def Store.scan (store : Store) (i : Instruction) : Scanned (List Instruction) :=
  ⟨store.visibleBefore i, [i.addr]⟩

/-! ## Defined registers -/

/-- The instructions that write the registers of their first operand. -/
def definingFamilies : List String :=
  ["const", "new-", "move", "array-length", "aget", "sget", "iget"]

/-- The invocations that count as writing their receiver. -/
def receiverFamilies : List String :=
  ["invoke-direct", "invoke-virtual", "invoke-interface"]

/-- What an instruction writes. -/
inductive Written where
  | nothing
  /-- The registers that an operand denotes. -/
  | allOf (operand : Operand)
  /-- The register that an operand denotes first. -/
  | firstOf (operand : Operand)
deriving DecidableEq, Repr

namespace Written

def contains : Written → Register → Bool
  | .nothing, _ => false
  | .allOf operand, r => operand.denotes r
  | .firstOf operand, r => operand.firstRegister? == some r

def registers : Written → List Register
  | .nothing => []
  | .allOf operand => operand.registerSet?.getD []
  | .firstOf operand => operand.firstRegister?.toList

theorem contains_iff {written : Written} {r : Register} :
    written.contains r = true ↔ r ∈ written.registers := by
  cases written with
  | nothing => simp [contains, registers]
  | allOf operand =>
    rw [contains, registers, Operand.denotes_iff, Operand.registerSet?]
    cases operand.registers? <;> simp
  | firstOf operand => simp [contains, registers]

end Written

/-- What an instruction writes: the registers of its first operand, or the receiver alone. -/
def Instruction.written (i : Instruction) : Written :=
  match i.operands.head? with
  | none => .nothing
  | some first =>
    if i.isAnyOf definingFamilies then .allOf first
    else if i.isAnyOf receiverFamilies then .firstOf first
    else .nothing

def Instruction.definedRegisters (i : Instruction) : List Register :=
  i.written.registers

def Instruction.defines (i : Instruction) (r : Register) : Bool :=
  i.written.contains r

/-! ## Registers -/

/-- The definition found for each register of a set, in register order. -/
abbrev Loads := List (Register × Option Instruction)

namespace Loads

def get? (loads : Loads) (r : Register) : Option Instruction :=
  (List.lookup r loads).join

/-- The parameters for which no definition has been found. -/
def pending (loads : Loads) : List Register :=
  (loads.filter fun (r, found) => found.isNone && r.isParam).map (·.1)

/-- Takes an instruction as the definition of the registers it writes and that have none. -/
def note (loads : Loads) (i : Instruction) : Loads :=
  match i.written with
  | .nothing => loads
  | written =>
    loads.map fun (r, found) =>
      (r, if found.isNone && written.contains r then some i else found)

/-- Takes the nearest instruction of a scan that writes a register as its definition, and stops
when every register has one. -/
def noteAll (loads : Loads) : List Instruction → Loads
  | [] => loads
  | i :: rest => if loads.all (·.2.isSome) then loads else (loads.note i).noteAll rest

/-- Takes the definitions found elsewhere for the parameters that have none. -/
def fill (loads : Loads) (definition : Register → Option Instruction) : Loads :=
  loads.map fun (r, known) =>
    (r, if known.isNone && r.isParam then definition r else known)

def byRegister (loads : Loads) : Std.TreeMap Register (Option Instruction) :=
  .ofList loads

/-- The register that a call passes for a parameter: that at the position of the parameter's
number in the list of the call. -/
def passed? (arguments : Array Register) (parameter : Register) : Option Register :=
  arguments[parameter.index.toNat]?

/-- Looks for the pending parameters at a call site: `resolve` finds the definitions of the
registers that the call passes for them. -/
def escalate (resolve : Instruction → List Register → Scanned Loads) (loads : Loads)
    (caller : Instruction) : Scanned Loads :=
  match caller.operands.head?.bind Operand.registers? with
  | none => pure loads
  | some arguments =>
    let arguments := arguments.toArray
    match loads.pending.filterMap (passed? arguments) with
    | [] => pure loads
    | bound => do
      let found ← resolve caller (Register.sorted bound)
      let definitions := found.byRegister
      return loads.fill fun p => (passed? arguments p).bind fun r => definitions[r]?.join

end Loads

namespace Store

/-- The nearest definitions in the method of `i` of a set of registers. -/
def nearestLoads (store : Store) (i : Instruction) (registers : List Register) : Scanned Loads :=
  let wanted : Loads := registers.map (·, none)
  match registers with
  | [] => pure wanted
  | _ :: _ => do
    let scanned ← store.scan i
    return wanted.noteAll scanned

/-- The definitions that reach `i` of a set of registers.  Parameters that the method does not
write are looked for at its call sites, at most `hops` calls up; the first call site with a
definition counts. -/
def recentLoads (store : Store) : (hops : Nat) → Instruction → List Register → Scanned Loads
  | 0, i, registers => store.nearestLoads i registers
  | hops + 1, i, registers => do
    let loads ← store.nearestLoads i registers
    match loads.pending with
    | [] => return loads
    | _ :: _ => (store.callersOf i).foldlM (Loads.escalate (store.recentLoads hops)) loads

/-- The definition that reaches `i` of one register. -/
def recentLoad (store : Store) (hops : Nat) (i : Instruction) (r : Register) :
    Option Instruction :=
  Loads.get? (store.recentLoads hops i [r]).value r

end Store

/-! ## Fields and results -/

inductive FieldKind where
  /-- A field of a class. -/
  | static
  /-- A field of an object, the object not being told apart from others. -/
  | object
deriving DecidableEq, Repr

def FieldKind.writers : FieldKind → String
  | .static => "sput"
  | .object => "iput"

namespace Store

def writesTo (store : Store) : FieldKind → String → List Instruction
  | .static => store.staticWritesTo
  | .object => store.objectWritesTo

/-- The write that `i` reads its field from: the nearest one in its method, or else the first
one in the store. -/
def recentWrite (store : Store) (kind : FieldKind) (i : Instruction) :
    Scanned (Option Instruction) :=
  match i.field? with
  | none => pure none
  | some field => do
    let scanned ← store.scan i
    let nearest := scanned.find? fun j => j.isOf kind.writers && j.field? == some field
    return nearest <|> (store.writesTo kind field).head?

/-- The invocation whose result `i` reads. -/
def recentInvocation (store : Store) (i : Instruction) : Scanned (Option Instruction) := do
  let scanned ← store.scan i
  return scanned.find? (·.isOf "invoke")

end Store

end Backflow
