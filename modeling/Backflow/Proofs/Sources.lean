import Backflow.Explain
import Backflow.Proofs.Resolution
import Mathlib.Logic.Relation

/-! # What an instruction is explained by

An instruction that is neither a leaf nor a moved result reads the registers of certain
operands, and each of them has at most one source: the definition that reaches the
instruction, or the write of the field it reads.

* `Instruction.readPositions` says which operands name the registers that are read.
* `Store.source` is the source of a register.
* `Store.DependsOn` relates an instruction to the definitions that its explanation goes
  through, a moved result to its invocation.

Families of instructions are told apart by the texts that their mnemonics start with; no
mnemonic starts with two texts of which neither starts with the other.
-/

namespace Backflow

namespace Instruction

/-! ## Families -/

theorem isOf_iff {i : Instruction} {family : String} :
    i.isOf family = true ↔ family.toList <+: i.mnemonic.toList :=
  String.startsWith_string_iff

/-- Two families are apart if neither text starts with the other. -/
def Apart (first second : String) : Prop :=
  ¬ first.toList <+: second.toList ∧ ¬ second.toList <+: first.toList

instance (first second : String) : Decidable (Apart first second) :=
  inferInstanceAs (Decidable (_ ∧ _))

theorem not_isOf {i : Instruction} {first second : String} (h : i.isOf first = true)
    (apart : Apart first second) : i.isOf second = false := by
  rw [Bool.eq_false_iff]
  intro h'
  rcases List.prefix_or_prefix_of_prefix (isOf_iff.mp h) (isOf_iff.mp h') with below | above
  · exact apart.1 below
  · exact apart.2 above

theorem not_isAnyOf {i : Instruction} {first : String} {families : List String}
    (h : i.isOf first = true) (apart : ∀ family ∈ families, Apart first family) :
    i.isAnyOf families = false := by
  rw [isAnyOf, List.any_eq_false]
  intro family member
  simp [not_isOf h (apart family member)]

theorem isAnyOf_false {i : Instruction} {family : String} {families : List String}
    (h : i.isAnyOf families = true) (apart : ∀ first ∈ families, Apart first family) :
    i.isOf family = false := by
  obtain ⟨first, member, h⟩ := List.any_eq_true.mp h
  exact not_isOf h (apart first member)

theorem leaf_not_moved {i : Instruction} (leaf : i.isAnyOf leafFamilies = true) :
    i.isOf "move-result" = false :=
  isAnyOf_false leaf (by decide +kernel)

theorem moved_not_leaf {i : Instruction} (moved : i.isOf "move-result" = true) :
    i.isAnyOf leafFamilies = false :=
  not_isAnyOf moved (by decide +kernel)

theorem invoke_not_moved {i : Instruction} (call : i.isOf "invoke" = true) :
    i.isOf "move-result" = false :=
  not_isOf call (by decide +kernel)

/-! ## Registers that are read -/

def readPositions (i : Instruction) : List Nat :=
  if i.isAnyOf ["move", "array-length"] then [1] else if i.isOf "aget" then [1, 2] else [0]

end Instruction

def InputPlan.registers : InputPlan → List Register
  | .each registers => registers
  | .shared registers _ => registers

namespace Instruction

theorem pairwise_of_operandSet? {i : Instruction} {position : Nat} {registers : List Register}
    (found : i.operandSet? position = some registers) :
    registers.Pairwise fun r s => r.rank < s.rank := by
  obtain ⟨operand, _, found⟩ := Option.bind_eq_some_iff.mp found
  obtain ⟨listed, _, rfl⟩ := Option.map_eq_some_iff.mp found
  exact Register.pairwise_sorted listed

/-- What the plan of an instruction can be: which operands it reads, and whether each register
has its own definition or all share a write. -/
inductive Planned (i : Instruction) : InputPlan → Prop
  | source {registers : List Register} (moves : i.isAnyOf ["move", "array-length"] = true)
      (operand : i.operandSet? 1 = some registers) : Planned i (.each registers)
  | element {array index : List Register} (plain : i.isAnyOf ["move", "array-length"] = false)
      (aget : i.isOf "aget" = true) (first : i.operandSet? 1 = some array)
      (second : i.operandSet? 2 = some index) :
      Planned i (.each (Register.sorted (array ++ index)))
  | static {registers : List Register} (plain : i.isAnyOf ["move", "array-length"] = false)
      (other : i.isOf "aget" = false) (sget : i.isOf "sget" = true)
      (operand : i.operandSet? 0 = some registers) : Planned i (.shared registers .static)
  | object {registers : List Register} (plain : i.isAnyOf ["move", "array-length"] = false)
      (other : i.isOf "aget" = false) (iget : i.isOf "iget" = true)
      (operand : i.operandSet? 0 = some registers) : Planned i (.shared registers .object)
  | first {registers : List Register} (plain : i.isAnyOf ["move", "array-length"] = false)
      (other : i.isOf "aget" = false) (notStatic : i.isOf "sget" = false)
      (notObject : i.isOf "iget" = false) (operand : i.operandSet? 0 = some registers) :
      Planned i (.each registers)

theorem planned {i : Instruction} {plan : InputPlan} (found : i.inputPlan? = some plan) :
    Planned i plan := by
  unfold inputPlan? at found
  split at found
  · rename_i moves
    obtain ⟨registers, operand, rfl⟩ := Option.map_eq_some_iff.mp found
    exact .source moves operand
  rename_i plain
  rw [Bool.not_eq_true] at plain
  split at found
  · rename_i aget
    simp only [Option.bind_eq_bind, Option.bind_eq_some_iff] at found
    obtain ⟨array, first, index, second, same⟩ := found
    cases same
    exact .element plain aget first second
  rename_i other
  rw [Bool.not_eq_true] at other
  split at found
  · rename_i sget
    obtain ⟨registers, operand, rfl⟩ := Option.map_eq_some_iff.mp found
    exact .static plain other sget operand
  rename_i notStatic
  split at found
  · rename_i iget
    obtain ⟨registers, operand, rfl⟩ := Option.map_eq_some_iff.mp found
    exact .object plain other iget operand
  · rename_i notObject
    obtain ⟨registers, operand, rfl⟩ := Option.map_eq_some_iff.mp found
    exact .first plain other (by simpa using notStatic) (by simpa using notObject) operand

/-- The registers of a plan are those of the operands that the instruction reads. -/
theorem registers_of_plan {i : Instruction} {plan : InputPlan} (found : i.inputPlan? = some plan) :
    ∃ sets, i.readPositions.mapM i.operandSet? = some sets ∧
      (∀ r, r ∈ plan.registers ↔ ∃ set ∈ sets, r ∈ set) ∧
      plan.registers.Pairwise fun r s => r.rank < s.rank := by
  cases planned found with
  | source moves operand =>
    exact ⟨_, by simp [readPositions, moves, operand]; rfl, by simp [InputPlan.registers],
      pairwise_of_operandSet? operand⟩
  | element plain aget first second =>
    exact ⟨_, by simp [readPositions, plain, aget, first, second]; rfl,
      by simp [InputPlan.registers], Register.pairwise_sorted _⟩
  | static plain other sget operand | object plain other iget operand
  | first plain other notStatic notObject operand =>
    exact ⟨_, by simp [readPositions, plain, other, operand]; rfl,
      by simp [InputPlan.registers], pairwise_of_operandSet? operand⟩

end Instruction

/-! ## Sources -/

namespace Store

/-- The source of a register that an instruction reads: the write of the field it reads, or the
definition that reaches it. -/
def source (store : Store) (limits : Limits) (i : Instruction) (r : Register) :
    Option Instruction :=
  if i.isOf "sget" then (store.recentWrite .static i).value
  else if i.isOf "iget" then (store.recentWrite .object i).value
  else store.recentLoad limits.maxHops i r

theorem source_each {store : Store} {limits : Limits} {i : Instruction}
    {registers : List Register} (found : i.inputPlan? = some (.each registers)) (r : Register) :
    store.source limits i r = store.recentLoad limits.maxHops i r := by
  have apart : i.isOf "sget" = false ∧ i.isOf "iget" = false := by
    cases Instruction.planned found with
    | source moves _ =>
      exact ⟨Instruction.isAnyOf_false moves (by decide +kernel),
        Instruction.isAnyOf_false moves (by decide +kernel)⟩
    | element _ aget _ _ =>
      exact ⟨Instruction.not_isOf aget (by decide +kernel),
        Instruction.not_isOf aget (by decide +kernel)⟩
    | first _ _ notStatic notObject _ => exact ⟨notStatic, notObject⟩
  simp [source, apart]

theorem source_shared {store : Store} {limits : Limits} {i : Instruction}
    {registers : List Register} {kind : FieldKind}
    (found : i.inputPlan? = some (.shared registers kind)) (r : Register) :
    store.source limits i r = (store.recentWrite kind i).value := by
  cases Instruction.planned found with
  | static _ _ sget _ => simp [source, sget]
  | object _ _ iget _ =>
    have notStatic : i.isOf "sget" = false := Instruction.not_isOf iget (by decide +kernel)
    simp [source, iget, notStatic]

/-- What a result is moved from is an invocation, so moved results do not chain. -/
theorem notMoved_of_recentInvocation {store : Store} {i d : Instruction}
    (call : (store.recentInvocation i).value = some d) : d.isOf "move-result" = false :=
  Instruction.invoke_not_moved (List.find?_some (p := fun j : Instruction => j.isOf "invoke") call)

/-- The definitions that the explanation of an instruction goes through: the invocation of a
moved result, the definitions of the registers that are read, the write of the field. -/
inductive DependsOn (store : Store) (limits : Limits) : Instruction → Instruction → Prop
  | moved {i d : Instruction} (moved : i.isOf "move-result" = true)
      (call : (store.recentInvocation i).value = some d) : DependsOn store limits i d
  | each {i d : Instruction} {registers : List Register} {r : Register}
      (notLeaf : i.isAnyOf leafFamilies = false) (notMoved : i.isOf "move-result" = false)
      (plan : i.inputPlan? = some (.each registers)) (member : r ∈ registers)
      (found : store.recentLoad limits.maxHops i r = some d) : DependsOn store limits i d
  | shared {i d : Instruction} {registers : List Register} {kind : FieldKind}
      (notLeaf : i.isAnyOf leafFamilies = false) (notMoved : i.isOf "move-result" = false)
      (plan : i.inputPlan? = some (.shared registers kind))
      (found : (store.recentWrite kind i).value = some d) : DependsOn store limits i d

theorem DependsOn.notLeaf {store : Store} {limits : Limits} {i d : Instruction}
    (depends : store.DependsOn limits i d) : i.isAnyOf leafFamilies = false := by
  cases depends with
  | moved moved _ => exact Instruction.moved_not_leaf moved
  | each notLeaf _ _ _ _ => exact notLeaf
  | shared notLeaf _ _ _ => exact notLeaf

theorem DependsOn.call {store : Store} {limits : Limits} {i d : Instruction}
    (depends : store.DependsOn limits i d) (moved : i.isOf "move-result" = true) :
    (store.recentInvocation i).value = some d := by
  cases depends with
  | moved _ call => exact call
  | each _ notMoved _ _ _ => simp [moved] at notMoved
  | shared _ notMoved _ _ => simp [moved] at notMoved

theorem DependsOn.planned {store : Store} {limits : Limits} {i d : Instruction}
    (depends : store.DependsOn limits i d) (notMoved : i.isOf "move-result" = false) :
    i.inputPlan? ≠ none := by
  cases depends with
  | moved moved _ => simp [notMoved] at moved
  | each _ _ planned _ _ => simp [planned]
  | shared _ _ planned _ => simp [planned]

theorem dependsOn_source {store : Store} {limits : Limits} {i d : Instruction} {plan : InputPlan}
    {r : Register} (notLeaf : i.isAnyOf leafFamilies = false)
    (notMoved : i.isOf "move-result" = false) (planned : i.inputPlan? = some plan)
    (member : r ∈ plan.registers) (found : store.source limits i r = some d) :
    store.DependsOn limits i d := by
  cases plan with
  | each registers => exact .each notLeaf notMoved planned member ((source_each planned r) ▸ found)
  | shared registers kind => exact .shared notLeaf notMoved planned ((source_shared planned r) ▸ found)

theorem Addressed.holds_of_dependsOn {store : Store} (addressed : store.Addressed)
    {limits : Limits} {i d : Instruction} (depends : store.DependsOn limits i d) :
    store.Holds d := by
  cases depends with
  | moved _ call => exact addressed.holds_of_recentInvocation call
  | each _ _ _ _ found => exact addressed.holds_of_definition (recentLoad_eq_definition .. ▸ found)
  | shared _ _ _ found => exact addressed.holds_of_recentWrite found

theorem Addressed.holds_of_path {store : Store} (addressed : store.Addressed) {limits : Limits}
    {i j : Instruction} (held : store.Holds i)
    (path : Relation.ReflTransGen (store.DependsOn limits) i j) : store.Holds j := by
  cases Relation.ReflTransGen.cases_tail path with
  | inl same => exact same ▸ held
  | inr last =>
    obtain ⟨_, _, depends⟩ := last
    exact addressed.holds_of_dependsOn depends

end Store

end Backflow
