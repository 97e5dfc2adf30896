import Backflow.Proofs.Loaded

/-! # Registers are resolved one by one

The definitions of several registers are looked for together, with one scan of the method and
one of each call site.  Nothing of what is found for a register depends on the others: the
search gives, register by register, what `Store.definition` says of a single one.

* `Store.definition` is the definition of one register, by recursion over the calls that may
  still be followed.
* `Store.recentLoads_value` equates the joint search with it.

The steps of the joint search (noting an instruction, filling in from a call site) act on each
entry of a list of loads alone, so each of them is shown to be a `List.map`.
-/

namespace Backflow

/-! ## Sets of registers -/

namespace Register

/-- A set of registers stands in ascending order. -/
theorem pairwise_sorted (registers : List Register) :
    (sorted registers).Pairwise fun r s => r.rank < s.rank := by
  have ordered := Std.TreeSet.ordered_toList (t := Std.TreeSet.ofList registers)
  exact ordered.imp fun {r s} below => Nat.compare_eq_lt.mp below

theorem nodup_sorted (registers : List Register) : (sorted registers).Nodup :=
  (pairwise_sorted registers).imp fun h same => by simp [same] at h

end Register

/-! ## One register -/

/-- The register that a call passes for a parameter of the method called; none for a local. -/
def Instruction.passes? (caller : Instruction) (parameter : Register) : Option Register :=
  if parameter.isParam then
    (caller.operands.head?.bind Operand.registers?).bind fun arguments =>
      Loads.passed? arguments.toArray parameter
  else
    none

namespace Store

/-- The nearest instruction that a scan from `i` passes on and that writes the register. -/
def nearest (store : Store) (i : Instruction) (r : Register) : Option Instruction :=
  (store.visibleBefore i).find? (·.defines r)

/-- The definition that reaches `i` of one register: the nearest one in the method, or else, for
a parameter, that of the register passed by the first call site where there is one. -/
def definition (store : Store) : (hops : Nat) → Instruction → Register → Option Instruction
  | 0, i, r => store.nearest i r
  | hops + 1, i, r =>
    (store.nearest i r).or <| (store.callersOf i).findSome? fun caller =>
      (caller.passes? r).bind (store.definition hops caller)

end Store

/-! ## Steps of the joint search -/

namespace Loads

/-- Gives each register that has no definition the one that `more` says. -/
def complete (loads : Loads) (more : Register → Option Instruction) : Loads :=
  loads.map fun (r, known) => (r, known.or (more r))

theorem complete_map (registers : List Register) (known more : Register → Option Instruction) :
    complete (registers.map fun r => (r, known r)) more =
      registers.map fun r => (r, (known r).or (more r)) := by
  simp [complete]

theorem complete_complete (loads : Loads) (first second : Register → Option Instruction) :
    (loads.complete first).complete second =
      loads.complete fun r => (first r).or (second r) := by
  simp [complete, Option.or_assoc]

theorem complete_eq_self {loads : Loads} {more : Register → Option Instruction}
    (settled : ∀ r known, (r, known) ∈ loads → known.or (more r) = known) :
    loads.complete more = loads := by
  refine (List.map_congr_left fun load member => ?_).trans (List.map_id loads)
  obtain ⟨r, known⟩ := load
  exact congrArg (r, ·) (settled r known member)

theorem note_eq_complete (loads : Loads) (i : Instruction) :
    loads.note i = loads.complete fun r => if i.defines r then some i else none := by
  unfold note
  split
  · rename_i nothing
    refine (complete_eq_self fun r known _ => ?_).symm
    simp [Instruction.defines, nothing, Written.contains]
  · refine List.map_congr_left fun load _ => ?_
    obtain ⟨r, known⟩ := load
    cases known with
    | some d => rfl
    | none =>
      simp only [Option.isNone_none, Bool.true_and, Option.none_or]
      rfl

theorem noteAll_eq_complete (loads : Loads) (scan : List Instruction) :
    loads.noteAll scan = loads.complete fun r => scan.find? (·.defines r) := by
  induction scan generalizing loads with
  | nil => exact (complete_eq_self fun r known _ => by simp).symm
  | cons i rest ih =>
    unfold noteAll
    split
    · -- the scan stops here, but only when no register is left to find
      rename_i all
      refine (complete_eq_self fun r known member => ?_).symm
      have found := List.all_eq_true.mp all _ member
      exact Option.or_of_isSome found
    · rw [ih, note_eq_complete, complete_complete]
      congr
      funext r
      cases h : i.defines r <;> simp [h]

theorem getElem?_byRegister {registers : List Register} (distinct : registers.Nodup)
    {definition : Register → Option Instruction} {r : Register} (member : r ∈ registers) :
    (byRegister (registers.map fun r => (r, definition r)))[r]? = some (definition r) := by
  refine Std.TreeMap.getElem?_ofList_of_mem Std.ReflCmp.compare_self ?_
    (List.mem_map_of_mem member)
  rw [List.pairwise_map]
  exact distinct.imp fun different same => different (Std.LawfulEqCmp.eq_of_compare same)

/-- A call site gives each pending parameter the definition of the register it passes. -/
theorem escalate_value {resolve : Instruction → List Register → Scanned Loads}
    {definition : Instruction → Register → Option Instruction}
    (resolves : ∀ i registers, (resolve i registers).value =
      registers.map fun r => (r, definition i r))
    (loads : Loads) (caller : Instruction) :
    (escalate resolve loads caller).value =
      loads.complete fun p => (caller.passes? p).bind (definition caller) := by
  unfold escalate
  split
  · rename_i unreadable
    refine (complete_eq_self fun r known _ => ?_).symm
    simp [Instruction.passes?, unreadable]
  · rename_i arguments readable
    -- a register passed for a pending parameter is among those resolved
    have passes : ∀ p known, (p, known) ∈ loads → known = none → p.isParam = true →
        ∀ r, passed? arguments.toArray p = some r →
          r ∈ loads.pending.filterMap (passed? arguments.toArray) := by
      intro p known member unknown param r passed
      refine List.mem_filterMap.mpr ⟨p, ?_, passed⟩
      exact List.mem_map.mpr ⟨(p, known), List.mem_filter.mpr ⟨member, by simp [unknown, param]⟩, rfl⟩
    simp only
    split
    · rename_i none_bound
      rw [none_bound] at passes
      refine (complete_eq_self fun p known member => ?_).symm
      cases known with
      | some i => rfl
      | none =>
        cases param : p.isParam with
        | false => simp [Instruction.passes?, param]
        | true =>
          cases passed : passed? arguments.toArray p with
          | none => simp [Instruction.passes?, readable, passed]
          | some r => exact absurd (passes p none member rfl param r passed) (by simp)
    · rename_i bound _ _
      simp only [Scanned.value_bind, Scanned.value_pure, resolves]
      refine List.map_congr_left fun load member => ?_
      obtain ⟨p, known⟩ := load
      cases known with
      | some i => simp
      | none =>
        cases param : p.isParam with
        | false => simp [Instruction.passes?, param]
        | true =>
          cases passed : passed? arguments.toArray p with
          | none => simp [Instruction.passes?, readable, passed, param]
          | some r =>
            have sought := Register.mem_sorted.mpr (passes p none member rfl param r passed)
            simp [Instruction.passes?, readable, passed, param,
              getElem?_byRegister (Register.nodup_sorted _) sought]

end Loads

/-! ## The joint search -/

theorem Scanned.value_foldlM {α β : Type} (step : β → α → Scanned β) (items : List α) (start : β) :
    (items.foldlM step start).value = items.foldl (fun state item => (step state item).value) start := by
  induction items generalizing start with
  | nil => rfl
  | cons item items ih => simp [ih]

theorem Loads.foldl_complete (more : Instruction → Register → Option Instruction)
    (callers : List Instruction) (loads : Loads) :
    callers.foldl (fun loads caller => loads.complete (more caller)) loads =
      loads.complete fun r => callers.findSome? (more · r) := by
  induction callers generalizing loads with
  | nil => exact (complete_eq_self fun r known _ => by simp).symm
  | cons caller callers ih =>
    rw [List.foldl_cons, ih, complete_complete]
    congr
    funext r
    cases h : more caller r <;> simp [h]

namespace Store

theorem nearestLoads_value (store : Store) (i : Instruction) (registers : List Register) :
    (store.nearestLoads i registers).value = registers.map fun r => (r, store.nearest i r) := by
  unfold nearestLoads
  split
  · rfl
  · simp only [Scanned.value_bind, Scanned.value_pure, Loads.noteAll_eq_complete, scan]
    rw [Loads.complete_map]
    simp [nearest]

/-- One more call to follow: what the method leaves open is looked for at its call sites, in
their order. -/
theorem recentLoads_succ_value (store : Store) {hops : Nat}
    (resolves : ∀ i registers, (store.recentLoads hops i registers).value =
      registers.map fun r => (r, store.definition hops i r))
    (i : Instruction) (registers : List Register) :
    (store.recentLoads (hops + 1) i registers).value =
      Loads.complete (registers.map fun r => (r, store.nearest i r)) fun r =>
        (store.callersOf i).findSome? fun caller =>
          (caller.passes? r).bind (store.definition hops caller) := by
  simp only [recentLoads, Scanned.value_bind, nearestLoads_value]
  generalize registers.map (fun r => (r, store.nearest i r)) = loads
  split
  · -- no parameter is pending, so the call sites would not change anything either
    rename_i settled
    refine (Loads.complete_eq_self fun r known member => ?_).symm
    cases known with
    | some d => rfl
    | none =>
      cases param : r.isParam with
      | false => simp [Instruction.passes?, param]
      | true =>
        have pending : r ∈ Loads.pending loads := List.mem_map.mpr
          ⟨(r, none), List.mem_filter.mpr ⟨member, by simp [param]⟩, rfl⟩
        simp [settled] at pending
  · rw [Scanned.value_foldlM, ← Loads.foldl_complete]
    congr
    funext loads caller
    exact Loads.escalate_value resolves loads caller

/-- The joint search finds for each register what a search for it alone finds. -/
theorem recentLoads_value (store : Store) (hops : Nat) (i : Instruction)
    (registers : List Register) :
    (store.recentLoads hops i registers).value =
      registers.map fun r => (r, store.definition hops i r) := by
  induction hops generalizing i registers with
  | zero => exact store.nearestLoads_value i registers
  | succ hops ih =>
    rw [store.recentLoads_succ_value ih, Loads.complete_map]
    rfl

theorem recentLoad_eq_definition (store : Store) (hops : Nat) (i : Instruction) (r : Register) :
    store.recentLoad hops i r = store.definition hops i r := by
  simp [recentLoad, recentLoads_value, Loads.get?]

/-- What is found for a register of a set is what is found for it alone. -/
theorem recentLoads_value_eq_recentLoad (store : Store) (hops : Nat) (i : Instruction)
    (registers : List Register) :
    (store.recentLoads hops i registers).value =
      registers.map fun r => (r, store.recentLoad hops i r) := by
  simp only [recentLoads_value, recentLoad_eq_definition]

/-! ## Definitions are in the store -/

theorem Addressed.holds_of_nearest {store : Store} (addressed : store.Addressed)
    {i d : Instruction} {r : Register} (found : store.nearest i r = some d) : store.Holds d :=
  addressed.holds_of_mem_visibleBefore (List.mem_of_find?_eq_some found)

theorem Addressed.holds_of_definition {store : Store} (addressed : store.Addressed) {hops : Nat}
    {i d : Instruction} {r : Register} (found : store.definition hops i r = some d) :
    store.Holds d := by
  induction hops generalizing i r with
  | zero => exact addressed.holds_of_nearest found
  | succ hops ih =>
    rw [definition, Option.or_eq_some_iff] at found
    rcases found with near | ⟨_, far⟩
    · exact addressed.holds_of_nearest near
    · obtain ⟨caller, _, far⟩ := List.exists_of_findSome?_eq_some far
      obtain ⟨s, _, far⟩ := Option.bind_eq_some_iff.mp far
      exact ih far

end Store

end Backflow
