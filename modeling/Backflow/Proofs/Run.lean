import Backflow.Proofs.Sources
import Mathlib.Data.List.Forall2

/-! # Runs of a query

What explaining an instruction can do, said once, so that what every query preserves is proved
from it without opening the program again.

* `Entered` are the ways in which an address that has been entered is settled, given what
  explaining the definitions it depends on does (`Explaining`).
* `Store.explainWithin_induction` is the induction over a run: a statement that holds where
  nothing is entered, and passes from the definitions of an instruction to the instruction,
  holds of every run.
* `Kept` is what every run keeps, whatever it explains: nothing that is remembered changes, and
  an address is remembered only after it has been entered.
-/

namespace Backflow

/-! ## Settling -/

namespace Query

@[simp] theorem memo_log (query : Query) (event : Event) : (query.log event).memo = query.memo :=
  rfl

@[simp] theorem sizes_log (query : Query) (event : Event) :
    (query.log event).sizes = query.sizes :=
  rfl

@[simp] theorem memo_logScans (query : Query) (origins : List Address) :
    (query.logScans origins).memo = query.memo :=
  rfl

@[simp] theorem sizes_logScans (query : Query) (origins : List Address) :
    (query.logScans origins).sizes = query.sizes :=
  rfl

theorem count_entered_logScans (query : Query) (origins : List Address) (a : Address) :
    (query.logScans origins).journal.count (.entered a) = query.journal.count (.entered a) := by
  have scans : (origins.map Event.scanned).reverse.count (.entered a) = 0 :=
    List.count_eq_zero.mpr (by simp)
  simp [logScans, scans]

@[simp] theorem memo_settle (query : Query) (address : Address) (outcome : Option Node) :
    (query.settle address outcome).2.memo = query.memo.insert address outcome :=
  rfl

@[simp] theorem sizes_settle (query : Query) (address : Address) (outcome : Option Node) :
    (query.settle address outcome).2.sizes = query.sizes :=
  rfl

@[simp] theorem journal_settle (query : Query) (address : Address) (outcome : Option Node) :
    (query.settle address outcome).2.journal = .settled address :: query.journal :=
  rfl

/-- The number that is compared with the limit when a node is settled: the size recorded for its
address, or else the number of addresses that the walk meets. -/
def count (query : Query) (node : Node) : Nat :=
  query.sizes[node.addr]?.getD node.size

end Query

/-- How a node that has been put together is settled: it is kept and its size is recorded, or
it is given up. -/
inductive Settles (limits : Limits) (node : Node) (query : Query) : Option Node → Query → Prop
  | kept {query' : Query} (fits : query.count node ≤ limits.maxGraphSize)
      (memo : query'.memo = query.memo.insert node.addr (some node))
      (sizes : ∀ a : Address, query'.sizes[a]? =
        if a = node.addr then some (query.count node) else query.sizes[a]?)
      (journal : query'.journal = .settled node.addr :: query.journal) :
      Settles limits node query (some node) query'
  | dropped {query' : Query} (large : limits.maxGraphSize < query.count node)
      (memo : query'.memo = query.memo.insert node.addr none)
      (sizes : ∀ a : Address, query'.sizes[a]? =
        if a = node.addr then none else query.sizes[a]?)
      (journal : query'.journal = .settled node.addr ::
        .oversized node.addr (query.count node) limits.maxGraphSize :: query.journal) :
      Settles limits node query none query'

theorem Node.measure_count (node : Node) (query : Query) :
    (node.measure query.sizes).1 = query.count node ∧
      ∀ a : Address, (node.measure query.sizes).2[a]? =
        if a = node.addr then some (query.count node) else query.sizes[a]? :=
  node.measure_spec query.sizes

theorem Query.settleNode_of_fits {query : Query} {limits : Limits} {node : Node}
    (fits : query.count node ≤ limits.maxGraphSize) :
    query.settleNode limits node =
      Query.settle { query with sizes := (node.measure query.sizes).2 } node.addr (some node) := by
  rw [← (node.measure_count query).1] at fits
  simp [settleNode, fits]

theorem Query.settles_settleNode (query : Query) (limits : Limits) (node : Node) :
    Settles limits node query (query.settleNode limits node).1 (query.settleNode limits node).2 := by
  obtain ⟨counted, recorded⟩ := node.measure_count query
  unfold Query.settleNode
  split
  · rename_i size sizes measured
    rw [measured] at counted recorded
    simp only at counted recorded
    subst counted
    split
    · rename_i fits
      exact .kept fits rfl recorded rfl
    · -- the size that was just recorded is erased again, also where it was recorded before
      rename_i large
      refine .dropped (Nat.lt_of_not_le large) rfl (fun a => ?_) rfl
      simp only [Query.sizes_settle, Query.sizes_log, Std.TreeMap.getElem?_erase, recorded]
      by_cases here : a = node.addr
      · simp [here]
      · simp [here, Ne.symm here]

/-! ## Steps -/

/-- What explaining a definition does to a query, and what comes out. -/
abbrev Explaining := Option Instruction → Query → Option Node → Query → Prop

/-- Definitions explained one after the other. -/
inductive Threaded (explains : Explaining) : Loads → Query → Inputs → Query → Prop
  | nil {query : Query} : Threaded explains [] query .nil query
  | cons {r : Register} {found : Option Instruction} {rest : Loads} {query query' query'' : Query}
      {input : Option Node} {inputs : Inputs} (head : explains found query input query')
      (tail : Threaded explains rest query' inputs query'') :
      Threaded explains ((r, found) :: rest) query (.cons r input inputs) query''

section Steps

variable (store : Store) (limits : Limits) (explains : Explaining) (i : Instruction)

/-- The addresses that are scanned from when the inputs of a plan are looked for. -/
def Store.inputOrigins : InputPlan → List Address
  | .each registers => (store.recentLoads limits.maxHops i registers).origins
  | .shared _ kind => (store.recentWrite kind i).origins

/-- The inputs of an instruction explained according to its plan. -/
inductive Gathered : InputPlan → Query → Inputs → Query → Prop
  | each {registers : List Register} {query query' : Query} {inputs : Inputs}
      (run : Threaded explains (store.recentLoads limits.maxHops i registers).value
        (query.logScans (store.recentLoads limits.maxHops i registers).origins) inputs query') :
      Gathered (.each registers) query inputs query'
  | shared {registers : List Register} {kind : FieldKind} {query query' : Query}
      {input : Option Node}
      (run : explains (store.recentWrite kind i).value
        (query.logScans (store.recentWrite kind i).origins) input query') :
      Gathered (.shared registers kind) query (.ofList (registers.map (·, input))) query'

/-- How an instruction is explained whose address has been entered. -/
inductive Entered (query : Query) : Option Node → Query → Prop
  | leaf (leaf : i.isAnyOf leafFamilies = true) :
      Entered query (some (.leaf i)) (query.settle i.addr (some (.leaf i))).2
  | moved {outcome : Option Node} {query' : Query} (moved : i.isOf "move-result" = true)
      (run : explains (store.recentInvocation i).value
        (query.logScans (store.recentInvocation i).origins) outcome query') :
      Entered query outcome (query'.settle i.addr outcome).2
  | unreadable (notLeaf : i.isAnyOf leafFamilies = false)
      (notMoved : i.isOf "move-result" = false) (unplanned : i.inputPlan? = none) :
      Entered query none (query.settle i.addr none).2
  | node {plan : InputPlan} {inputs : Inputs} {outcome : Option Node} {query' query'' : Query}
      (notLeaf : i.isAnyOf leafFamilies = false) (notMoved : i.isOf "move-result" = false)
      (planned : i.inputPlan? = some plan)
      (gathered : Gathered store limits explains i plan query inputs query')
      (settles : Settles limits (.internal i inputs) query' outcome query'') :
      Entered query outcome query''

end Steps

section Functions

variable {explain : Option Instruction → Query → Option Node × Query} {explains : Explaining}
  (meets : ∀ found query, explains found query (explain found query).1 (explain found query).2)
include meets

theorem threaded_explainLoads (loads : Loads) (query : Query) :
    Threaded explains loads query (explainLoads explain loads query).1
      (explainLoads explain loads query).2 := by
  induction loads generalizing query with
  | nil => exact .nil
  | cons load rest ih =>
    obtain ⟨r, found⟩ := load
    exact .cons (meets found query) (ih _)

theorem gathered_explainInputs (store : Store) (limits : Limits) (i : Instruction)
    (plan : InputPlan) (query : Query) :
    Gathered store limits explains i plan query
      (store.explainInputs limits explain i plan query).1
      (store.explainInputs limits explain i plan query).2 := by
  cases plan with
  | each registers => exact .each (threaded_explainLoads meets _ _)
  | shared registers kind => exact .shared (meets _ _)

theorem entered_explainEntered (store : Store) (limits : Limits) (i : Instruction)
    (query : Query) :
    Entered store limits explains i query (store.explainEntered limits explain i query).1
      (store.explainEntered limits explain i query).2 := by
  unfold Store.explainEntered
  split
  · rename_i leaf
    exact .leaf leaf
  rename_i notLeaf
  rw [Bool.not_eq_true] at notLeaf
  split
  · rename_i moved
    exact .moved moved (meets _ _)
  rename_i notMoved
  rw [Bool.not_eq_true] at notMoved
  split
  · rename_i plan
    exact .unreadable notLeaf notMoved plan
  · rename_i plan found
    exact .node notLeaf notMoved found (gathered_explainInputs meets store limits i plan query)
      (Query.settles_settleNode _ _ _)

end Functions

/-- The induction over runs, without what every run keeps. -/
theorem Store.explainWithin_rule (store : Store) (limits : Limits) {P : Nat → Explaining}
    (absent : ∀ depth query, P depth none query none query)
    (capped : ∀ i query, P 0 (some i) query none query)
    (remembered : ∀ depth (i : Instruction) (query : Query) outcome,
      query.memo[i.addr]? = some outcome → P (depth + 1) (some i) query outcome query)
    (entered : ∀ depth (i : Instruction) (query : Query) outcome query',
      query.memo[i.addr]? = none →
      Entered store limits (P depth) i (query.log (.entered i.addr)) outcome query' →
      P (depth + 1) (some i) query outcome query')
    (depth : Nat) (found : Option Instruction) (query : Query) :
    P depth found query (store.explainWithin limits depth found query).1
      (store.explainWithin limits depth found query).2 := by
  induction depth generalizing found query with
  | zero =>
    cases found with
    | none => exact absent 0 query
    | some i => exact capped i query
  | succ depth ih =>
    cases found with
    | none => exact absent (depth + 1) query
    | some i =>
      rw [Store.explainWithin]
      split
      · rename_i outcome hit
        exact remembered depth i query outcome hit
      · rename_i fresh
        exact entered depth i query _ _ fresh (entered_explainEntered ih store limits i _)

/-! ## What every run keeps -/

/-- A later state of a query: what is remembered stays, the journal grows, and an address is
remembered only after it has been entered. -/
structure Query.Grows (query query' : Query) : Prop where
  memo : ∀ {a : Address} {outcome : Option Node},
    query.memo[a]? = some outcome → query'.memo[a]? = some outcome
  journal : query.journal <:+ query'.journal
  entered : ∀ {a : Address}, query.memo[a]? = none → query'.memo[a]? ≠ none →
    query.journal.count (.entered a) < query'.journal.count (.entered a)

/-- The outcome of explaining a definition with the given depth left, seen in a later state: it
is remembered, unless there was nothing to explain or no depth left. -/
structure Query.Recalls (query : Query) (depth : Nat) (found : Option Instruction)
    (outcome : Option Node) : Prop where
  absent : found = none → outcome = none
  capped : depth = 0 → outcome = none
  memo : ∀ {i}, found = some i → 0 < depth → query.memo[i.addr]? = some outcome

structure Kept (depth : Nat) (found : Option Instruction) (query : Query)
    (outcome : Option Node) (query' : Query) : Prop where
  grows : query.Grows query'
  recalls : query'.Recalls depth found outcome
  still : depth = 0 → query'.memo = query.memo

namespace Query

theorem getElem?_memo_insert (query : Query) (address a : Address) (outcome : Option Node) :
    (query.memo.insert address outcome)[a]? =
      if a = address then some outcome else query.memo[a]? := by
  by_cases here : a = address
  · simp [here]
  · simp [here, Ne.symm here, Std.TreeMap.getElem?_insert]

namespace Grows

theorem refl (query : Query) : query.Grows query :=
  ⟨id, List.suffix_rfl, fun fresh met => absurd fresh met⟩

theorem logScans (query : Query) (origins : List Address) : query.Grows (query.logScans origins) :=
  ⟨id, List.suffix_append _ _, fun fresh met => absurd fresh met⟩

theorem count_le {q q' : Query} (later : q.Grows q') (event : Event) :
    q.journal.count event ≤ q'.journal.count event :=
  later.journal.sublist.count_le event

theorem trans {q q' q'' : Query} (one : q.Grows q') (two : q'.Grows q'') : q.Grows q'' := by
  refine ⟨fun found => two.memo (one.memo found), one.journal.trans two.journal,
    fun {a} fresh met => ?_⟩
  -- one of the two runs remembers `a` first, and neither takes an entry back
  have before := one.count_le (.entered a)
  have after := two.count_le (.entered a)
  by_cases between : q'.memo[a]? = none
  · have := two.entered between met
    omega
  · have := one.entered fresh between
    omega

theorem recalls {q q' : Query} (later : q.Grows q') {depth : Nat} {found : Option Instruction}
    {outcome : Option Node} (recalled : q.Recalls depth found outcome) :
    q'.Recalls depth found outcome :=
  ⟨recalled.absent, recalled.capped, fun same deep => later.memo (recalled.memo same deep)⟩

/-- An address is entered, something is done, and the address is settled. -/
theorem settle {query query' settled : Query} {address : Address} {outcome : Option Node}
    (fresh : query.memo[address]? = none)
    (grows : (query.log (.entered address)).Grows query')
    (memo : settled.memo = query'.memo.insert address outcome)
    (journal : query'.journal <:+ settled.journal) : query.Grows settled := by
  refine ⟨fun {a o} found => ?_,
    ((List.suffix_cons _ _).trans grows.journal).trans journal, fun {a} unmet met => ?_⟩
  · rw [memo, getElem?_memo_insert]
    split
    · rename_i here
      simp [here, fresh] at found
    · exact grows.memo found
  · -- the entry in the journal comes before all that is done in between
    have counted : query'.journal.count (.entered a) ≤ settled.journal.count (.entered a) :=
      journal.sublist.count_le _
    have grew := grows.count_le (.entered a)
    simp only [Query.log, List.count_cons] at grew
    by_cases here : a = address
    · subst here
      simp only [beq_self_eq_true, if_true] at grew
      omega
    · rw [memo, getElem?_memo_insert, if_neg here] at met
      have := grows.entered unmet met
      simp only [Query.log, List.count_cons] at this
      omega

end Grows

/-- Something is remembered anew only if there was depth to enter an address. -/
theorem pos_of_remembered {query query' : Query} {depth : Nat} {a : Address}
    {outcome : Option Node} (still : depth = 0 → query'.memo = query.memo)
    (unmet : query.memo[a]? = none) (remembered : query'.memo[a]? = some outcome) : 0 < depth := by
  apply Nat.pos_of_ne_zero
  intro zero
  rw [still zero, unmet] at remembered
  cases remembered

theorem Recalls.of_some {query : Query} {depth : Nat} {found : Option Instruction} {node : Node}
    (recalls : query.Recalls depth found (some node)) :
    ∃ i, found = some i ∧ query.memo[i.addr]? = some (some node) := by
  cases found with
  | none => cases recalls.absent rfl
  | some i =>
    refine ⟨i, rfl, recalls.memo rfl (Nat.pos_of_ne_zero fun zero => ?_)⟩
    cases recalls.capped zero

end Query

namespace Kept

theorem absent (depth : Nat) (query : Query) : Kept depth none query none query where
  grows := .refl query
  recalls := ⟨fun _ => rfl, fun _ => rfl, fun same => nomatch same⟩
  still _ := rfl

theorem capped (i : Instruction) (query : Query) : Kept 0 (some i) query none query where
  grows := .refl query
  recalls := ⟨fun _ => rfl, fun _ => rfl, fun _ deep => absurd deep (Nat.lt_irrefl 0)⟩
  still _ := rfl

theorem remembered (depth : Nat) {i : Instruction} {query : Query} {outcome : Option Node}
    (hit : query.memo[i.addr]? = some outcome) : Kept (depth + 1) (some i) query outcome query where
  grows := .refl query
  recalls := by
    refine ⟨fun same => (nomatch same), fun zero => (nomatch zero), fun same _ => ?_⟩
    cases same
    exact hit
  still _ := rfl

end Kept

/-! ## Inputs -/

namespace Threaded

theorem mono {explains explains' : Explaining}
    (weaken : ∀ {found q o q'}, explains found q o q' → explains' found q o q')
    {loads : Loads} {query query' : Query} {inputs : Inputs}
    (run : Threaded explains loads query inputs query') :
    Threaded explains' loads query inputs query' := by
  induction run with
  | nil => exact .nil
  | cons head _ ih => exact .cons (weaken head) ih

theorem registers {explains : Explaining} {loads : Loads} {query query' : Query} {inputs : Inputs}
    (run : Threaded explains loads query inputs query') :
    inputs.registers = loads.map (·.1) := by
  induction run with
  | nil => rfl
  | @cons r found rest _ _ _ input inputs _ _ ih => cases input <;> simp [Inputs.cons, Inputs.registers, ih]

/-- States that every single run relates are related by all runs together. -/
theorem relates {R : Query → Query → Prop} (refl : ∀ q, R q q)
    (trans : ∀ {q q' q''}, R q q' → R q' q'' → R q q'') {explains : Explaining}
    (each : ∀ {found q o q'}, explains found q o q' → R q q')
    {loads : Loads} {query query' : Query} {inputs : Inputs}
    (run : Threaded explains loads query inputs query') : R query query' := by
  induction run with
  | nil => exact refl _
  | cons head _ ih => exact trans (each head) ih

theorem grows {explains : Explaining}
    (each : ∀ {found q o q'}, explains found q o q' → Query.Grows q q')
    {loads : Loads} {query query' : Query} {inputs : Inputs}
    (run : Threaded explains loads query inputs query') : query.Grows query' :=
  run.relates (R := Query.Grows) .refl .trans each

/-- When the last definition has been explained, the outcomes of all are remembered. -/
theorem recalls {depth : Nat} {explains : Explaining}
    (each : ∀ {found q o q'}, explains found q o q' → Kept depth found q o q')
    {loads : Loads} {query query' : Query} {inputs : Inputs}
    (run : Threaded explains loads query inputs query') {r : Register}
    {found : Option Instruction} (member : (r, found) ∈ loads) :
    ∃ o, query'.Recalls depth found o := by
  induction run with
  | nil => cases member
  | @cons s other rest _ _ _ input _ head tail ih =>
    cases member with
    | head =>
      exact ⟨input, (tail.grows fun h => (each h).grows).recalls (each head).recalls⟩
    | tail _ member => exact ih member

/-- The runs explain the definitions that are listed. -/
theorem restrict {explains : Explaining} {loads : Loads} {query query' : Query} {inputs : Inputs}
    (run : Threaded explains loads query inputs query') :
    Threaded (fun found q o q' => explains found q o q' ∧ ∃ r, (r, found) ∈ loads)
      loads query inputs query' := by
  induction run with
  | nil => exact .nil
  | cons head _ ih =>
    refine .cons ⟨head, _, .head _⟩ (ih.mono ?_)
    rintro _ _ _ _ ⟨explained, r, member⟩
    exact ⟨explained, r, .tail _ member⟩

/-- What each run adds to the state (`I`) and says of its definition and outcome (`A`) holds of
all definitions when the last one has been explained. -/
theorem collect {depth : Nat} {I : Query → Prop}
    {A : Option Instruction → Option Node → Query → Prop} {loads : Loads} {query query' : Query}
    {inputs : Inputs}
    (run : Threaded (fun found q o q' => Kept depth found q o q' ∧ (I q → I q' ∧ A found o q'))
      loads query inputs query')
    (stable : ∀ {found o q q'}, Query.Grows q q' → A found o q → A found o q')
    (start : I query) :
    I query' ∧ ∀ r o, (r, o) ∈ inputs.toList →
      ∃ found, (r, found) ∈ loads ∧ query'.Recalls depth found o ∧ A found o query' := by
  induction run with
  | nil => exact ⟨start, fun r o member => by simp [Inputs.toList] at member⟩
  | @cons r found rest _ _ _ input inputs head tail ih =>
    obtain ⟨kept, explained⟩ := head
    obtain ⟨between, answer⟩ := explained start
    obtain ⟨after, others⟩ := ih between
    have grows := tail.grows fun h => h.1.grows
    refine ⟨after, fun s o member => ?_⟩
    rw [Inputs.toList_cons, List.mem_cons] at member
    rcases member with head | tail
    · cases head
      exact ⟨found, .head _, grows.recalls kept.recalls, stable grows answer⟩
    · obtain ⟨other, member, rest⟩ := others s o tail
      exact ⟨other, .tail _ member, rest⟩

end Threaded

theorem Inputs.registers_eq_map (inputs : Inputs) : inputs.registers = inputs.toList.map (·.1) := by
  cases inputs with
  | nil => rfl
  | unresolved r rest => simp [registers, toList, registers_eq_map rest]
  | resolved r node rest => simp [registers, toList, registers_eq_map rest]

namespace Gathered

section

variable {store : Store} {limits : Limits} {i : Instruction} {plan : InputPlan}
  {query query' : Query} {inputs : Inputs}

theorem mono {explains explains' : Explaining}
    (weaken : ∀ {found q o q'}, explains found q o q' → explains' found q o q')
    (gathered : Gathered store limits explains i plan query inputs query') :
    Gathered store limits explains' i plan query inputs query' := by
  cases gathered with
  | each run => exact .each (run.mono weaken)
  | shared run => exact .shared (weaken run)

theorem registers {explains : Explaining}
    (gathered : Gathered store limits explains i plan query inputs query') :
    inputs.registers = plan.registers := by
  cases gathered with
  | each run => simp [run.registers, Store.recentLoads_value, InputPlan.registers, Function.comp_def]
  | shared run => simp [Inputs.registers_eq_map, InputPlan.registers, Function.comp_def]

/-- As `Threaded.relates`, from the state in which the scans of the searches are logged. -/
theorem relates {R : Query → Query → Prop} (refl : ∀ q, R q q)
    (trans : ∀ {q q' q''}, R q q' → R q' q'' → R q q'') {explains : Explaining}
    (each : ∀ {found q o q'}, explains found q o q' → R q q')
    (gathered : Gathered store limits explains i plan query inputs query') :
    R (query.logScans (store.inputOrigins limits i plan)) query' := by
  cases gathered with
  | each run => exact run.relates refl trans each
  | shared run => exact each run

theorem grows {explains : Explaining}
    (each : ∀ {found q o q'}, explains found q o q' → Query.Grows q q')
    (gathered : Gathered store limits explains i plan query inputs query') :
    query.Grows query' :=
  (Query.Grows.logScans _ _).trans (gathered.relates (R := Query.Grows) .refl .trans each)

theorem still {explains : Explaining}
    (each : ∀ {found q o q'}, explains found q o q' → q'.memo = q.memo)
    (gathered : Gathered store limits explains i plan query inputs query') :
    query'.memo = query.memo :=
  gathered.relates (R := fun q q' => q'.memo = q.memo) (fun _ => rfl)
    (fun one two => two.trans one) each

theorem recalls {depth : Nat} {explains : Explaining}
    (each : ∀ {found q o q'}, explains found q o q' → Kept depth found q o q')
    (notMoved : i.isOf "move-result" = false) (planned : i.inputPlan? = some plan)
    (gathered : Gathered store limits explains i plan query inputs query') {d : Instruction}
    (depends : store.DependsOn limits i d) : ∃ o, query'.Recalls depth (some d) o := by
  cases depends with
  | moved moved _ => simp [notMoved] at moved
  | @each registers r _ _ planned' member found =>
    cases planned.symm.trans planned'
    cases gathered with
    | each run =>
      rw [Store.recentLoads_value_eq_recentLoad] at run
      exact found ▸ run.recalls each (List.mem_map_of_mem member)
  | shared _ _ planned' found =>
    cases planned.symm.trans planned'
    cases gathered with
    | shared run => exact ⟨_, found ▸ (each run).recalls⟩

/-- The runs explain definitions that the instruction depends on. -/
theorem restrict {explains : Explaining} (notLeaf : i.isAnyOf leafFamilies = false)
    (notMoved : i.isOf "move-result" = false) (planned : i.inputPlan? = some plan)
    (gathered : Gathered store limits explains i plan query inputs query') :
    Gathered store limits (fun found q o q' => explains found q o q' ∧
      ∀ d, found = some d → store.DependsOn limits i d) i plan query inputs query' := by
  cases gathered with
  | each run =>
    refine .each (run.restrict.mono ?_)
    rintro found _ _ _ ⟨explained, r, member⟩
    refine ⟨explained, fun d same => ?_⟩
    rw [Store.recentLoads_value_eq_recentLoad, List.mem_map] at member
    obtain ⟨s, wanted, load⟩ := member
    exact .each notLeaf notMoved planned wanted ((Prod.mk.inj load).2.trans same)
  | shared run => exact .shared ⟨run, fun d found => .shared notLeaf notMoved planned found⟩

/-- As `Threaded.collect`: every input of an instruction is the outcome of explaining the source
of its register. -/
theorem collect {depth : Nat} {I : Query → Prop}
    {A : Option Instruction → Option Node → Query → Prop}
    (gathered : Gathered store limits (fun found q o q' => Kept depth found q o q' ∧
      (I q → I q' ∧ A found o q')) i plan query inputs query')
    (planned : i.inputPlan? = some plan) (scans : ∀ {q} origins, I q → I (q.logScans origins))
    (stable : ∀ {found o q q'}, Query.Grows q q' → A found o q → A found o q')
    (start : I query) :
    I query' ∧ ∀ r o, (r, o) ∈ inputs.toList → r ∈ plan.registers ∧
      query'.Recalls depth (store.source limits i r) o ∧ A (store.source limits i r) o query' := by
  cases gathered with
  | @each registers _ _ _ run =>
    rw [Store.recentLoads_value_eq_recentLoad] at run
    obtain ⟨after, answers⟩ := run.collect stable (scans _ start)
    refine ⟨after, fun r o member => ?_⟩
    obtain ⟨found, member, answer⟩ := answers r o member
    obtain ⟨s, wanted, same⟩ := List.mem_map.mp member
    obtain ⟨rfl, rfl⟩ := Prod.mk.inj same
    rw [Store.source_each planned]
    exact ⟨wanted, answer⟩
  | @shared registers kind _ _ input run =>
    obtain ⟨kept, explained⟩ := run
    obtain ⟨after, answer⟩ := explained (scans _ start)
    refine ⟨after, fun r o member => ?_⟩
    rw [Inputs.toList_ofList] at member
    obtain ⟨s, wanted, same⟩ := List.mem_map.mp member
    obtain ⟨rfl, rfl⟩ := Prod.mk.inj same
    rw [Store.source_shared planned]
    exact ⟨wanted, kept.recalls, answer⟩

end

end Gathered

/-! ## Induction over a run -/

namespace Entered

variable {store : Store} {limits : Limits} {i : Instruction}

theorem mono {explains explains' : Explaining}
    (weaken : ∀ {found q o q'}, explains found q o q' → explains' found q o q')
    {query query' : Query} {outcome : Option Node}
    (step : Entered store limits explains i query outcome query') :
    Entered store limits explains' i query outcome query' := by
  cases step with
  | leaf leaf => exact .leaf leaf
  | moved moved run => exact .moved moved (weaken run)
  | unreadable notLeaf notMoved unplanned => exact .unreadable notLeaf notMoved unplanned
  | node notLeaf notMoved planned gathered settles =>
    exact .node notLeaf notMoved planned (gathered.mono weaken) settles

theorem kept {depth : Nat} {query query' : Query} {outcome : Option Node}
    (fresh : query.memo[i.addr]? = none)
    (step : Entered store limits (Kept depth) i (query.log (.entered i.addr)) outcome query') :
    Kept (depth + 1) (some i) query outcome query' := by
  -- all that is left after the definitions is to settle the address
  have settled : ∀ {between settled : Query}, (query.log (.entered i.addr)).Grows between →
      settled.memo = between.memo.insert i.addr outcome → between.journal <:+ settled.journal →
      Kept (depth + 1) (some i) query outcome settled := by
    intro between settled grows memo journal
    refine ⟨grows.settle fresh memo journal,
      ⟨fun same => (nomatch same), fun zero => (nomatch zero), fun {j} same _ => ?_⟩,
      fun zero => (nomatch zero)⟩
    cases same
    simp [memo]
  cases step with
  | leaf leaf => exact settled (.refl _) rfl (List.suffix_cons _ _)
  | moved moved run =>
    exact settled ((Query.Grows.logScans _ _).trans run.grows) rfl (List.suffix_cons _ _)
  | unreadable notLeaf notMoved unplanned =>
    exact settled (.refl _) rfl (List.suffix_cons _ _)
  | node notLeaf notMoved planned gathered settles =>
    have grows := gathered.grows fun kept => kept.grows
    cases settles with
    | kept _ memo _ journal => exact settled grows memo (journal ▸ List.suffix_cons _ _)
    | dropped _ memo _ journal =>
      exact settled grows memo (journal ▸ (List.suffix_cons _ _).trans (List.suffix_cons _ _))

end Entered

namespace Store

theorem kept_explainWithin (store : Store) (limits : Limits) (depth : Nat)
    (found : Option Instruction) (query : Query) :
    Kept depth found query (store.explainWithin limits depth found query).1
      (store.explainWithin limits depth found query).2 :=
  store.explainWithin_rule limits .absent .capped (fun depth _ _ _ hit => .remembered depth hit)
    (fun _ _ _ _ _ fresh step => step.kept fresh) depth found query

/-- The induction over runs: what holds where nothing is entered, and passes from the
definitions that an instruction depends on to the instruction, holds of every run. -/
theorem explainWithin_induction (store : Store) (limits : Limits) {P : Nat → Explaining}
    (absent : ∀ depth query, P depth none query none query)
    (capped : ∀ i query, P 0 (some i) query none query)
    (remembered : ∀ depth (i : Instruction) (query : Query) outcome,
      query.memo[i.addr]? = some outcome → P (depth + 1) (some i) query outcome query)
    (entered : ∀ depth (i : Instruction) (query : Query) outcome query',
      query.memo[i.addr]? = none →
      Entered store limits (fun found q o q' => Kept depth found q o q' ∧ P depth found q o q') i
        (query.log (.entered i.addr)) outcome query' →
      P (depth + 1) (some i) query outcome query')
    (depth : Nat) (found : Option Instruction) (query : Query) :
    P depth found query (store.explainWithin limits depth found query).1
      (store.explainWithin limits depth found query).2 := by
  -- `Kept` goes through the induction together with `P`
  refine (store.explainWithin_rule limits
    (P := fun depth found q o q' => Kept depth found q o q' ∧ P depth found q o q')
    ?_ ?_ ?_ ?_ depth found query).2
  · exact fun depth query => ⟨.absent depth query, absent depth query⟩
  · exact fun i query => ⟨.capped i query, capped i query⟩
  · exact fun depth i query outcome hit =>
      ⟨.remembered depth hit, remembered depth i query outcome hit⟩
  · intro depth i query outcome query' fresh step
    exact ⟨(step.mono fun h => h.1).kept fresh, entered depth i query outcome query' fresh step⟩

/-! ## Sequences of questions -/

/-- Explains several instructions in one query, one after the other. -/
def explainEach (store : Store) (limits : Limits) :
    List Instruction → Query → List (Option Node) × Query
  | [], query => ([], query)
  | i :: rest, query =>
    let (outcome, query) := store.explainIn limits i query
    let (outcomes, query) := store.explainEach limits rest query
    (outcome :: outcomes, query)

theorem grows_explainIn (store : Store) (limits : Limits) (i : Instruction) (query : Query) :
    query.Grows (store.explainIn limits i query).2 :=
  (store.kept_explainWithin limits _ _ _).grows

theorem memo_explainIn (store : Store) (limits : Limits) (i : Instruction) (query : Query) :
    (store.explainIn limits i query).2.memo[i.addr]? = some (store.explainIn limits i query).1 :=
  (store.kept_explainWithin limits _ _ _).recalls.memo rfl (Nat.succ_pos _)

theorem grows_explainEach (store : Store) (limits : Limits) (asked : List Instruction)
    (query : Query) : query.Grows (store.explainEach limits asked query).2 := by
  induction asked generalizing query with
  | nil => exact .refl query
  | cons i rest ih => exact (store.grows_explainIn limits i query).trans (ih _)

/-- Every instruction that was asked about is remembered. -/
theorem memo_explainEach (store : Store) (limits : Limits) {asked : List Instruction}
    {i : Instruction} (member : i ∈ asked) (query : Query) :
    ∃ outcome, (store.explainEach limits asked query).2.memo[i.addr]? = some outcome := by
  induction asked generalizing query with
  | nil => cases member
  | cons j rest ih =>
    cases member with
    | head => exact ⟨_, (store.grows_explainEach limits rest _).memo (store.memo_explainIn limits i query)⟩
    | tail _ member => exact ih member _

/-- What one question preserves and says of its outcome holds along every sequence of
questions. -/
theorem explainEach_induction (store : Store) (limits : Limits) {I : Query → Prop}
    {A : Instruction → Option Node → Prop} {asked : List Instruction}
    (step : ∀ i ∈ asked, ∀ query, I query →
      I (store.explainIn limits i query).2 ∧ A i (store.explainIn limits i query).1)
    {query : Query} (start : I query) :
    I (store.explainEach limits asked query).2 ∧
      List.Forall₂ A asked (store.explainEach limits asked query).1 := by
  induction asked generalizing query with
  | nil => exact ⟨start, .nil⟩
  | cons i rest ih =>
    obtain ⟨between, answer⟩ := step i (.head _) query start
    obtain ⟨after, answers⟩ := ih (fun j member => step j (.tail _ member)) between
    exact ⟨after, .cons answer answers⟩

end Store

end Backflow
