import Backflow.Proofs.Run
import Backflow.Proofs.Walk

/-! # Remembering is invisible

Without a memory, without recorded sizes and without a limit of depth, the explanation of an
instruction is given by plain unfolding of definitions.  A query gives exactly that, whatever it
was asked before, as long as no chain of definitions is longer than its limit of depth.

* `Unfolds` is the plain explanation; `Unfolds.unique` says that there is at most one.
* `Faithful` is the invariant: what is remembered is the plain explanation of the instruction
  at the address, and what is recorded is the number of its addresses.
* `Store.shortWithin` decides whether all chains of definitions are short.

A size is recorded for an address and used again for the next node with that address.  This is
right because both nodes unfold from the same instruction, so they are equal; and for the same
reason the walk counts all addresses of a node.
-/

namespace Backflow

/-- The plain explanation of a definition that a search may have found.  An instruction that
reads registers is explained by the sources of these, if its operands can be read and if the
node that comes out has no more addresses than the limit. -/
inductive Unfolds (store : Store) (limits : Limits) : Option Instruction → Option Node → Prop
  | absent : Unfolds store limits none none
  | leaf {i : Instruction} (leaf : i.isAnyOf leafFamilies = true) :
      Unfolds store limits (some i) (some (.leaf i))
  | moved {i : Instruction} {outcome : Option Node} (moved : i.isOf "move-result" = true)
      (call : Unfolds store limits (store.recentInvocation i).value outcome) :
      Unfolds store limits (some i) outcome
  | unreadable {i : Instruction} (notLeaf : i.isAnyOf leafFamilies = false)
      (notMoved : i.isOf "move-result" = false) (unplanned : i.inputPlan? = none) :
      Unfolds store limits (some i) none
  | node {i : Instruction} {plan : InputPlan} {inputs : Inputs}
      (notLeaf : i.isAnyOf leafFamilies = false) (notMoved : i.isOf "move-result" = false)
      (planned : i.inputPlan? = some plan) (registers : inputs.registers = plan.registers)
      (explained : ∀ r input, (r, input) ∈ inputs.toList →
        Unfolds store limits (store.source limits i r) input)
      (fits : (Node.internal i inputs).addresses.card ≤ limits.maxGraphSize) :
      Unfolds store limits (some i) (some (.internal i inputs))
  | oversized {i : Instruction} {plan : InputPlan} {inputs : Inputs}
      (notLeaf : i.isAnyOf leafFamilies = false) (notMoved : i.isOf "move-result" = false)
      (planned : i.inputPlan? = some plan) (registers : inputs.registers = plan.registers)
      (explained : ∀ r input, (r, input) ∈ inputs.toList →
        Unfolds store limits (store.source limits i r) input)
      (large : limits.maxGraphSize < (Node.internal i inputs).addresses.card) :
      Unfolds store limits (some i) none

/-! ## Inputs are determined by their registers -/

namespace Inputs

theorem ofList_toList (inputs : Inputs) : ofList inputs.toList = inputs := by
  cases inputs with
  | nil => rfl
  | unresolved r rest => rw [toList, ofList, ofList_toList rest, cons]
  | resolved r node rest => rw [toList, ofList, ofList_toList rest, cons]

/-- Inputs of the same registers, compared one by one. -/
def Alike (alike : Option Node → Option Node → Prop) (first second : Inputs) : Prop :=
  List.Forall₂ (fun x y => x.1 = y.1 ∧ alike x.2 y.2) first.toList second.toList

theorem alike_of_registers {alike : Option Node → Option Node → Prop} {first second : Inputs}
    (registers : first.registers = second.registers)
    (each : ∀ r x y, (r, x) ∈ first.toList → (r, y) ∈ second.toList → alike x y) :
    Alike alike first second := by
  rw [registers_eq_map, registers_eq_map] at registers
  rw [Alike]
  generalize first.toList = xs at registers each
  generalize second.toList = ys at registers each
  induction xs generalizing ys with
  | nil =>
    obtain rfl := List.map_eq_nil_iff.mp registers.symm
    exact .nil
  | cons x xs ih =>
    cases ys with
    | nil => cases registers
    | cons y ys =>
      obtain ⟨r, x⟩ := x
      obtain ⟨s, y⟩ := y
      simp only [List.map_cons, List.cons.injEq] at registers
      obtain ⟨rfl, registers⟩ := registers
      exact .cons ⟨rfl, each r x y (.head _) (.head _)⟩
        (ih ys registers fun t a b ha hb => each t a b (.tail _ ha) (.tail _ hb))

theorem eq_of_alike {first second : Inputs} (alike : Alike Eq first second) : first = second := by
  rw [← ofList_toList first, ← ofList_toList second]
  congr 1
  exact List.forall₂_eq_eq_eq ▸ alike.imp fun x y same => Prod.ext same.1 same.2

theorem eq_of_registers {first second : Inputs} (registers : first.registers = second.registers)
    (same : ∀ r x y, (r, x) ∈ first.toList → (r, y) ∈ second.toList → x = y) :
    first = second :=
  eq_of_alike (alike_of_registers registers same)

end Inputs

/-! ## The plain explanation is unique -/

namespace Unfolds

variable {store : Store} {limits : Limits}

/-- There is at most one plain explanation. -/
theorem unique {found : Option Instruction} {first second : Option Node}
    (h : Unfolds store limits found first) (h' : Unfolds store limits found second) :
    first = second := by
  induction h generalizing second with
  | absent => cases h'; rfl
  | leaf leaf =>
    cases h' with
    | leaf => rfl
    | moved moved => simp [Instruction.leaf_not_moved leaf] at moved
    | unreadable notLeaf => simp [leaf] at notLeaf
    | node notLeaf => simp [leaf] at notLeaf
    | oversized notLeaf => simp [leaf] at notLeaf
  | moved moved _ ih =>
    cases h' with
    | leaf leaf => simp [Instruction.leaf_not_moved leaf] at moved
    | moved _ call => exact ih call
    | unreadable _ notMoved => simp [moved] at notMoved
    | node _ notMoved => simp [moved] at notMoved
    | oversized _ notMoved => simp [moved] at notMoved
  | unreadable notLeaf notMoved unplanned =>
    cases h' with
    | leaf leaf => simp [leaf] at notLeaf
    | moved moved => simp [moved] at notMoved
    | unreadable => rfl
    | node _ _ planned => simp [unplanned] at planned
    | oversized _ _ planned => simp [unplanned] at planned
  | node notLeaf notMoved planned registers _ fits ih =>
    -- the inputs agree register by register, so both are counted alike
    cases h' with
    | leaf leaf => simp [leaf] at notLeaf
    | moved moved => simp [moved] at notMoved
    | unreadable _ _ unplanned => simp [unplanned] at planned
    | node _ _ planned' registers' explained' _ =>
      cases planned.symm.trans planned'
      rw [Inputs.eq_of_registers (registers.trans registers'.symm)
        fun r x y hx hy => ih r x hx (explained' r y hy)]
    | oversized _ _ planned' registers' explained' large =>
      cases planned.symm.trans planned'
      rw [Inputs.eq_of_registers (registers.trans registers'.symm)
        fun r x y hx hy => ih r x hx (explained' r y hy)] at fits
      omega
  | oversized notLeaf notMoved planned registers _ large ih =>
    cases h' with
    | leaf leaf => simp [leaf] at notLeaf
    | moved moved => simp [moved] at notMoved
    | unreadable => rfl
    | node _ _ planned' registers' explained' fits =>
      cases planned.symm.trans planned'
      rw [Inputs.eq_of_registers (registers.trans registers'.symm)
        fun r x y hx hy => ih r x hx (explained' r y hy)] at large
      omega
    | oversized => rfl

/-! ## Parts of plain explanations -/

theorem leaf_inv {found : Option Instruction} {i : Instruction}
    (h : Unfolds store limits found (some (.leaf i))) : i.isAnyOf leafFamilies = true := by
  generalize same : some (Node.leaf i) = outcome at h
  induction h with
  | leaf leaf => cases same; exact leaf
  | moved _ _ ih => exact ih same
  | absent | unreadable | node | oversized => cases same

theorem internal_inv {found : Option Instruction} {i : Instruction} {inputs : Inputs}
    (h : Unfolds store limits found (some (.internal i inputs))) :
    Unfolds store limits (some i) (some (.internal i inputs)) ∧
      i.isAnyOf leafFamilies = false ∧ i.isOf "move-result" = false ∧
      ∃ plan, i.inputPlan? = some plan ∧ inputs.registers = plan.registers ∧
        ∀ r input, (r, input) ∈ inputs.toList →
          Unfolds store limits (store.source limits i r) input := by
  generalize same : some (Node.internal i inputs) = outcome at h
  induction h with
  | node notLeaf notMoved planned registers explained fits =>
    cases same
    exact ⟨.node notLeaf notMoved planned registers explained fits, notLeaf, notMoved, _, planned,
      registers, explained⟩
  | moved _ _ ih => exact ih same
  | absent | leaf | unreadable | oversized => cases same

/-- A node that unfolds from a definition unfolds from its own instruction. -/
theorem self {found : Option Instruction} {node : Node}
    (h : Unfolds store limits found (some node)) :
    Unfolds store limits (some node.instr) (some node) := by
  cases node with
  | leaf i => exact .leaf h.leaf_inv
  | internal i inputs => exact h.internal_inv.1

theorem holds (addressed : store.Addressed) {found : Option Instruction} {node : Node}
    (h : Unfolds store limits found (some node)) (held : ∀ i, found = some i → store.Holds i) :
    store.Holds node.instr := by
  generalize same : some node = outcome at h
  induction h with
  | leaf leaf => cases same; exact held _ rfl
  | moved _ _ ih => exact ih (fun d call => addressed.holds_of_recentInvocation call) same
  | node => cases same; exact held _ rfl
  | absent | unreadable | oversized => cases same

end Unfolds

/-- Inputs that unfold from the sources of the registers that an instruction reads. -/
structure Assembled (store : Store) (limits : Limits) (i : Instruction) (inputs : Inputs) :
    Prop where
  notLeaf : i.isAnyOf leafFamilies = false
  notMoved : i.isOf "move-result" = false
  registers : ∃ plan, i.inputPlan? = some plan ∧ inputs.registers = plan.registers
  explained : ∀ r input, (r, input) ∈ inputs.toList →
    Unfolds store limits (store.source limits i r) input

namespace Assembled

variable {store : Store} {limits : Limits} {i : Instruction} {inputs inputs' : Inputs}

theorem unique (first : Assembled store limits i inputs) (second : Assembled store limits i inputs') :
    inputs = inputs' := by
  obtain ⟨plan, planned, registers⟩ := first.registers
  obtain ⟨plan', planned', registers'⟩ := second.registers
  cases planned.symm.trans planned'
  exact Inputs.eq_of_registers (registers.trans registers'.symm)
    fun r x y hx hy => (first.explained r x hx).unique (second.explained r y hy)

theorem of_unfolds {found : Option Instruction}
    (h : Unfolds store limits found (some (.internal i inputs))) :
    Assembled store limits i inputs := by
  obtain ⟨_, notLeaf, notMoved, plan, planned, registers, explained⟩ := h.internal_inv
  exact ⟨notLeaf, notMoved, ⟨plan, planned, registers⟩, explained⟩

theorem input (addressed : store.Addressed) (assembled : Assembled store limits i inputs)
    {r : Register} {child : Node} (member : (r, some child) ∈ inputs.toList) :
    Unfolds store limits (some child.instr) (some child) ∧ store.Holds child.instr := by
  obtain ⟨plan, planned, registers⟩ := assembled.registers
  have unfolds := assembled.explained r _ member
  have wanted : r ∈ plan.registers := by
    rw [← registers, Inputs.registers_eq_map]
    exact List.mem_map_of_mem (f := (·.1)) member
  exact ⟨unfolds.self, unfolds.holds addressed fun d found => addressed.holds_of_dependsOn
    (Store.dependsOn_source assembled.notLeaf assembled.notMoved planned wanted found)⟩

/-- Every part of a node below its root unfolds from its own instruction. -/
theorem part (addressed : store.Addressed) (assembled : Assembled store limits i inputs)
    {node : Node} (reaches : (Node.internal i inputs).Reaches node) :
    node = .internal i inputs ∨
      Unfolds store limits (some node.instr) (some node) ∧ store.Holds node.instr := by
  induction reaches with
  | refl => exact .inl rfl
  | @tail parent child _ input ih =>
    refine .inr ?_
    rcases ih with rfl | ⟨unfolds, _⟩
    · obtain ⟨r, member⟩ := Node.input_internal.mp input
      exact assembled.input addressed member
    · cases input with
      | mk member => exact (of_unfolds unfolds).input addressed member

/-- A node that has been put together has one node at each address. -/
theorem keyed (addressed : store.Addressed) (held : store.Holds i)
    (assembled : Assembled store limits i inputs) : (Node.internal i inputs).Keyed := by
  have notLeaf := assembled.notLeaf
  -- a part at the address of the root unfolds from the same instruction as the root
  have root : ∀ node, Unfolds store limits (some node.instr) (some node) →
      store.Holds node.instr → node.addr = i.addr → node = .internal i inputs := by
    intro node unfolds holds same
    cases node with
    | leaf j =>
      obtain rfl : j = i := holds.eq held same
      simp [unfolds.leaf_inv] at notLeaf
    | internal j inputs' =>
      obtain rfl : j = i := holds.eq held same
      rw [(of_unfolds unfolds).unique assembled]
  intro m n hm hn same
  rcases assembled.part addressed hm with rfl | ⟨um, hm⟩ <;>
    rcases assembled.part addressed hn with rfl | ⟨un, hn⟩
  · rfl
  · exact (root n un hn same.symm).symm
  · exact root m um hm same
  · have := hm.eq hn same
    rw [this] at um
    exact Option.some.inj (um.unique un)

end Assembled

/-! ## What a query remembers -/

/-- The state of a query that has explained instructions of a set `Seen`: it remembers plain
explanations, it records numbers of addresses, and with an instruction it has settled all
definitions that the instruction depends on. -/
structure Faithful (store : Store) (limits : Limits) (Seen : Instruction → Prop) (query : Query) :
    Prop where
  memo : ∀ {a : Address} {outcome}, query.memo[a]? = some outcome →
    ∃ i, Seen i ∧ i.addr = a ∧ Unfolds store limits (some i) outcome
  sizes : ∀ {a : Address} {size}, query.sizes[a]? = some size →
    ∃ i inputs, store.Holds i ∧ i.addr = a ∧ Assembled store limits i inputs ∧
      size = (Node.internal i inputs).addresses.card
  closed : ∀ {i d : Instruction}, Seen i → query.memo[i.addr]? ≠ none →
    store.DependsOn limits i d → query.memo[d.addr]? ≠ none

namespace Faithful

variable {store : Store} {limits : Limits} {Seen : Instruction → Prop}

theorem empty : Faithful store limits Seen .empty where
  memo found := by simp [Query.empty] at found
  sizes found := by simp [Query.empty] at found
  closed _ met _ := absurd (by simp [Query.empty]) met

theorem logScans {query : Query} (origins : List Address)
    (faithful : Faithful store limits Seen query) :
    Faithful store limits Seen (query.logScans origins) :=
  ⟨faithful.memo, faithful.sizes, faithful.closed⟩

/-- An instruction is settled after the definitions that it depends on. -/
theorem settle {query query' : Query} {i : Instruction} {outcome : Option Node}
    (faithful : Faithful store limits Seen query) (held : ∀ j, Seen j → store.Holds j)
    (seen : Seen i) (unfolds : Unfolds store limits (some i) outcome)
    (before : ∀ d, store.DependsOn limits i d → query.memo[d.addr]? ≠ none)
    (memo : query'.memo = query.memo.insert i.addr outcome)
    (sizes : ∀ {a : Address} {size}, query'.sizes[a]? = some size → query.sizes[a]? = some size ∨
      a = i.addr ∧ ∃ inputs, Assembled store limits i inputs ∧
        size = (Node.internal i inputs).addresses.card) :
    Faithful store limits Seen query' := by
  have kept : ∀ {a : Address}, query.memo[a]? ≠ none → query'.memo[a]? ≠ none := by
    intro a met
    rw [memo, Query.getElem?_memo_insert]
    split
    · simp
    · exact met
  refine ⟨fun {a o} found => ?_, fun {a size} found => ?_, fun {j d} hj met depends => ?_⟩
  · rw [memo, Query.getElem?_memo_insert] at found
    split at found
    · rename_i here
      cases found
      exact ⟨i, seen, here.symm, unfolds⟩
    · exact faithful.memo found
  · rcases sizes found with found | ⟨rfl, inputs, assembled, rfl⟩
    · exact faithful.sizes found
    · exact ⟨i, inputs, held i seen, rfl, assembled, rfl⟩
  · rw [memo, Query.getElem?_memo_insert] at met
    split at met
    · rename_i here
      obtain rfl := (held j hj).eq (held i seen) here
      exact kept (before d depends)
    · exact kept (faithful.closed hj met depends)

/-- The number that is compared with the limit is the number of addresses of the node. -/
theorem count_eq {query : Query} (faithful : Faithful store limits Seen query)
    (addressed : store.Addressed) {i : Instruction} {inputs : Inputs} (held : store.Holds i)
    (assembled : Assembled store limits i inputs) :
    query.count (.internal i inputs) = (Node.internal i inputs).addresses.card := by
  unfold Query.count
  cases recorded : query.sizes[(Node.internal i inputs).addr]? with
  | none => exact (assembled.keyed addressed held).size_eq
  | some size =>
    obtain ⟨j, inputs', holds, same, assembled', rfl⟩ := faithful.sizes recorded
    obtain rfl := holds.eq held same
    rw [assembled'.unique assembled]
    rfl

/-- What an instruction depends on, over any number of steps, is settled with it. -/
theorem exists_memo {query : Query} (faithful : Faithful store limits Seen query)
    {i j : Instruction} (seen : Seen i) (closed : ∀ i d, Seen i → store.DependsOn limits i d → Seen d)
    (settled : ∃ outcome, query.memo[i.addr]? = some outcome)
    (path : Relation.ReflTransGen (store.DependsOn limits) i j) :
    ∃ outcome, query.memo[j.addr]? = some outcome := by
  simp only [← Option.ne_none_iff_exists'] at settled ⊢
  refine (Relation.ReflTransGen.head_induction_on
    (motive := fun k _ => Seen k → query.memo[k.addr]? ≠ none → query.memo[j.addr]? ≠ none)
    path (fun _ met => met) ?_) seen settled
  exact fun depends _ ih seen met => ih (closed _ _ seen depends) (faithful.closed seen met depends)

end Faithful

/-- No chain of definitions from `i` has `depth` steps or more. -/
def Store.Short (store : Store) (limits : Limits) (depth : Nat) (i : Instruction) : Prop :=
  ∀ path, List.IsChain (store.DependsOn limits) (i :: path) → path.length < depth

theorem Store.Short.step {store : Store} {limits : Limits} {depth : Nat} {i d : Instruction}
    (short : store.Short limits (depth + 1) i) (depends : store.DependsOn limits i d) :
    store.Short limits depth d := by
  intro path chain
  have := short (d :: path) (.cons_cons depends chain)
  rw [List.length_cons] at this
  omega

theorem Store.Short.pos {store : Store} {limits : Limits} {depth : Nat} {i : Instruction}
    (short : store.Short limits depth i) : 0 < depth :=
  short [] (.singleton i)

/-- A query asked about a set of instructions closed under definitions gives their plain
explanations and stays faithful. -/
theorem Store.faithful_explainWithin {store : Store} {limits : Limits} {Seen : Instruction → Prop}
    (addressed : store.Addressed) (held : ∀ i, Seen i → store.Holds i)
    (closed : ∀ i d, Seen i → store.DependsOn limits i d → Seen d)
    (depth : Nat) (found : Option Instruction) (query : Query) :
    (∀ i, found = some i → Seen i ∧ store.Short limits depth i) →
      Faithful store limits Seen query →
      Faithful store limits Seen (store.explainWithin limits depth found query).2 ∧
        Unfolds store limits found (store.explainWithin limits depth found query).1 := by
  refine store.explainWithin_induction limits (P := fun depth found q o q' =>
    (∀ i, found = some i → Seen i ∧ store.Short limits depth i) → Faithful store limits Seen q →
      Faithful store limits Seen q' ∧ Unfolds store limits found o) ?_ ?_ ?_ ?_ depth found query
  · exact fun depth query _ faithful => ⟨faithful, .absent⟩
  · -- the limit of depth is not reached, as all chains are short
    exact fun i query pre _ => absurd (pre i rfl).2.pos (Nat.lt_irrefl 0)
  · intro depth i query outcome hit pre faithful
    obtain ⟨j, seen, same, unfolds⟩ := faithful.memo hit
    obtain rfl := (held j seen).eq (held i (pre i rfl).1) same
    exact ⟨faithful, unfolds⟩
  · intro depth i query outcome query' _ step pre faithful
    obtain ⟨seen, short⟩ := pre i rfl
    have ready : ∀ d, store.DependsOn limits i d → Seen d ∧ store.Short limits depth d :=
      fun d depends => ⟨closed i d seen depends, short.step depends⟩
    have start : Faithful store limits Seen (query.log (.entered i.addr)) :=
      ⟨faithful.memo, faithful.sizes, faithful.closed⟩
    cases step with
    | leaf leaf =>
      refine ⟨start.settle held seen (.leaf leaf) (fun d depends => ?_) rfl .inl, .leaf leaf⟩
      have notLeaf := depends.notLeaf
      simp [leaf] at notLeaf
    | moved moved run =>
      obtain ⟨kept, explained⟩ := run
      obtain ⟨after, unfolds⟩ := explained (fun d call => ready d (.moved moved call))
        (start.logScans _)
      refine ⟨after.settle held seen (.moved moved unfolds) (fun d depends => ?_) rfl .inl,
        .moved moved unfolds⟩
      rw [kept.recalls.memo (depends.call moved) (ready d depends).2.pos]
      simp
    | unreadable notLeaf notMoved unplanned =>
      refine ⟨start.settle held seen (.unreadable notLeaf notMoved unplanned) (fun d depends => ?_)
        rfl .inl, .unreadable notLeaf notMoved unplanned⟩
      exact absurd unplanned (depends.planned notMoved)
    | node notLeaf notMoved planned gathered settles =>
      rename_i plan inputs mid
      have registers := gathered.registers
      obtain ⟨after, answers⟩ := Gathered.collect (I := Faithful store limits Seen)
        (A := fun found o _ => Unfolds store limits found o)
        ((gathered.restrict notLeaf notMoved planned).mono fun h => ⟨h.1.1, h.1.2 fun d same =>
          ready d (h.2 d same)⟩)
        planned (fun origins h => h.logScans origins) (fun _ h => h) start
      have assembled : Assembled store limits i inputs :=
        ⟨notLeaf, notMoved, ⟨_, planned, registers⟩, fun r o member => (answers r o member).2.2⟩
      have counted := after.count_eq addressed (held i seen) assembled
      -- all definitions have been explained with depth to spare, so all are remembered
      have settled : ∀ d, store.DependsOn limits i d → mid.memo[d.addr]? ≠ none := by
        intro d depends
        obtain ⟨o, recalls⟩ := gathered.recalls (fun h => h.1) notMoved planned depends
        rw [recalls.memo rfl (ready d depends).2.pos]
        simp
      cases settles with
      | kept fits memo sizes _ =>
        rw [counted] at fits
        have unfolds := Unfolds.node notLeaf notMoved planned registers assembled.explained fits
        refine ⟨after.settle held seen unfolds settled memo fun {a size} found => ?_, unfolds⟩
        rw [sizes, counted] at found
        split at found
        · rename_i here
          cases found
          exact .inr ⟨here, _, assembled, rfl⟩
        · exact .inl found
      | dropped large memo sizes _ =>
        rw [counted] at large
        have unfolds := Unfolds.oversized notLeaf notMoved planned registers assembled.explained large
        refine ⟨after.settle held seen unfolds settled memo fun {a size} found => ?_, unfolds⟩
        rw [sizes] at found
        split at found
        · cases found
        · exact .inl found

/-! ## Deciding that chains are short -/

namespace Store

/-- The definitions that the explanation of an instruction goes through, as a list. -/
def dependencies (store : Store) (limits : Limits) (i : Instruction) : List Instruction :=
  if i.isAnyOf leafFamilies then
    []
  else if i.isOf "move-result" then
    (store.recentInvocation i).value.toList
  else
    match i.inputPlan? with
    | none => []
    | some (.each registers) => registers.filterMap (store.recentLoad limits.maxHops i)
    | some (.shared _ kind) => (store.recentWrite kind i).value.toList

theorem mem_dependencies {store : Store} {limits : Limits} {i d : Instruction} :
    d ∈ store.dependencies limits i ↔ store.DependsOn limits i d := by
  unfold dependencies
  constructor
  · intro member
    split at member
    · cases member
    rename_i notLeaf
    rw [Bool.not_eq_true] at notLeaf
    split at member
    · rename_i moved
      exact .moved moved (by simpa using member)
    rename_i notMoved
    rw [Bool.not_eq_true] at notMoved
    split at member
    · cases member
    · rename_i planned
      obtain ⟨r, wanted, found⟩ := List.mem_filterMap.mp member
      exact .each notLeaf notMoved planned wanted found
    · rename_i planned
      exact .shared notLeaf notMoved planned (by simpa using member)
  · intro depends
    cases depends with
    | moved moved call => simp [Instruction.moved_not_leaf moved, moved, call]
    | each notLeaf notMoved planned member found =>
      simp only [notLeaf, notMoved, planned, Bool.false_eq_true, if_false]
      exact List.mem_filterMap.mpr ⟨_, member, found⟩
    | shared notLeaf notMoved planned found => simp [notLeaf, notMoved, planned, found]

/-- Follows all chains of definitions from `i`, and fails where one has `depth` steps. -/
def shortWithin (store : Store) (limits : Limits) : (depth : Nat) → Instruction → Bool
  | 0, _ => false
  | depth + 1, i => (store.dependencies limits i).all (store.shortWithin limits depth)

theorem shortWithin_iff {store : Store} {limits : Limits} {depth : Nat} {i : Instruction} :
    store.shortWithin limits depth i = true ↔ store.Short limits depth i := by
  induction depth generalizing i with
  | zero => simpa [shortWithin] using fun short : store.Short limits 0 i => by simpa using short.pos
  | succ depth ih =>
    simp only [shortWithin, List.all_eq_true, ih]
    constructor
    · intro steps path chain
      cases path with
      | nil => exact Nat.succ_pos _
      | cons d path =>
        obtain ⟨depends, rest⟩ := List.isChain_cons_cons.mp chain
        exact Nat.succ_lt_succ (steps d (mem_dependencies.mpr depends) path rest)
    · exact fun short d member => short.step (mem_dependencies.mp member)

instance (store : Store) (limits : Limits) (depth : Nat) (i : Instruction) :
    Decidable (store.Short limits depth i) :=
  decidable_of_iff _ shortWithin_iff

/-! ## Sequences of questions -/

/-- The instructions asked about and all that their explanations go through. -/
def Involves (store : Store) (limits : Limits) (asked : List Instruction) (j : Instruction) :
    Prop :=
  ∃ i ∈ asked, Relation.ReflTransGen (store.DependsOn limits) i j

theorem Involves.step {store : Store} {limits : Limits} {asked : List Instruction}
    {i d : Instruction} (involved : store.Involves limits asked i)
    (depends : store.DependsOn limits i d) : store.Involves limits asked d := by
  obtain ⟨first, member, path⟩ := involved
  exact ⟨first, member, path.tail depends⟩

theorem Involves.holds {store : Store} (addressed : store.Addressed) {limits : Limits}
    {asked : List Instruction} (held : ∀ i ∈ asked, store.Holds i) {j : Instruction}
    (involved : store.Involves limits asked j) : store.Holds j := by
  obtain ⟨i, member, path⟩ := involved
  exact addressed.holds_of_path (held i member) path

/-- If no chain of definitions is longer than the limit of depth, questions asked one after the
other in one query are each answered by the plain explanation, and the query remembers the
plain explanation of exactly the instructions that are involved. -/
theorem explainEach_unfolds {store : Store} (loaded : store.Loaded) (limits : Limits)
    (asked : List Instruction) (held : ∀ i ∈ asked, store.Holds i)
    (short : ∀ i ∈ asked, store.Short limits (limits.maxStage + 1) i) :
    List.Forall₂ (fun i outcome => ∀ o, Unfolds store limits (some i) o ↔ o = outcome)
        asked (store.explainEach limits asked .empty).1 ∧
      ∀ (a : Address) (o : Option Node),
        (store.explainEach limits asked .empty).2.memo[a]? = some o ↔
          ∃ j, store.Involves limits asked j ∧ j.addr = a ∧ Unfolds store limits (some j) o := by
  have involvedHeld : ∀ j, store.Involves limits asked j → store.Holds j :=
    fun j involved => involved.holds loaded.addressed held
  have step : ∀ i ∈ asked, ∀ query, Faithful store limits (store.Involves limits asked) query →
      Faithful store limits (store.Involves limits asked) (store.explainIn limits i query).2 ∧
        ∀ o, Unfolds store limits (some i) o ↔ o = (store.explainIn limits i query).1 := by
    intro i member query faithful
    obtain ⟨after, unfolds⟩ := faithful_explainWithin loaded.addressed involvedHeld
      (fun j d involved depends => involved.step depends) (limits.maxStage + 1) (some i) query
      (fun j same => by cases same; exact ⟨⟨i, member, .refl⟩, short i member⟩) faithful
    exact ⟨after, fun o => ⟨fun h => h.unique unfolds, fun same => same ▸ unfolds⟩⟩
  obtain ⟨faithful, answers⟩ := store.explainEach_induction limits
    (A := fun i outcome => ∀ o, Unfolds store limits (some i) o ↔ o = outcome) step Faithful.empty
  refine ⟨answers, fun a o => ⟨fun found => faithful.memo found, ?_⟩⟩
  rintro ⟨j, ⟨i, member, path⟩, rfl, unfolds⟩
  -- what is remembered for `j` is the plain explanation of an instruction at the same address
  obtain ⟨o', found⟩ := faithful.exists_memo ⟨i, member, .refl⟩
    (fun j d involved depends => involved.step depends)
    (store.memo_explainEach limits member .empty) path
  obtain ⟨j', involved', same, unfolds'⟩ := faithful.memo found
  obtain rfl := (involvedHeld j' involved').eq (involvedHeld j ⟨i, member, path⟩) same
  rw [found, unfolds.unique unfolds']

/-- A method that passes two constants to a call and the result of the call to another one. -/
def chained : Store :=
  Store.empty.load ⟨[⟨"La;->m()V",
    [⟨"const/4", [.reg ⟨.loc, 0⟩, .num "0x1"]⟩,
      ⟨"const/4", [.reg ⟨.loc, 1⟩, .num "0x2"]⟩,
      ⟨"invoke-static", [.regList [⟨.loc, 0⟩, ⟨.loc, 1⟩], .method "La;->f(II)I"]⟩,
      ⟨"move-result", [.reg ⟨.loc, 2⟩]⟩,
      ⟨"invoke-static", [.regList [⟨.loc, 2⟩, ⟨.loc, 0⟩], .method "La;->g(II)V"]⟩]⟩], none⟩

def chainedCalls : List Instruction :=
  [⟨4, 0, "invoke-static", [.regList [⟨.loc, 2⟩, ⟨.loc, 0⟩], .method "La;->g(II)V"]⟩,
    ⟨2, 0, "invoke-static", [.regList [⟨.loc, 0⟩, ⟨.loc, 1⟩], .method "La;->f(II)I"]⟩]

/-- With a limit of three addresses the outer call is given up and the inner one is kept. -/
theorem explainEach_unfolds_chained :
    (∀ i ∈ chainedCalls, chained.Holds i) ∧
      (∀ i ∈ chainedCalls, chained.Short ⟨3, 3, 5⟩ 4 i) ∧
      (chained.explainEach ⟨3, 3, 5⟩ chainedCalls .empty).1.map Option.isSome = [false, true] ∧
      List.Forall₂ (fun i outcome => ∀ o, Unfolds chained ⟨3, 3, 5⟩ (some i) o ↔ o = outcome)
        chainedCalls (chained.explainEach ⟨3, 3, 5⟩ chainedCalls .empty).1 := by
  have held : ∀ i ∈ chainedCalls, chained.Holds i := by decide +kernel
  have short : ∀ i ∈ chainedCalls, chained.Short ⟨3, 3, 5⟩ 4 i := by decide +kernel
  exact ⟨held, short, by decide +kernel,
    (explainEach_unfolds (.load .empty _) ⟨3, 3, 5⟩ chainedCalls held short).1⟩

end Store

end Backflow
