import Backflow.Proofs.Constants
import Backflow.Proofs.Lockstep

/-! # Queries with higher limits

A graph built within some limits is the graph built within higher ones with inputs left open, so no
constant should be lost when limits are raised.  There are three ways in which one is lost all the
same: an input that is now kept makes the node that reads it too large; an instruction is come to
first on a longer path, and remembered as it was explained there; and a walk through the larger graph
comes first to a node that a cycle cut short.  Where none of them happens, all constants stay.

* `Node.Prunes` says that a graph is another one with inputs left open.
* `Store.prunes_of_stage` compares two queries that differ in their limit of size,
  `Store.prunes_of_short` any two of which one goes through all definitions.
* `Store.possibleArgument_raise` is what follows for the constants of an argument.
-/

namespace Backflow

/-! ## Graphs with inputs left open -/

mutual

/-- The first graph is the second one with some inputs left open. -/
inductive Node.Prunes : Node → Node → Prop
  | leaf (i : Instruction) : Node.Prunes (.leaf i) (.leaf i)
  | internal (i : Instruction) {xs ys : Inputs} (inputs : Inputs.Prunes xs ys) :
      Node.Prunes (.internal i xs) (.internal i ys)

inductive Inputs.Prunes : Inputs → Inputs → Prop
  | nil : Inputs.Prunes .nil .nil
  | opened (r : Register) (input : Option Node) {xs ys : Inputs} (rest : Inputs.Prunes xs ys) :
      Inputs.Prunes (.unresolved r xs) (.cons r input ys)
  | kept (r : Register) {m n : Node} {xs ys : Inputs} (node : Node.Prunes m n)
      (rest : Inputs.Prunes xs ys) : Inputs.Prunes (.resolved r m xs) (.resolved r n ys)

end

/-- The first outcome is nothing, or a graph that prunes the second. -/
def PrunesOutcome (first second : Option Node) : Prop :=
  ∀ m, first = some m → ∃ n, second = some n ∧ m.Prunes n

theorem PrunesOutcome.none (outcome : Option Node) : PrunesOutcome Option.none outcome :=
  fun _ same => nomatch same

theorem PrunesOutcome.some {m n : Node} (prunes : m.Prunes n) :
    PrunesOutcome (Option.some m) (Option.some n) :=
  fun _ same => ⟨n, rfl, Option.some.inj same ▸ prunes⟩

namespace Inputs

theorem Prunes.of_alike : ∀ {xs ys : Inputs}, Alike PrunesOutcome xs ys → xs.Prunes ys
  | .nil, .nil, _ => .nil
  | .unresolved r xs, .unresolved s ys, .cons same rest => by
    obtain rfl : r = s := same.1
    exact .opened r none (of_alike rest)
  | .unresolved r xs, .resolved s n ys, .cons same rest => by
    obtain rfl : r = s := same.1
    exact .opened r (some n) (of_alike rest)
  | .resolved r m xs, .unresolved s ys, .cons same rest => by
    obtain ⟨n, absent, _⟩ := same.2 m rfl
    cases absent
  | .resolved r m xs, .resolved s n ys, .cons same rest => by
    obtain ⟨n', found, prunes⟩ := same.2 m rfl
    obtain rfl : r = s := same.1
    obtain rfl : n = n' := Option.some.inj found
    exact .kept r prunes (of_alike rest)

theorem get?_cons (s : Register) (input : Option Node) (rest : Inputs) (r : Register) :
    (cons s input rest).get? r = if s = r then input else rest.get? r := by
  cases input <;> rfl

/-- An input that is not left open is the one of the same register, pruned. -/
theorem Prunes.get? {r : Register} {m : Node} {xs ys : Inputs} (prunes : xs.Prunes ys)
    (found : xs.get? r = some m) : ∃ n, ys.get? r = some n ∧ m.Prunes n := by
  cases prunes with
  | nil => cases found
  | opened s input rest =>
    rw [Inputs.get?] at found
    rw [get?_cons]
    split at found
    · cases found
    · rename_i other
      rw [if_neg other]
      exact rest.get? found
  | kept s node rest =>
    rw [Inputs.get?] at found ⊢
    split at found
    · rename_i here
      cases found
      exact ⟨_, if_pos here, node⟩
    · rename_i other
      rw [if_neg other]
      exact rest.get? found

theorem Prunes.mem {r : Register} {m : Node} : ∀ {xs ys : Inputs}, xs.Prunes ys →
    (r, some m) ∈ xs.toList → ∃ n, (r, some n) ∈ ys.toList ∧ m.Prunes n
  | _, _, .nil, member => by cases member
  | _, _, .opened s input rest, member => by
    rw [toList, List.mem_cons] at member
    rcases member with here | member
    · cases here
    · obtain ⟨n, member, prunes⟩ := rest.mem member
      exact ⟨n, toList_cons s input _ ▸ .tail _ member, prunes⟩
  | _, _, .kept s node rest, member => by
    rw [toList, List.mem_cons] at member
    rcases member with here | member
    · cases here
      exact ⟨_, .head _, node⟩
    · obtain ⟨n, member, prunes⟩ := rest.mem member
      exact ⟨n, .tail _ member, prunes⟩

end Inputs

namespace Node

theorem Prunes.input? {m n part : Node} (prunes : m.Prunes n) {r : Register}
    (found : m.input? r = some part) : ∃ part', n.input? r = some part' ∧ part.Prunes part' := by
  cases prunes with
  | leaf i => cases found
  | internal i inputs => exact inputs.get? found

/-- A graph reaches the leaves that it reaches with inputs left open. -/
theorem Prunes.reaches {m n : Node} (prunes : m.Prunes n) {leaf : Instruction}
    (reaches : m.Reaches (.leaf leaf)) : n.Reaches (.leaf leaf) := by
  induction m generalizing n with
  | leaf i =>
    cases prunes
    exact reaches
  | internal i xs ih =>
    cases prunes with
    | internal _ inputs =>
      rcases reaches_internal.mp reaches with here | ⟨r, child, member, deeper⟩
      · cases here
      · obtain ⟨child', member', prunes⟩ := inputs.mem member
        exact .head (.mk member') (ih child (.mk member) prunes deeper)

theorem Prunes.reachesConstant {m n : Node} (prunes : m.Prunes n) {value : String}
    (reaches : m.ReachesConstant value) : n.ReachesConstant value := by
  obtain ⟨leaf, path, literal⟩ := reaches
  exact ⟨leaf, prunes.reaches path, literal⟩

end Node

/-! ## Another limit of size -/

/-- What the first query remembers prunes what the second does, at the same addresses. -/
def Query.Prunes (first second : Query) : Prop :=
  ∀ a : Address, Option.Rel PrunesOutcome first.memo[a]? second.memo[a]?

theorem Query.Prunes.insert {q₁ q₂ q₁' q₂' : Query} (prunes : q₁.Prunes q₂) {address : Address}
    {o₁ o₂ : Option Node} (outcome : PrunesOutcome o₁ o₂)
    (memo₁ : q₁'.memo = q₁.memo.insert address o₁) (memo₂ : q₂'.memo = q₂.memo.insert address o₂) :
    q₁'.Prunes q₂' := by
  intro a
  rw [memo₁, memo₂, getElem?_memo_insert, getElem?_memo_insert]
  split
  · exact .some outcome
  · exact prunes a

/-- Queries that differ in their limit of size stay in step, and where the second gives up no graph
the first explains no more. -/
theorem lockstep_prunes {first second : Limits} (hops : first.maxHops = second.maxHops) :
    Lockstep first second Query.Prunes PrunesOutcome where
  hops := hops
  absent := .none _
  leaf i := .some (.leaf i)
  memo prunes := prunes
  log prunes _ := prunes
  logScans prunes _ := prunes
  settle prunes outcome _ := prunes.insert outcome rfl rfl
  node {q₁ q₂ xs ys} prunes inputs i untruncated := by
    have fits := Query.fits_of_settleNode untruncated
    rw [Query.settleNode_of_fits fits]
    have whole : PrunesOutcome (some (.internal i xs)) (some (.internal i ys)) :=
      .some (.internal i (.of_alike inputs))
    generalize outcome : (q₁.settleNode first (.internal i xs)).1 = o₁
    generalize after : (q₁.settleNode first (.internal i xs)).2 = q₁'
    have settles := q₁.settles_settleNode first (.internal i xs)
    rw [outcome, after] at settles
    cases settles with
    | kept _ memo => exact ⟨whole, prunes.insert whole memo rfl⟩
    | dropped _ memo => exact ⟨.none _, prunes.insert (.none _) memo rfl⟩

namespace Store

variable {store : Store} {limits larger : Limits} {i : Instruction}

theorem prunes_of_stage (hops : limits.maxHops = larger.maxHops)
    (stage : limits.maxStage = larger.maxStage)
    (untruncated : (store.explainIn larger i .empty).2.truncated = 0) :
    PrunesOutcome (store.explain limits i) (store.explain larger i) := by
  have start : Query.empty.Prunes .empty := by
    intro a
    simp only [Query.empty, Std.TreeMap.getElem?_emptyc]
    exact .none
  have outcome := ((lockstep_prunes hops).explainWithin store (larger.maxStage + 1) (some i) start
    untruncated).1
  simp only [explain, explainIn]
  rw [stage]
  exact outcome

/-! ## All definitions -/

theorem source_hops (hops : limits.maxHops = larger.maxHops) (i : Instruction) (r : Register) :
    store.source limits i r = store.source larger i r := by
  simp [source, hops]

theorem dependsOn_hops (hops : limits.maxHops = larger.maxHops) {i d : Instruction} :
    store.DependsOn limits i d ↔ store.DependsOn larger i d := by
  simp [← mem_dependencies, dependencies, hops]

end Store

theorem Assembled.card_addresses_le {store : Store} {limits : Limits} {i : Instruction}
    {inputs : Inputs} (addressed : store.Addressed) (held : store.Holds i)
    (assembled : Assembled store limits i inputs) :
    (Node.internal i inputs).addresses.card ≤ store.instructions.size := by
  have stored : (Node.internal i inputs).addresses ⊆ Finset.range store.instructions.size := by
    intro a member
    obtain ⟨part, reaches, rfl⟩ := Node.mem_addresses.mp member
    have held : store.Holds part.instr := by
      rcases assembled.part addressed reaches with rfl | ⟨_, held⟩
      · exact held
      · exact held
    exact Finset.mem_range.mpr (Array.getElem?_eq_some_iff.mp held).1
  simpa using Finset.card_le_card stored

/-- A justified node reads the registers of the plan of its instruction. -/
theorem Justified.registers {store : Store} {limits : Limits} {i : Instruction} {inputs : Inputs}
    (justified : Justified store limits (.internal i inputs)) {plan : InputPlan}
    (planned : i.inputPlan? = some plan) : inputs.registers = plan.registers := by
  obtain ⟨sets, read, keys, ordered⟩ := justified.keys rfl
  obtain ⟨sets', read', keys', ordered'⟩ := Instruction.registers_of_plan planned
  cases read.symm.trans read'
  -- both are the registers of the same operands in strictly increasing order
  have perm : inputs.registers.Perm plan.registers :=
    (List.perm_ext_iff_of_nodup (ordered.imp fun h same => (same ▸ h).ne rfl)
      (ordered'.imp fun h same => (same ▸ h).ne rfl)).mpr fun r => (keys r).trans (keys' r).symm
  refine perm.eq_of_pairwise (fun r s _ _ below above => ?_) ordered ordered'
  omega

theorem Instruction.exists_plan {i : Instruction} {sets : List (List Register)}
    (read : i.readPositions.mapM i.operandSet? = some sets) : ∃ plan, i.inputPlan? = some plan := by
  unfold readPositions at read
  unfold inputPlan?
  split at read
  · rename_i moves
    cases operand : i.operandSet? 1 <;> simp [operand, moves] at read ⊢
  rename_i plain
  split at read
  · rename_i aget
    cases first : i.operandSet? 1 <;> cases second : i.operandSet? 2 <;>
      simp [first, second, plain, aget] at read ⊢
  · rename_i other
    rw [if_neg plain, if_neg other]
    cases operand : i.operandSet? 0 with
    | none => simp [operand] at read
    | some registers =>
      split
      · exact ⟨_, rfl⟩
      · split <;> exact ⟨_, rfl⟩

namespace Unfolds

variable {store : Store} {limits larger : Limits}

/-- A definition and the instruction that explains it unfold to the same. -/
theorem producer {d i : Instruction} {outcome : Option Node}
    (unfolds : Unfolds store larger (some d) outcome) (produced : store.producer d = some i) :
    Unfolds store larger (some i) outcome := by
  by_cases moved : d.isOf "move-result" = true
  · rw [Store.producer_of_moved moved] at produced
    cases unfolds with
    | leaf leaf => simp [Instruction.leaf_not_moved leaf] at moved
    | moved _ call => exact produced ▸ call
    | unreadable _ notMoved => simp [moved] at notMoved
    | node _ notMoved => simp [moved] at notMoved
    | oversized _ notMoved => simp [moved] at notMoved
  · rw [Store.producer_of_notMoved (by simpa using moved)] at produced
    exact produced ▸ unfolds

/-- Where there is room for all instructions of the store, the plain explanation has every input that
a justified graph has. -/
theorem prunes {node : Node} {outcome : Option Node}
    (unfolds : Unfolds store larger (some node.instr) outcome) (addressed : store.Addressed)
    (hops : limits.maxHops = larger.maxHops) (room : store.instructions.size ≤ larger.maxGraphSize)
    (justified : ∀ part, node.Reaches part → Justified store limits part) :
    PrunesOutcome (some node) outcome := by
  induction node generalizing outcome with
  | leaf i =>
    have leaf := (justified _ .refl).leaf_iff.mp rfl
    rw [unfolds.unique (.leaf leaf)]
    exact .some (.leaf i)
  | internal i xs ih =>
    have here := justified _ .refl
    have held : store.Holds i := here.stored
    have notLeaf : ¬ i.isAnyOf leafFamilies = true := fun leaf => nomatch here.leaf_iff.mpr leaf
    rw [Node.instr_internal] at unfolds
    cases unfolds with
    | leaf leaf => exact absurd leaf notLeaf
    | moved moved => simp [show i.isOf "move-result" = false from here.notMoved] at moved
    | unreadable _ _ unplanned =>
      obtain ⟨_, read, _⟩ := here.keys rfl
      obtain ⟨plan, planned⟩ := Instruction.exists_plan read
      simp [unplanned] at planned
    | oversized notLeaf notMoved planned registers explained large =>
      have := Assembled.card_addresses_le addressed held
        ⟨notLeaf, notMoved, ⟨_, planned, registers⟩, explained⟩
      omega
    | node _ _ planned registers explained _ =>
      refine .some (.internal i (.of_alike ?_))
      refine Inputs.alike_of_registers ((here.registers planned).trans registers.symm) ?_
      intro r x y hx hy child same
      subst same
      -- the input of the justified node comes from the same source
      obtain ⟨d, found, produced⟩ := here.edges rfl r child hx
      have source := explained r y hy
      rw [← Store.source_hops hops, found] at source
      have below : ∀ part, child.Reaches part → Justified store limits part :=
        fun part reaches => justified part (.head (.mk hx) reaches)
      exact ih child (.mk hx) (source.producer produced) below child rfl

theorem keyed (addressed : store.Addressed) {found : Option Instruction} {node : Node}
    (unfolds : Unfolds store limits found (some node)) (held : ∀ i, found = some i → store.Holds i) :
    node.Keyed := by
  cases node with
  | leaf i =>
    intro m n hm hn _
    rw [Node.reaches_leaf.mp hm, Node.reaches_leaf.mp hn]
  | internal i inputs =>
    exact (Assembled.of_unfolds unfolds).keyed addressed (unfolds.holds addressed held)

end Unfolds

namespace Store

variable {store : Store} {limits larger : Limits} {i : Instruction}

/-- A query that gives up no graph and goes through all definitions gives the plain explanation with
room for all instructions. -/
theorem unfolds_explain (addressed : store.Addressed) (held : store.Holds i)
    (untruncated : (store.explainIn larger i .empty).2.truncated = 0)
    (short : store.Short larger (larger.maxStage + 1) i) {size : Nat}
    (higher : larger.maxGraphSize ≤ size) :
    Unfolds store { larger with maxGraphSize := size } (some i) (store.explain larger i) := by
  rw [explain, ← explainIn_raise higher untruncated]
  have closed : ∀ j d, store.Holds j → store.DependsOn { larger with maxGraphSize := size } j d →
      store.Holds d := fun _ _ _ depends => addressed.holds_of_dependsOn depends
  refine (faithful_explainWithin addressed (fun _ held => held) closed _ _ _ ?_ .empty).2
  intro j same
  cases same
  refine ⟨held, fun path chain => short path (chain.imp fun _ _ depends => ?_)⟩
  have hops : ({ larger with maxGraphSize := size } : Limits).maxHops = larger.maxHops := rfl
  exact (dependsOn_hops hops).mp depends

theorem prunes_of_short (addressed : store.Addressed) (hops : limits.maxHops = larger.maxHops)
    (held : store.Holds i) (untruncated : (store.explainIn larger i .empty).2.truncated = 0)
    (short : store.Short larger (larger.maxStage + 1) i) :
    PrunesOutcome (store.explain limits i) (store.explain larger i) := by
  intro graph found
  have empty : Query.empty.Justifies store limits := fun _ _ _ found => by
    simp [Query.empty] at found
  obtain ⟨_, same, produced, parts⟩ := (justifies_explainWithin addressed (limits.maxStage + 1)
    (some i) .empty (fun _ same => Option.some.inj same ▸ held) empty).2 graph found
  cases same
  have unfolds := unfolds_explain addressed held untruncated short
    (Nat.le_max_left larger.maxGraphSize store.instructions.size)
  exact (unfolds.producer produced).prunes addressed hops (Nat.le_max_right _ _)
    (fun part reaches => (parts part reaches).1) graph rfl

theorem keyed_of_short (addressed : store.Addressed) (held : store.Holds i)
    (untruncated : (store.explainIn larger i .empty).2.truncated = 0)
    (short : store.Short larger (larger.maxStage + 1) i) {graph : Node}
    (found : store.explain larger i = some graph) : graph.Keyed := by
  have unfolds := unfolds_explain addressed held untruncated short (Nat.le_refl _)
  rw [found] at unfolds
  exact unfolds.keyed addressed fun _ same => Option.some.inj same ▸ held

/-! ## Constants of arguments -/

/-- No constant of an argument is lost with other limits if they make no graph be given up, and
either allow the same depth and no address is entered twice, or allow for all chains of
definitions. -/
theorem possibleArgument_raise (loaded : store.Loaded) (hops : limits.maxHops = larger.maxHops)
    (held : store.Holds i) (untruncated : (store.explainIn larger i .empty).2.truncated = 0)
    (complete : limits.maxStage = larger.maxStage ∧ (store.explainIn larger i .empty).2.EntersOnce ∨
      store.Short larger (larger.maxStage + 1) i)
    {index : Nat} {values : List String}
    (given : store.possibleArgument limits i index = .ok values) :
    ∃ values', store.possibleArgument larger i index = .ok values' ∧ ∀ v ∈ values, v ∈ values' := by
  have compared : PrunesOutcome (store.explain limits i) (store.explain larger i) ∧
      ∀ graph, store.explain larger i = some graph → graph.Keyed := by
    rcases complete with ⟨stage, once⟩ | short
    · exact ⟨prunes_of_stage hops stage untruncated, fun _ found => (keyed_explain once found).1⟩
    · exact ⟨prunes_of_short loaded.addressed hops held untruncated short,
        fun _ found => keyed_of_short loaded.addressed held untruncated short found⟩
  obtain ⟨prunes, keyed⟩ := compared
  cases argument : i.argumentRegister index with
  | error cause => simp [possibleArgument, argumentGraph, argumentGraphIn, argument, Except.map] at given
  | ok r =>
    rw [possibleArgument_eq argument] at given ⊢
    cases given
    refine ⟨_, rfl, fun v member => ?_⟩
    obtain ⟨node, part, shown⟩ := mem_collected.mp member
    obtain ⟨graph, found, input⟩ := Option.bind_eq_some_iff.mp part
    obtain ⟨graph', found', pruned⟩ := prunes graph found
    obtain ⟨node', input', pruned⟩ := pruned.input? input
    have part' : store.argumentPart larger i r = some node' := by
      rw [argumentPart, found', Option.bind_some, input']
    refine mem_collected.mpr ⟨node', part', Node.mem_possibleConstants.mpr ?_⟩
    exact ((keyed graph' found').of_reaches (Node.reaches_of_input? input')).meetsConstant
      (pruned.reachesConstant (Node.mem_possibleConstants.mp shown).reaches)

/-- A method that reads an element of an array at an index that is copied three times. -/
def crowded : Store :=
  Store.empty.load ⟨[⟨"La;->m()V",
    [⟨"const/4", [.reg ⟨.loc, 0⟩, .num "0x7"]⟩,
      ⟨"new-instance", [.reg ⟨.loc, 1⟩, .type "Lx;"]⟩,
      ⟨"move-object", [.reg ⟨.loc, 2⟩, .reg ⟨.loc, 1⟩]⟩,
      ⟨"move-object", [.reg ⟨.loc, 3⟩, .reg ⟨.loc, 2⟩]⟩,
      ⟨"move-object", [.reg ⟨.loc, 4⟩, .reg ⟨.loc, 3⟩]⟩,
      ⟨"aget", [.reg ⟨.loc, 5⟩, .reg ⟨.loc, 0⟩, .reg ⟨.loc, 4⟩]⟩,
      ⟨"invoke-static", [.regList [⟨.loc, 5⟩], .method "Lx;->use(I)V"]⟩]⟩], none⟩

def crowdedCall : Instruction :=
  ⟨6, 0, "invoke-static", [.regList [⟨.loc, 5⟩], .method "Lx;->use(I)V"]⟩

/-- With room for all instructions and all copies, the constant found within small limits stays. -/
theorem possibleArgument_raise_crowded :
    crowded.Holds crowdedCall ∧
      (crowded.explainIn ⟨7, 5, 5⟩ crowdedCall .empty).2.truncated = 0 ∧
      crowded.Short ⟨7, 5, 5⟩ 6 crowdedCall ∧
      crowded.possibleArgument ⟨4, 2, 5⟩ crowdedCall 0 = .ok ["0x7"] ∧
      ∃ values, crowded.possibleArgument ⟨7, 5, 5⟩ crowdedCall 0 = .ok values ∧ "0x7" ∈ values := by
  have held : crowded.Holds crowdedCall := by decide +kernel
  have untruncated : (crowded.explainIn ⟨7, 5, 5⟩ crowdedCall .empty).2.truncated = 0 := by
    decide +kernel
  have short : crowded.Short ⟨7, 5, 5⟩ 6 crowdedCall := by decide +kernel
  have given : crowded.possibleArgument ⟨4, 2, 5⟩ crowdedCall 0 = .ok ["0x7"] := by decide +kernel
  have loaded : crowded.Loaded := .load .empty _
  have hops : (⟨4, 2, 5⟩ : Limits).maxHops = (⟨7, 5, 5⟩ : Limits).maxHops := rfl
  obtain ⟨values, given', all⟩ :=
    possibleArgument_raise loaded hops held untruncated (.inr short) given
  exact ⟨held, untruncated, short, given, values, given', all "0x7" (.head _)⟩

/-- A method that passes the copy of a constant to a call twice, once by way of two more copies. -/
def detour : Store :=
  Store.empty.load ⟨[⟨"La;->m()V",
    [⟨"const/4", [.reg ⟨.loc, 0⟩, .num "0x7"]⟩,
      ⟨"move", [.reg ⟨.loc, 3⟩, .reg ⟨.loc, 0⟩]⟩,
      ⟨"move", [.reg ⟨.loc, 2⟩, .reg ⟨.loc, 3⟩]⟩,
      ⟨"move", [.reg ⟨.loc, 1⟩, .reg ⟨.loc, 2⟩]⟩,
      ⟨"invoke-static", [.regList [⟨.loc, 1⟩, ⟨.loc, 3⟩], .method "Lx;->use(II)V"]⟩]⟩], none⟩

def detourCall : Instruction :=
  ⟨4, 0, "invoke-static", [.regList [⟨.loc, 1⟩, ⟨.loc, 3⟩], .method "Lx;->use(II)V"]⟩

/-- As `feedback`, with a longer way from the element to the field. -/
def longFeedback : Store :=
  Store.empty.load ⟨[⟨"La;->m()V",
    [⟨"sget", [.reg ⟨.loc, 1⟩, .field "La;->F:I"]⟩,
      ⟨"const/4", [.reg ⟨.loc, 2⟩, .num "0x7"]⟩,
      ⟨"aget", [.reg ⟨.loc, 0⟩, .reg ⟨.loc, 1⟩, .reg ⟨.loc, 2⟩]⟩,
      ⟨"move", [.reg ⟨.loc, 4⟩, .reg ⟨.loc, 0⟩]⟩,
      ⟨"move", [.reg ⟨.loc, 5⟩, .reg ⟨.loc, 4⟩]⟩,
      ⟨"sput", [.reg ⟨.loc, 5⟩, .field "La;->F:I"]⟩,
      ⟨"aget", [.reg ⟨.loc, 3⟩, .reg ⟨.loc, 0⟩, .reg ⟨.loc, 1⟩]⟩,
      ⟨"invoke-static", [.regList [⟨.loc, 3⟩], .method "Lx;->use(I)V"]⟩]⟩], none⟩

def longFeedbackCall : Instruction :=
  ⟨7, 0, "invoke-static", [.regList [⟨.loc, 3⟩], .method "Lx;->use(I)V"]⟩

/-- A constant is lost with a higher limit of size because a graph is given up, with a higher limit of
depth because a copy is first come to on the longer way, and with a higher limit of size
although nothing is given up because an address is entered twice. -/
theorem possibleArgument_raise_loses :
    (crowded.Loaded ∧ crowded.Holds crowdedCall ∧
      crowded.possibleArgument ⟨3, 64, 5⟩ crowdedCall 0 = .ok ["0x7"] ∧
      crowded.possibleArgument ⟨4, 64, 5⟩ crowdedCall 0 = .ok []) ∧
    (detour.Loaded ∧ detour.Holds detourCall ∧
      (detour.explainIn ⟨2097152, 3, 5⟩ detourCall .empty).2.truncated = 0 ∧
      detour.possibleArgument ⟨2097152, 2, 5⟩ detourCall 1 = .ok ["0x7"] ∧
      detour.possibleArgument ⟨2097152, 3, 5⟩ detourCall 1 = .ok []) ∧
    (longFeedback.Loaded ∧ longFeedback.Holds longFeedbackCall ∧
      (longFeedback.explainIn ⟨7, 7, 5⟩ longFeedbackCall .empty).2.truncated = 0 ∧
      longFeedback.possibleArgument ⟨4, 7, 5⟩ longFeedbackCall 0 = .ok ["0x7"] ∧
      longFeedback.possibleArgument ⟨7, 7, 5⟩ longFeedbackCall 0 = .ok []) := by
  refine ⟨⟨.load .empty _, ?_, ?_, ?_⟩, ⟨.load .empty _, ?_, ?_, ?_, ?_⟩,
    .load .empty _, ?_, ?_, ?_, ?_⟩ <;> decide +kernel

end Store

end Backflow
