import Backflow.Proofs.Constants

/-! # The answers about an argument

An argument is asked for its constant, for the constants that may flow into it and for their
types.  Whether it has a constant depends on nothing but the definition that reaches the
invocation: neither the other arguments nor what the query remembers, nor a cycle that leads back
to the invocation, changes it.

* `Query.TellsLeaves` is the invariant: what is remembered at an address is a leaf exactly if the
  instruction at the address is one.
* `Store.input?_explain` says which inputs of a graph are leaves.
* `Store.constantArgument_exact` tells the three kinds of answers apart, and
  `Store.argument_answers_agree` compares the three questions.
-/

namespace Backflow

/-! ## Leaves -/

theorem Instruction.invoke_not_leaf {i : Instruction} (call : i.isOf "invoke" = true) :
    i.isAnyOf leafFamilies = false :=
  not_isAnyOf call (by decide +kernel)

/-- What is remembered for an instruction of the store is a leaf exactly if it is that very
instruction. -/
def Query.TellsLeaves (query : Query) (store : Store) : Prop :=
  ∀ i outcome, store.Holds i → query.memo[i.addr]? = some outcome →
    ∀ d, outcome = some (.leaf d) ↔ i = d ∧ d.isAnyOf leafFamilies = true

theorem Query.TellsLeaves.settle {store : Store} {query query' : Query}
    (tells : query.TellsLeaves store) {i : Instruction} {outcome : Option Node}
    (held : store.Holds i)
    (told : ∀ d, outcome = some (.leaf d) ↔ i = d ∧ d.isAnyOf leafFamilies = true)
    (memo : query'.memo = query.memo.insert i.addr outcome) : query'.TellsLeaves store := by
  intro j o held' found
  rw [memo, Query.getElem?_memo_insert] at found
  split at found
  · rename_i same
    cases found
    exact held'.eq held same ▸ told
  · exact tells j o held' found

namespace Store

variable {store : Store} {limits : Limits} {i : Instruction}

/-- An instruction that is no leaf itself is not explained by one, a moved result included. -/
theorem leaf_told_of_notLeaf {outcome : Option Node} (notLeaf : i.isAnyOf leafFamilies = false)
    (never : ∀ d, outcome ≠ some (.leaf d)) (d : Instruction) :
    outcome = some (.leaf d) ↔ i = d ∧ d.isAnyOf leafFamilies = true := by
  constructor
  · intro leaf
    exact absurd leaf (never d)
  · rintro ⟨rfl, leaf⟩
    simp [notLeaf] at leaf

theorem tellsLeaves_explainWithin (addressed : store.Addressed) (depth : Nat)
    (found : Option Instruction) (query : Query) :
    (∀ i, found = some i → store.Holds i) → query.TellsLeaves store →
      (store.explainWithin limits depth found query).2.TellsLeaves store ∧
        ∀ d, (store.explainWithin limits depth found query).1 = some (.leaf d) ↔
          0 < depth ∧ found = some d ∧ d.isAnyOf leafFamilies = true := by
  refine store.explainWithin_induction limits (P := fun depth found q o q' =>
    (∀ i, found = some i → store.Holds i) → q.TellsLeaves store → q'.TellsLeaves store ∧
      ∀ d, o = some (.leaf d) ↔ 0 < depth ∧ found = some d ∧ d.isAnyOf leafFamilies = true)
    ?_ ?_ ?_ ?_ depth found query
  · exact fun _ _ _ tells => ⟨tells, by simp⟩
  · exact fun _ _ _ tells => ⟨tells, by simp⟩
  · exact fun _ i _ outcome hit held tells =>
      ⟨tells, by simpa using tells i outcome (held i rfl) hit⟩
  intro depth i query outcome query' _ step held tells
  have held := held i rfl
  have start : (query.log (.entered i.addr)).TellsLeaves store := tells
  -- what is told of the outcome is at once what has to be remembered
  suffices settled : ∃ mid : Query, mid.TellsLeaves store ∧
      query'.memo = mid.memo.insert i.addr outcome ∧
      ∀ d, outcome = some (.leaf d) ↔ i = d ∧ d.isAnyOf leafFamilies = true by
    obtain ⟨mid, tells, memo, told⟩ := settled
    exact ⟨tells.settle held told memo, by simpa using told⟩
  cases step with
  | leaf leaf =>
    refine ⟨_, start, rfl, fun d => ?_⟩
    constructor
    · intro same
      cases same
      exact ⟨rfl, leaf⟩
    · rintro ⟨rfl, _⟩
      rfl
  | moved moved run =>
    obtain ⟨after, told⟩ := run.2 (fun d call => addressed.holds_of_recentInvocation call) start
    refine ⟨_, after, rfl, leaf_told_of_notLeaf (Instruction.moved_not_leaf moved) fun d same => ?_⟩
    -- the invocation whose result is moved is no leaf
    obtain ⟨_, call, leaf⟩ := (told d).mp same
    have invoke := List.find?_some (p := fun j : Instruction => j.isOf "invoke") call
    simp [Instruction.invoke_not_leaf invoke] at leaf
  | unreadable notLeaf => exact ⟨_, start, rfl, leaf_told_of_notLeaf notLeaf (by simp)⟩
  | node notLeaf notMoved planned gathered settles =>
    obtain ⟨after, _⟩ := Gathered.collect (I := fun q => q.TellsLeaves store)
      (A := fun _ _ _ => True)
      ((gathered.restrict notLeaf notMoved planned).mono fun h => ⟨h.1.1, fun tells =>
        ⟨(h.1.2 (fun d same => addressed.holds_of_dependsOn (h.2 d same)) tells).1, trivial⟩⟩)
      planned (fun _ h => h) (fun _ h => h) start
    cases settles with
    | kept _ memo => exact ⟨_, after, memo, leaf_told_of_notLeaf notLeaf (by simp)⟩
    | dropped _ memo => exact ⟨_, after, memo, leaf_told_of_notLeaf notLeaf (by simp)⟩

end Store

theorem Inputs.mem_get? {r : Register} : ∀ {inputs : Inputs},
    r ∈ inputs.registers → (r, inputs.get? r) ∈ inputs.toList
  | .nil, member => by cases member
  | .unresolved s rest, member => by
    rw [get?]
    split
    · rename_i same
      exact same ▸ .head _
    · rename_i different
      rw [registers, List.mem_cons] at member
      exact .tail _ (mem_get? (member.resolve_left (Ne.symm different)))
  | .resolved s node rest, member => by
    rw [get?]
    split
    · rename_i same
      exact same ▸ .head _
    · rename_i different
      rw [registers, List.mem_cons] at member
      exact .tail _ (mem_get? (member.resolve_left (Ne.symm different)))

namespace Store

variable {store : Store} {limits : Limits} {i : Instruction}

/-- The first step of a fresh query, with what is known of all runs that it starts. -/
theorem entered_explainIn (store : Store) (limits : Limits) (i : Instruction) {P : Explaining}
    (runs : ∀ found query, P found query (store.explainWithin limits limits.maxStage found query).1
      (store.explainWithin limits limits.maxStage found query).2) :
    Entered store limits P i (Query.empty.log (.entered i.addr))
      (store.explainIn limits i .empty).1 (store.explainIn limits i .empty).2 := by
  have unmet : Query.empty.memo[i.addr]? = none := by simp [Query.empty]
  rw [explainIn, explainWithin, unmet]
  exact entered_explainEntered runs store limits i _

/-- An input of a graph is a leaf exactly if the source of its register is this leaf and the query
goes any deeper than the root. -/
theorem input?_explain (addressed : store.Addressed) (notLeaf : i.isAnyOf leafFamilies = false)
    (notMoved : i.isOf "move-result" = false) {plan : InputPlan}
    (planned : i.inputPlan? = some plan) {graph : Node}
    (found : store.explain limits i = some graph) {r : Register} (member : r ∈ plan.registers)
    (d : Instruction) :
    graph.input? r = some (.leaf d) ↔
      0 < limits.maxStage ∧ store.source limits i r = some d ∧ d.isAnyOf leafFamilies = true := by
  have step := store.entered_explainIn limits i (P := fun found q o q' =>
    Kept limits.maxStage found q o q' ∧
      ((∀ i, found = some i → store.Holds i) → q.TellsLeaves store → q'.TellsLeaves store ∧
        ∀ d, o = some (.leaf d) ↔
          0 < limits.maxStage ∧ found = some d ∧ d.isAnyOf leafFamilies = true))
    fun found query => ⟨store.kept_explainWithin limits _ found query,
      tellsLeaves_explainWithin addressed limits.maxStage found query⟩
  have start : (Query.empty.log (.entered i.addr)).TellsLeaves store := fun _ _ _ found => by
    simp [Query.empty] at found
  rw [show (store.explainIn limits i .empty).1 = some graph from found] at step
  generalize (store.explainIn limits i .empty).2 = query' at step
  cases step with
  | leaf leaf => simp [notLeaf] at leaf
  | moved moved => simp [notMoved] at moved
  | node notLeaf notMoved planned' gathered settles =>
    rename_i plan' inputs mid
    cases planned.symm.trans planned'
    cases settles with
    | kept =>
      obtain ⟨_, answers⟩ := Gathered.collect (I := fun q => q.TellsLeaves store)
        (A := fun found o _ => ∀ d, o = some (.leaf d) ↔
          0 < limits.maxStage ∧ found = some d ∧ d.isAnyOf leafFamilies = true)
        ((gathered.restrict notLeaf notMoved planned).mono fun h => ⟨h.1.1, fun tells =>
          h.1.2 (fun d same => addressed.holds_of_dependsOn (h.2 d same)) tells⟩)
        planned (fun _ h => h) (fun _ h => h) start
      have listed : r ∈ inputs.registers := gathered.registers ▸ member
      exact (answers r _ (Inputs.mem_get? listed)).2.2 d

end Store

/-! ## The constant of an argument -/

/-- The answers to the question for a constant. -/
inductive ArgumentGraph.Answers (argument : ArgumentGraph) : Except ValueError String → Prop
  | noGraph {cause : NoSuchValue} (missing : argument.graph = none) :
      Answers argument (.error (.noSuchValue cause))
  | constant {graph : Node} {leaf : Instruction} {value : String}
      (found : argument.graph = some graph) (input : argument.input = some (.leaf leaf))
      (literal : leaf.constant? = some value) : Answers argument (.ok value)
  | unsolvable {graph : Node} {cause : Unsolvable} (found : argument.graph = some graph)
      (other : ∀ leaf, argument.input = some (.leaf leaf) → leaf.constant? = none) :
      Answers argument (.error (.unsolvable cause (some graph)))

theorem ArgumentGraph.answers_constant (argument : ArgumentGraph) (i : Instruction) (index : Nat) :
    argument.Answers (argument.constant i index) := by
  unfold constant
  cases found : argument.graph with
  | none => exact .noGraph found
  | some graph =>
    rw [if_neg (by simp)]
    split
    · rename_i leaf input
      split
      · rename_i value literal
        exact .constant found input literal
      · rename_i none
        refine .unsolvable found fun other same => ?_
        cases input.symm.trans same
        exact none
    · rename_i instr inputs input
      exact .unsolvable found fun other same => nomatch input.symm.trans same
    · rename_i missing
      exact .unsolvable found fun other same => nomatch missing.symm.trans same

namespace ArgumentGraph

variable {argument : ArgumentGraph} {i : Instruction} {index : Nat}

theorem constant_eq_ok_iff {value : String} :
    argument.constant i index = .ok value ↔ ∃ graph, argument.graph = some graph ∧
      ∃ leaf, argument.input = some (.leaf leaf) ∧ leaf.constant? = some value := by
  constructor
  · intro same
    have answers := argument.answers_constant i index
    rw [same] at answers
    cases answers with
    | constant found input literal => exact ⟨_, found, _, input, literal⟩
  · rintro ⟨graph, found, leaf, input, literal⟩
    simp [constant, found, input, literal]

theorem constant_noSuchValue_iff :
    (∃ cause, argument.constant i index = .error (.noSuchValue cause)) ↔ argument.graph = none := by
  constructor
  · rintro ⟨cause, same⟩
    have answers := argument.answers_constant i index
    rw [same] at answers
    cases answers with
    | noGraph missing => exact missing
  · intro missing
    exact ⟨.noGraph i, by simp [constant, missing]⟩

theorem constant_unsolvable_iff {graph : Option Node} :
    (∃ cause, argument.constant i index = .error (.unsolvable cause graph)) ↔
      (∃ node, graph = some node ∧ argument.graph = some node) ∧
        ¬ ∃ value leaf, argument.input = some (.leaf leaf) ∧ leaf.constant? = some value := by
  have answers := argument.answers_constant i index
  generalize argument.constant i index = answer at answers
  cases answers with
  | noGraph missing => simp [missing]
  | constant _ input literal => simp [input, literal]
  | @unsolvable graph' cause found other =>
    constructor
    · rintro ⟨_, same⟩
      cases same
      refine ⟨⟨graph', rfl, found⟩, ?_⟩
      rintro ⟨value, leaf, input, literal⟩
      simp [other leaf input] at literal
    · rintro ⟨⟨node, rfl, found'⟩, _⟩
      cases found.symm.trans found'
      exact ⟨cause, rfl⟩

end ArgumentGraph

namespace Instruction

theorem constant?_eq_some {i : Instruction} {value : String} :
    i.constant? = some value ↔
      i.isOf "const" = true ∧ ∃ operand, i.operands[1]? = some operand ∧ operand.value = value := by
  unfold constant?
  split
  · rename_i const
    simp [const]
  · rename_i other
    simp [other]

theorem const_leaf {i : Instruction} (const : i.isOf "const" = true) :
    i.isAnyOf leafFamilies = true :=
  List.any_eq_true.mpr ⟨"const", .head _, const⟩

/-- An invocation reads the registers of its first operand, each with its own definition. -/
theorem inputPlan?_invoke {i : Instruction} (call : i.isOf "invoke" = true) :
    i.inputPlan? = (i.operandSet? 0).map .each := by
  have moves : i.isAnyOf ["move", "array-length"] = false := not_isAnyOf call (by decide +kernel)
  have element : i.isOf "aget" = false := not_isOf call (by decide +kernel)
  have static : i.isOf "sget" = false := not_isOf call (by decide +kernel)
  have object : i.isOf "iget" = false := not_isOf call (by decide +kernel)
  simp [inputPlan?, moves, element, static, object]

theorem inputPlan?_of_argument {i : Instruction} (call : i.isOf "invoke" = true) {index : Nat}
    {r : Register} (argument : i.argumentRegister index = .ok r) :
    ∃ registers, i.inputPlan? = some (.each registers) ∧ r ∈ registers := by
  unfold argumentRegister at argument
  split at argument
  · cases argument
  rename_i first head
  split at argument
  · cases argument
  rename_i listed expanded
  split at argument
  · rename_i s here
    cases argument
    have set : i.operandSet? 0 = some (Register.sorted listed) := by
      rw [operandSet?, ← List.head?_eq_getElem?, head]
      simp [Operand.registerSet?, expanded]
    refine ⟨Register.sorted listed, by rw [inputPlan?_invoke call, set]; rfl, ?_⟩
    exact Register.mem_sorted.mpr (List.mem_of_getElem? here)
  · cases argument

end Instruction

namespace Store

variable {store : Store} {limits : Limits} {i : Instruction} {index : Nat} {r : Register}

/-- The definition of the register that reaches the instruction is a constant with the given
literal. -/
def LoadsConstant (store : Store) (limits : Limits) (i : Instruction) (r : Register)
    (value : String) : Prop :=
  ∃ d, store.recentLoad limits.maxHops i r = some d ∧ d.isOf "const" = true ∧
    ∃ operand, d.operands[1]? = some operand ∧ operand.value = value

theorem argumentGraph_of_error {cause : NoSuchValue}
    (failed : i.argumentRegister index = .error cause) :
    store.argumentGraph limits i index = .error cause := by
  simp [argumentGraph, argumentGraphIn, failed, Except.map]

theorem argumentGraph_of_ok (argument : i.argumentRegister index = .ok r) :
    store.argumentGraph limits i index =
      .ok ⟨store.explain limits i, store.argumentPart limits i r⟩ := by
  simp only [argumentGraph, argumentGraphIn, argument, Except.map]
  rfl

/-- The part of the graph that explains an argument is a constant exactly if its definition is. -/
theorem argumentPart_constant (addressed : store.Addressed) (call : i.isOf "invoke" = true)
    (argument : i.argumentRegister index = .ok r) {graph : Node}
    (found : store.explain limits i = some graph) (value : String) :
    (∃ leaf, store.argumentPart limits i r = some (.leaf leaf) ∧ leaf.constant? = some value) ↔
      1 ≤ limits.maxStage ∧ store.LoadsConstant limits i r value := by
  obtain ⟨registers, planned, member⟩ := Instruction.inputPlan?_of_argument call argument
  have input := fun d => input?_explain addressed (Instruction.invoke_not_leaf call)
    (Instruction.invoke_not_moved call) planned found (r := r) member d
  simp only [argumentPart, found, Option.bind_some, input, source_each planned, LoadsConstant,
    Instruction.constant?_eq_some]
  constructor
  · rintro ⟨d, ⟨deep, load, _⟩, const, literal⟩
    exact ⟨deep, d, load, const, literal⟩
  · rintro ⟨deep, d, load, const, literal⟩
    exact ⟨d, ⟨deep, load, Instruction.const_leaf const⟩, const, literal⟩

/-- An argument has a constant exactly if the definition of its register is one, the query goes
deeper than the invocation, and the invocation has a graph.  There is no value to speak of exactly
if there is no such argument or no graph, and all else is unsolvable. -/
theorem constantArgument_exact (loaded : store.Loaded) (limits : Limits)
    (call : i.isOf "invoke" = true) (index : Nat) :
    (∀ value, store.constantArgument limits i index = .ok value ↔
        ∃ r, i.argumentRegister index = .ok r ∧ 1 ≤ limits.maxStage ∧
          (∃ graph, store.explain limits i = some graph) ∧ store.LoadsConstant limits i r value) ∧
      ((∃ cause, store.constantArgument limits i index = .error (.noSuchValue cause)) ↔
        (∃ cause, i.argumentRegister index = .error cause) ∨ store.explain limits i = none) ∧
      ((∃ cause graph,
          store.constantArgument limits i index = .error (.unsolvable cause (some graph))) ↔
        ∃ r, i.argumentRegister index = .ok r ∧ (∃ graph, store.explain limits i = some graph) ∧
          ¬ (1 ≤ limits.maxStage ∧ ∃ value, store.LoadsConstant limits i r value)) := by
  cases argument : i.argumentRegister index with
  | error cause => simp [constantArgument, argumentGraph_of_error argument]
  | ok r =>
    have part := fun graph (found : store.explain limits i = some graph) value =>
      argumentPart_constant loaded.addressed call argument found value
    simp only [constantArgument, argumentGraph_of_ok argument]
    rw [ArgumentGraph.constant_noSuchValue_iff]
    refine ⟨fun value => ?_, by simp, ?_⟩
    · rw [ArgumentGraph.constant_eq_ok_iff]
      constructor
      · rintro ⟨graph, found, input⟩
        obtain ⟨deep, loads⟩ := (part graph found value).mp input
        exact ⟨r, rfl, deep, ⟨graph, found⟩, loads⟩
      · rintro ⟨s, same, deep, ⟨graph, found⟩, loads⟩
        cases same
        exact ⟨graph, found, (part graph found value).mpr ⟨deep, loads⟩⟩
    · rw [exists_comm]
      simp only [ArgumentGraph.constant_unsolvable_iff]
      constructor
      · rintro ⟨_, ⟨graph, _, found⟩, none⟩
        refine ⟨r, rfl, ⟨graph, found⟩, ?_⟩
        rintro ⟨deep, value, loads⟩
        exact none ⟨value, (part graph found value).mpr ⟨deep, loads⟩⟩
      · rintro ⟨s, same, ⟨graph, found⟩, none⟩
        cases same
        refine ⟨graph, ⟨graph, rfl, found⟩, ?_⟩
        rintro ⟨value, input⟩
        obtain ⟨deep, loads⟩ := (part graph found value).mp input
        exact none ⟨deep, value, loads⟩

/-- A method whose call is passed what it returned before, by way of a field: the explanation of the
call comes back to it. -/
def looped : Store :=
  Store.empty.load ⟨[⟨"La;->m()V",
    [⟨"sget", [.reg ⟨.loc, 1⟩, .field "La;->F:I"]⟩,
      ⟨"const/4", [.reg ⟨.loc, 2⟩, .num "0x7"]⟩,
      ⟨"invoke-static", [.regList [⟨.loc, 1⟩, ⟨.loc, 2⟩], .method "Lx;->f(II)I"]⟩,
      ⟨"move-result", [.reg ⟨.loc, 3⟩]⟩,
      ⟨"sput", [.reg ⟨.loc, 3⟩, .field "La;->F:I"]⟩]⟩], none⟩

def loopedCall : Instruction :=
  ⟨2, 0, "invoke-static", [.regList [⟨.loc, 1⟩, ⟨.loc, 2⟩], .method "Lx;->f(II)I"]⟩

/-- The second argument of the call has a constant and the first has none, although the call is
entered again below itself. -/
theorem constantArgument_exact_looped :
    looped.Loaded ∧ loopedCall.isOf "invoke" = true ∧
      ¬ (looped.explainIn ⟨10, 8, 5⟩ loopedCall .empty).2.EntersOnce ∧
      looped.constantArgument ⟨10, 8, 5⟩ loopedCall 1 = .ok "0x7" ∧
      ∃ cause graph,
        looped.constantArgument ⟨10, 8, 5⟩ loopedCall 0 = .error (.unsolvable cause (some graph)) := by
  have loaded : looped.Loaded := .load .empty _
  have call : loopedCall.isOf "invoke" = true := by decide +kernel
  have graph : ∃ graph, looped.explain ⟨10, 8, 5⟩ loopedCall = some graph :=
    Option.isSome_iff_exists.mp (by decide +kernel)
  have read : looped.recentLoad 5 loopedCall ⟨.loc, 1⟩ =
      some ⟨0, 0, "sget", [.reg ⟨.loc, 1⟩, .field "La;->F:I"]⟩ := by decide +kernel
  refine ⟨loaded, call, by decide +kernel, ?_, ?_⟩
  · refine ((constantArgument_exact loaded ⟨10, 8, 5⟩ call 1).1 "0x7").mpr
      ⟨⟨.loc, 2⟩, by decide +kernel, by decide, graph, ?_⟩
    exact ⟨⟨1, 0, "const/4", [.reg ⟨.loc, 2⟩, .num "0x7"]⟩, by decide +kernel, by decide +kernel,
      .num "0x7", rfl, rfl⟩
  · refine (constantArgument_exact loaded ⟨10, 8, 5⟩ call 0).2.2.mpr
      ⟨⟨.loc, 1⟩, by decide +kernel, graph, ?_⟩
    rintro ⟨_, value, d, load, const, _⟩
    cases read.symm.trans load
    revert const
    decide +kernel

end Store

/-! ## Three questions -/

theorem Node.leaves_leaf (i : Instruction) : (Node.leaf i).leaves = [i] :=
  rfl

theorem Node.mem_assumedTypes {node : Node} {type : String} :
    type ∈ node.assumedTypes ↔ ∃ leaf, node.Met (.leaf leaf) ∧ leaf.assumedType = type := by
  simp only [assumedTypes, mem_textSet, List.mem_map, mem_leaves]

namespace ArgumentGraph

variable {argument : ArgumentGraph}

theorem possible_of_constant {i : Instruction} {index : Nat} {value : String}
    (constant : argument.constant i index = .ok value) :
    argument.possible = [value] ∧ ∃ type, argument.types = [type] := by
  obtain ⟨_, _, leaf, input, literal⟩ := constant_eq_ok_iff.mp constant
  constructor
  · simp [possible, input, Node.possibleConstants, Node.leaves_leaf, literal, textSet, insertText]
  · refine ⟨leaf.assumedType, ?_⟩
    simp [types, input, Node.assumedTypes, Node.leaves_leaf, textSet, insertText]

theorem pairwise_types (argument : ArgumentGraph) : argument.types.Pairwise (· < ·) :=
  pairwise_collected fun _ => pairwise_textSet _

theorem mem_types {type : String} :
    type ∈ argument.types ↔ ∃ node, argument.input = some node ∧
      ∃ leaf, node.Met (.leaf leaf) ∧ leaf.assumedType = type := by
  simp only [types, mem_collected, Node.mem_assumedTypes]

/-- Where a constant may flow in, there is an explanation and a type. -/
theorem types_of_possible (flows : argument.possible ≠ []) :
    argument.types ≠ [] ∧ ∃ node, argument.input = some node := by
  -- the leaf that the constant stands in has a type
  obtain ⟨value, member⟩ := List.exists_mem_of_ne_nil _ flows
  obtain ⟨node, input, inside⟩ := mem_collected.mp member
  obtain ⟨leaf, met, _⟩ := Node.mem_possibleConstants.mp inside
  exact ⟨List.ne_nil_of_mem (mem_types.mpr ⟨node, input, leaf, met, rfl⟩), node, input⟩

theorem constant_of_graph {graph : Node} (found : argument.graph = some graph) (i : Instruction)
    (index : Nat) :
    (∃ value, argument.constant i index = .ok value) ∨
      ∃ cause graph, argument.constant i index = .error (.unsolvable cause graph) := by
  have answers := argument.answers_constant i index
  generalize argument.constant i index = answer at answers
  cases answers with
  | noGraph missing => simp [missing] at found
  | constant => exact .inl ⟨_, rfl⟩
  | unsolvable => exact .inr ⟨_, _, rfl⟩

end ArgumentGraph

namespace Store

/-- The three questions about an argument fail together if there is no such argument.  Its types are
those assumed for the leaves that the walk from its part of the graph comes to.  A constant is the
only one that may flow in; where one may flow in the question for it is answered or unsolvable, and
unsolvable where several may; and what is unsolvable comes with the graph of the instruction. -/
theorem argument_answers_agree (store : Store) (limits : Limits) (i : Instruction) (index : Nat) :
    (∀ cause, store.possibleArgument limits i index = .error cause ↔
        i.argumentRegister index = .error cause) ∧
      (∀ cause, store.argumentTypes limits i index = .error cause ↔
        i.argumentRegister index = .error cause) ∧
      (∀ cause, i.argumentRegister index = .error cause →
        store.constantArgument limits i index = .error (.noSuchValue cause)) ∧
      (∀ types, store.argumentTypes limits i index = .ok types → types.Pairwise (· < ·) ∧
        ∀ type, type ∈ types ↔ ∃ r, i.argumentRegister index = .ok r ∧
          ∃ node, store.argumentPart limits i r = some node ∧
            ∃ leaf, node.Met (.leaf leaf) ∧ leaf.assumedType = type) ∧
      (∀ value, store.constantArgument limits i index = .ok value →
        store.possibleArgument limits i index = .ok [value] ∧
          ∃ type, store.argumentTypes limits i index = .ok [type]) ∧
      (∀ values, store.possibleArgument limits i index = .ok values → values ≠ [] →
        (∃ types, store.argumentTypes limits i index = .ok types ∧ types ≠ []) ∧
          ((∃ value, store.constantArgument limits i index = .ok value) ∨
            ∃ cause graph,
              store.constantArgument limits i index = .error (.unsolvable cause graph))) ∧
      (∀ values v w, store.possibleArgument limits i index = .ok values → v ∈ values →
        w ∈ values → v ≠ w → ∃ cause graph,
          store.constantArgument limits i index = .error (.unsolvable cause graph)) ∧
      ∀ cause graph, store.constantArgument limits i index = .error (.unsolvable cause graph) →
        ∃ node, graph = some node ∧ store.explain limits i = some node := by
  cases argument : i.argumentRegister index with
  | error cause =>
    simp [possibleArgument, argumentTypes, constantArgument, argumentGraph_of_error argument,
      Except.map]
  | ok r =>
    simp only [possibleArgument, argumentTypes, constantArgument, argumentGraph_of_ok argument,
      Except.map]
    have linked : ∀ node, store.argumentPart limits i r = some node →
        ∃ graph, store.explain limits i = some graph := fun node part =>
      (Option.bind_eq_some_iff.mp part).imp fun _ found => found.1
    generalize store.explain limits i = graph at linked ⊢
    generalize part : store.argumentPart limits i r = input at linked ⊢
    have solved : ArgumentGraph.possible ⟨graph, input⟩ ≠ [] →
        (∃ value, ArgumentGraph.constant ⟨graph, input⟩ i index = .ok value) ∨ ∃ cause graph',
          ArgumentGraph.constant ⟨graph, input⟩ i index = .error (.unsolvable cause graph') := by
      intro flows
      obtain ⟨_, node, explained⟩ := ArgumentGraph.types_of_possible flows
      obtain ⟨whole, found⟩ := linked node explained
      exact ArgumentGraph.constant_of_graph found i index
    refine ⟨by simp, by simp, by simp, ?_, ?_, ?_, ?_, ?_⟩
    · rintro types same
      cases same
      refine ⟨ArgumentGraph.pairwise_types _, fun type => ?_⟩
      simp [part, ArgumentGraph.mem_types]
    · intro value constant
      simpa using ArgumentGraph.possible_of_constant constant
    · rintro values same flows
      cases same
      exact ⟨⟨_, rfl, (ArgumentGraph.types_of_possible flows).1⟩, solved flows⟩
    · rintro values v w same first second different
      cases same
      refine (solved (List.ne_nil_of_mem first)).resolve_left ?_
      -- a constant would be the only value
      rintro ⟨value, constant⟩
      rw [(ArgumentGraph.possible_of_constant constant).1, List.mem_singleton] at first second
      exact different (first.trans second.symm)
    · rintro cause graph' unsolvable
      exact (ArgumentGraph.constant_unsolvable_iff.mp ⟨cause, unsolvable⟩).1

/-- A method that passes to a call a constant, and an element of an array at an index, both
constants. -/
def mixed : Store :=
  Store.empty.load ⟨[⟨"La;->m()V",
    [⟨"const/4", [.reg ⟨.loc, 0⟩, .num "0x1"]⟩,
      ⟨"const/4", [.reg ⟨.loc, 1⟩, .num "0x2"]⟩,
      ⟨"aget", [.reg ⟨.loc, 2⟩, .reg ⟨.loc, 0⟩, .reg ⟨.loc, 1⟩]⟩,
      ⟨"invoke-static", [.regList [⟨.loc, 0⟩, ⟨.loc, 2⟩], .method "Lx;->use(II)V"]⟩]⟩], none⟩

def mixedCall : Instruction :=
  ⟨3, 0, "invoke-static", [.regList [⟨.loc, 0⟩, ⟨.loc, 2⟩], .method "Lx;->use(II)V"]⟩

/-- One value for the first argument, so it is the only possible one; two for the second, so there
is no constant, but both have the same type. -/
theorem argument_answers_agree_mixed :
    mixed.constantArgument {} mixedCall 0 = .ok "0x1" ∧
      mixed.possibleArgument {} mixedCall 0 = .ok ["0x1"] ∧
      (∃ type, mixed.argumentTypes {} mixedCall 0 = .ok [type]) ∧
      mixed.possibleArgument {} mixedCall 1 = .ok ["0x1", "0x2"] ∧
      mixed.argumentTypes {} mixedCall 1 = .ok ["Ljava/lang/Integer;"] ∧
      (∃ node, mixed.argumentPart {} mixedCall ⟨.loc, 2⟩ = some node ∧
        ∃ leaf, node.Met (.leaf leaf) ∧ leaf.assumedType = "Ljava/lang/Integer;") ∧
      ∃ cause node, mixed.constantArgument {} mixedCall 1 = .error (.unsolvable cause (some node)) ∧
        mixed.explain {} mixedCall = some node := by
  have constant : mixed.constantArgument {} mixedCall 0 = .ok "0x1" := by
    have shown : (mixed.constantArgument {} mixedCall 0).toOption = some "0x1" := by decide +kernel
    generalize mixed.constantArgument {} mixedCall 0 = answer at shown
    cases answer with
    | error cause => cases shown
    | ok value => cases shown; rfl
  have two : mixed.possibleArgument {} mixedCall 1 = .ok ["0x1", "0x2"] := by decide +kernel
  have one : mixed.argumentTypes {} mixedCall 1 = .ok ["Ljava/lang/Integer;"] := by decide +kernel
  have second : mixedCall.argumentRegister 1 = .ok ⟨.loc, 2⟩ := by decide +kernel
  obtain ⟨_, _, _, _, single, _⟩ := argument_answers_agree mixed {} mixedCall 0
  obtain ⟨_, _, _, typed, _, _, several, carries⟩ := argument_answers_agree mixed {} mixedCall 1
  obtain ⟨r, same, part⟩ := ((typed _ one).2 "Ljava/lang/Integer;").mp (by simp)
  cases second.symm.trans same
  obtain ⟨cause, graph, unsolvable⟩ := several _ "0x1" "0x2" two (by simp) (by simp) (by decide)
  obtain ⟨node, rfl, explained⟩ := carries cause graph unsolvable
  exact ⟨constant, (single "0x1" constant).1, (single "0x1" constant).2, two, one, part, cause, node,
    unsolvable, explained⟩

end Store

end Backflow
