import Backflow.Proofs.Run
import Backflow.Proofs.Walk

/-! # Every edge of a graph is justified

Whatever a query was asked before, and whether or not it ran into a cycle or a limit, a graph
that it gives back holds nothing but what the searches found.

* `Store.producer` is the instruction that explains a definition: the invocation of a moved
  result, the definition itself otherwise.
* `Justified` says of one node that it stands for an instruction of the store, and that its
  keys and edges are those the searches give for this instruction.
* `Store.Explains` says it of all parts of an outcome, and is what the memory of a query keeps.
-/

namespace Backflow

/-! ## Justified nodes -/

/-- The instruction that explains a definition. -/
def Store.producer (store : Store) (d : Instruction) : Option Instruction :=
  if d.isOf "move-result" then (store.recentInvocation d).value else some d

/-- A node with the instruction, the keys and the edges that the store and the searches give. -/
structure Justified (store : Store) (limits : Limits) (node : Node) : Prop where
  stored : store.at? node.addr = some node.instr
  notMoved : node.instr.isOf "move-result" = false
  leaf_iff : node.isLeaf = true ↔ node.instr.isAnyOf leafFamilies = true
  keys : ∀ {i : Instruction} {inputs : Inputs}, node = .internal i inputs →
    ∃ sets, i.readPositions.mapM i.operandSet? = some sets ∧
      (∀ r, r ∈ inputs.registers ↔ ∃ set ∈ sets, r ∈ set) ∧
      inputs.registers.Pairwise fun r s => r.rank < s.rank
  edges : ∀ {i : Instruction} {inputs : Inputs}, node = .internal i inputs →
    ∀ r child, (r, some child) ∈ inputs.toList →
      ∃ d, store.source limits i r = some d ∧ store.producer d = some child.instr

/-- All that explaining a definition can give: a graph of its producer, every part of which is
justified and comes from the definition by way of others. -/
def Store.Explains (store : Store) (limits : Limits) (found : Option Instruction)
    (outcome : Option Node) : Prop :=
  ∀ node, outcome = some node → ∃ i, found = some i ∧ store.producer i = some node.instr ∧
    ∀ part, node.Reaches part → Justified store limits part ∧
      Relation.ReflTransGen (store.DependsOn limits) i part.instr

namespace Store

variable {store : Store} {limits : Limits}

theorem producer_of_moved {i : Instruction} (moved : i.isOf "move-result" = true) :
    store.producer i = (store.recentInvocation i).value := by
  simp [producer, moved]

theorem producer_of_notMoved {i : Instruction} (notMoved : i.isOf "move-result" = false) :
    store.producer i = some i := by
  simp [producer, notMoved]

theorem producer_of_invocation {i d : Instruction}
    (call : (store.recentInvocation i).value = some d) : store.producer d = some d :=
  producer_of_notMoved (notMoved_of_recentInvocation call)

namespace Explains

theorem none (found : Option Instruction) : store.Explains limits found Option.none :=
  fun _ same => nomatch same

theorem leaf {i : Instruction} (held : store.Holds i) (leaf : i.isAnyOf leafFamilies = true) :
    store.Explains limits (some i) (some (.leaf i)) := by
  intro node same
  cases same
  have notMoved := Instruction.leaf_not_moved leaf
  refine ⟨i, rfl, producer_of_notMoved notMoved, fun part reaches => ?_⟩
  rw [Node.reaches_leaf] at reaches
  subst reaches
  exact ⟨⟨held, notMoved, by simp [Node.isLeaf, leaf], fun same => (nomatch same),
    fun same => (nomatch same)⟩, .refl⟩

theorem moved {i : Instruction} (moved : i.isOf "move-result" = true) {outcome : Option Node}
    (explains : store.Explains limits (store.recentInvocation i).value outcome) :
    store.Explains limits (some i) outcome := by
  intro node same
  obtain ⟨d, call, produced, parts⟩ := explains node same
  refine ⟨i, rfl, ?_, fun part reaches => ⟨(parts part reaches).1, ?_⟩⟩
  · -- an invocation is no moved result, so its own producer is itself
    rw [producer_of_moved moved, call, ← producer_of_invocation call, produced]
  · exact .head (.moved moved call) (parts part reaches).2

theorem internal {i : Instruction} {plan : InputPlan} {inputs : Inputs} (held : store.Holds i)
    (notLeaf : i.isAnyOf leafFamilies = false) (notMoved : i.isOf "move-result" = false)
    (planned : i.inputPlan? = some plan) (registers : inputs.registers = plan.registers)
    (explained : ∀ r input, (r, input) ∈ inputs.toList → r ∈ plan.registers ∧
      store.Explains limits (store.source limits i r) input) :
    store.Explains limits (some i) (some (.internal i inputs)) := by
  intro node same
  cases same
  refine ⟨i, rfl, producer_of_notMoved notMoved, fun part reaches => ?_⟩
  rcases Node.reaches_internal.mp reaches with rfl | ⟨r, child, member, deeper⟩
  · refine ⟨⟨held, notMoved, by simp [Node.isLeaf, notLeaf], fun same => ?_, fun same => ?_⟩, .refl⟩
    · cases same
      rw [registers]
      exact Instruction.registers_of_plan planned
    · cases same
      intro r child member
      obtain ⟨d, found, produced, _⟩ := (explained r _ member).2 child rfl
      exact ⟨d, found, produced⟩
  · obtain ⟨wanted, explains⟩ := explained r _ member
    obtain ⟨d, found, _, parts⟩ := explains child rfl
    obtain ⟨justified, path⟩ := parts part deeper
    exact ⟨justified, .head (dependsOn_source notLeaf notMoved planned wanted found) path⟩

end Explains

end Store

/-! ## Queries remember justified graphs -/

/-- What is remembered for an instruction of the store explains it. -/
def Query.Justifies (query : Query) (store : Store) (limits : Limits) : Prop :=
  ∀ i outcome, store.Holds i → query.memo[i.addr]? = some outcome →
    store.Explains limits (some i) outcome

theorem Query.Justifies.settle {store : Store} {limits : Limits} {query query' : Query}
    (justifies : query.Justifies store limits) {i : Instruction} {outcome : Option Node}
    (held : store.Holds i) (explains : store.Explains limits (some i) outcome)
    (memo : query'.memo = query.memo.insert i.addr outcome) : query'.Justifies store limits := by
  intro j o held' found
  rw [memo, Query.getElem?_memo_insert] at found
  split at found
  · rename_i same
    cases found
    exact held'.eq held same ▸ explains
  · exact justifies j o held' found

namespace Store

variable {store : Store} {limits : Limits}

theorem justifies_explainWithin (addressed : store.Addressed) (depth : Nat)
    (found : Option Instruction) (query : Query) :
    (∀ i, found = some i → store.Holds i) → query.Justifies store limits →
      (store.explainWithin limits depth found query).2.Justifies store limits ∧
        store.Explains limits found (store.explainWithin limits depth found query).1 := by
  refine store.explainWithin_induction limits (P := fun _ found q o q' =>
    (∀ i, found = some i → store.Holds i) → q.Justifies store limits →
      q'.Justifies store limits ∧ store.Explains limits found o) ?_ ?_ ?_ ?_ depth found query
  · exact fun _ _ _ justifies => ⟨justifies, .none _⟩
  · exact fun _ _ _ justifies => ⟨justifies, .none _⟩
  · exact fun _ i _ outcome hit held justifies =>
      ⟨justifies, justifies i outcome (held i rfl) hit⟩
  · intro depth i query outcome query' _ step held justifies
    have held := held i rfl
    have start : (query.log (.entered i.addr)).Justifies store limits := justifies
    cases step with
    | leaf leaf =>
      have explains : store.Explains limits (some i) (some (.leaf i)) := .leaf held leaf
      exact ⟨start.settle held explains rfl, explains⟩
    | moved moved run =>
      obtain ⟨after, explains⟩ := run.2
        (fun d call => addressed.holds_of_recentInvocation call) start
      exact ⟨after.settle held (explains.moved moved) rfl, explains.moved moved⟩
    | unreadable => exact ⟨start.settle held (.none _) rfl, .none _⟩
    | node notLeaf notMoved planned gathered settles =>
      obtain ⟨after, answers⟩ := Gathered.collect (I := fun q => q.Justifies store limits)
        (A := fun found o _ => store.Explains limits found o)
        ((gathered.restrict notLeaf notMoved planned).mono fun h => ⟨h.1.1, h.1.2 fun d same =>
          addressed.holds_of_dependsOn (h.2 d same)⟩)
        planned (fun _ h => h) (fun _ h => h) start
      -- the node is explained by its inputs whether it is then kept or given up
      have explains := Explains.internal held notLeaf notMoved planned gathered.registers
        fun r input member => ⟨(answers r input member).1, (answers r input member).2.2⟩
      cases settles with
      | kept _ memo => exact ⟨after.settle held explains memo, explains⟩
      | dropped _ memo => exact ⟨after.settle held (.none _) memo, .none _⟩

/-- In the graphs that a query gives back, one question after the other, every node and every
edge is justified, and every leaf is reached from the instruction asked about through the
definitions that the searches find. -/
theorem explainEach_justified (loaded : store.Loaded) (limits : Limits) (asked : List Instruction)
    (held : ∀ i ∈ asked, store.Holds i) :
    List.Forall₂ (fun i outcome => ∀ graph, outcome = some graph →
        store.producer i = some graph.instr ∧
        (∀ part, graph.Reaches part → Justified store limits part) ∧
        ∀ leaf ∈ graph.leaves, Relation.ReflTransGen (store.DependsOn limits) i leaf)
      asked (store.explainEach limits asked .empty).1 := by
  have start : Query.empty.Justifies store limits := fun i o _ found => by
    simp [Query.empty] at found
  have step : ∀ i ∈ asked, ∀ query : Query, query.Justifies store limits →
      (store.explainIn limits i query).2.Justifies store limits ∧
        store.Explains limits (some i) (store.explainIn limits i query).1 :=
    fun i member query => justifies_explainWithin loaded.addressed _ (some i) query
      fun j same => by cases same; exact held i member
  obtain ⟨_, answers⟩ := store.explainEach_induction limits
    (A := fun i outcome => store.Explains limits (some i) outcome) step start
  refine answers.imp fun i outcome explains graph same => ?_
  obtain ⟨_, here, produced, parts⟩ := explains graph same
  cases here
  exact ⟨produced, fun part reaches => (parts part reaches).1,
    fun leaf member => (parts _ (Node.mem_leaves.mp member).reaches).2⟩

/-- A method that writes to a field what it computes from the same field, so that the definitions
form a cycle through instructions 0, 3 and 2. -/
def feedback : Store :=
  Store.empty.load ⟨[⟨"La;->m()V",
    [⟨"sget", [.reg ⟨.loc, 1⟩, .field "La;->F:I"]⟩,
      ⟨"const/4", [.reg ⟨.loc, 2⟩, .num "0x7"]⟩,
      ⟨"aget", [.reg ⟨.loc, 0⟩, .reg ⟨.loc, 1⟩, .reg ⟨.loc, 2⟩]⟩,
      ⟨"sput", [.reg ⟨.loc, 0⟩, .field "La;->F:I"]⟩,
      ⟨"aget", [.reg ⟨.loc, 3⟩, .reg ⟨.loc, 0⟩, .reg ⟨.loc, 1⟩]⟩,
      ⟨"invoke-static", [.regList [⟨.loc, 3⟩], .method "Lx;->use(I)V"]⟩]⟩], none⟩

/-- Asked about all instructions of `feedback`, with a limit of depth that cuts the cycle open and
a limit of size that some graphs exceed. -/
theorem explainEach_justified_feedback :
    (∀ i ∈ feedback.instructions.toList, feedback.Holds i) ∧
      (feedback.explainEach ⟨4, 4, 5⟩ feedback.instructions.toList .empty).1.map Option.isSome =
        [true, true, true, true, false, true] ∧
      List.Forall₂ (fun _ outcome => ∀ graph, outcome = some graph →
          ∀ part, graph.Reaches part → Justified feedback ⟨4, 4, 5⟩ part)
        feedback.instructions.toList
        (feedback.explainEach ⟨4, 4, 5⟩ feedback.instructions.toList .empty).1 := by
  have held : ∀ i ∈ feedback.instructions.toList, feedback.Holds i := by decide +kernel
  exact ⟨held, by decide +kernel,
    (explainEach_justified (.load .empty _) ⟨4, 4, 5⟩ feedback.instructions.toList held).imp
      fun _ _ answer graph same => (answer graph same).2.1⟩

end Store

end Backflow
