import Backflow.Proofs.Justified
import Backflow.Proofs.Reentry

/-! # The budget of a graph

The addresses of a graph are counted when the first node is kept at the address of its root, and
the number is used again for all later nodes at that address.  Later nodes can only be wider, as
each is put together from what is remembered by then, so the number is never too large; it is too
small where an address is entered again.

* `Query.Covers` says that what is remembered for a definition has all addresses of a node.
* `Budgeted` is the invariant: every input of a remembered node is covered, and a recorded size
  is the number of certain addresses of the node now remembered.
* `Store.explain_budget` says when a graph is within the limit.
-/

namespace Backflow

/-! ## Wider nodes -/

/-- A node with all addresses of `node` is remembered for the definition found. -/
def Query.Covers (query : Query) (found : Option Instruction) (node : Node) : Prop :=
  ∃ d other, found = some d ∧ query.memo[d.addr]? = some (some other) ∧
    node.addresses ⊆ other.addresses

/-- Where a node was remembered, a node with all its addresses is. -/
def Query.Widens (query query' : Query) : Prop :=
  ∀ (a : Address) node, query.memo[a]? = some (some node) →
    ∃ other, query'.memo[a]? = some (some other) ∧ node.addresses ⊆ other.addresses

theorem Query.Covers.widen {query query' : Query} {found : Option Instruction} {node : Node}
    (covers : query.Covers found node) (widens : query.Widens query') :
    query'.Covers found node := by
  obtain ⟨d, other, same, remembered, narrow⟩ := covers
  obtain ⟨wide, remembered, wider⟩ := widens _ _ remembered
  exact ⟨d, wide, same, remembered, narrow.trans wider⟩

theorem Query.Recalls.covers {query : Query} {depth : Nat} {found : Option Instruction}
    {node : Node} (recalls : query.Recalls depth found (some node)) : query.Covers found node := by
  obtain ⟨d, same, remembered⟩ := recalls.of_some
  exact ⟨d, node, same, remembered, fun _ member => member⟩

/-- What covers a node is what is recalled for its definition. -/
theorem Query.Covers.recalled {query : Query} {depth : Nat} {found : Option Instruction}
    {node : Node} {outcome : Option Node} (covers : query.Covers found node)
    (recalls : query.Recalls depth found outcome) (deep : 0 < depth) :
    ∃ other, outcome = some other ∧ node.addresses ⊆ other.addresses := by
  obtain ⟨d, other, same, remembered, narrow⟩ := covers
  have := (recalls.memo same deep).symm.trans remembered
  exact ⟨other, Option.some.inj this, narrow⟩

/-- Settling an address widens the memory if it widens the node at the address. -/
theorem Query.Widens.settle {query query' : Query} {address : Address} {outcome : Option Node}
    (memo : query'.memo = query.memo.insert address outcome)
    (wider : ∀ node, query.memo[address]? = some (some node) →
      ∃ other, outcome = some other ∧ node.addresses ⊆ other.addresses) : query.Widens query' := by
  intro a node remembered
  rw [memo, Query.getElem?_memo_insert]
  split
  · rename_i here
    subst here
    obtain ⟨other, same, narrow⟩ := wider node remembered
    exact ⟨other, by rw [same], narrow⟩
  · exact ⟨node, remembered, fun _ member => member⟩

/-- A node is as wide as its inputs. -/
theorem Node.addresses_internal_subset {i : Instruction} {inputs inputs' : Inputs}
    (each : ∀ r child, (r, some child) ∈ inputs.toList →
      ∃ child', (r, some child') ∈ inputs'.toList ∧ child.addresses ⊆ child'.addresses) :
    (Node.internal i inputs).addresses ⊆ (Node.internal i inputs').addresses := by
  intro a member
  obtain ⟨part, reaches, rfl⟩ := Node.mem_addresses.mp member
  rcases Node.reaches_internal.mp reaches with rfl | ⟨r, child, member, deeper⟩
  · exact Node.mem_addresses.mpr ⟨_, .refl, rfl⟩
  · obtain ⟨child', member', wider⟩ := each r child member
    obtain ⟨part', reaches', same⟩ :=
      Node.mem_addresses.mp (wider (Node.mem_addresses.mpr ⟨part, deeper, rfl⟩))
    exact Node.mem_addresses.mpr
      ⟨part', Node.reaches_internal.mpr (.inr ⟨r, child', member', reaches'⟩), same⟩

/-! ## What is remembered and recorded -/

/-- The state of a query that explains instructions of a store: nodes are remembered at their own
addresses, moved results beside them, inputs are covered, and kept sizes are within the limit. -/
structure Budgeted (store : Store) (limits : Limits) (query : Query) : Prop where
  leaf : ∀ {i node}, store.Holds i → i.isAnyOf leafFamilies = true →
    query.memo[i.addr]? = some (some node) → node = .leaf i
  moved : ∀ {i node}, store.Holds i → i.isOf "move-result" = true →
    query.memo[i.addr]? = some (some node) → query.Covers (store.recentInvocation i).value node
  internal : ∀ {i node}, store.Holds i → i.isAnyOf leafFamilies = false →
    i.isOf "move-result" = false → query.memo[i.addr]? = some (some node) →
    ∃ plan inputs, node = .internal i inputs ∧ i.inputPlan? = some plan ∧
      inputs.registers = plan.registers ∧
      (∀ r child, (r, some child) ∈ inputs.toList → query.Covers (store.source limits i r) child) ∧
      query.sizes[i.addr]? ≠ none
  sizes : ∀ {a : Address} {size}, query.sizes[a]? = some size → size ≤ limits.maxGraphSize ∧
    ∃ node counted, query.memo[a]? = some (some node) ∧ counted ⊆ node.addresses ∧
      counted.card = size

namespace Budgeted

variable {store : Store} {limits : Limits}

theorem empty : Budgeted store limits .empty where
  leaf _ _ found := by simp [Query.empty] at found
  moved _ _ found := by simp [Query.empty] at found
  internal _ _ _ found := by simp [Query.empty] at found
  sizes found := by simp [Query.empty] at found

theorem log {query : Query} (budgeted : Budgeted store limits query) (event : Event) :
    Budgeted store limits (query.log event) :=
  ⟨budgeted.leaf, budgeted.moved, budgeted.internal, budgeted.sizes⟩

theorem logScans {query : Query} (budgeted : Budgeted store limits query)
    (origins : List Address) : Budgeted store limits (query.logScans origins) :=
  ⟨budgeted.leaf, budgeted.moved, budgeted.internal, budgeted.sizes⟩

/-- An address is settled: its node becomes wider, and what is said of remembered nodes holds of
the new one. -/
theorem settle {query query' : Query} {i : Instruction} {outcome : Option Node}
    (budgeted : Budgeted store limits query) (held : store.Holds i)
    (memo : query'.memo = query.memo.insert i.addr outcome)
    (wider : ∀ node, query.memo[i.addr]? = some (some node) →
      ∃ other, outcome = some other ∧ node.addresses ⊆ other.addresses)
    (leaf : i.isAnyOf leafFamilies = true → ∀ node, outcome = some node → node = .leaf i)
    (moved : i.isOf "move-result" = true → ∀ node, outcome = some node →
      query.Covers (store.recentInvocation i).value node)
    (internal : i.isAnyOf leafFamilies = false → i.isOf "move-result" = false →
      ∀ node, outcome = some node → ∃ plan inputs, node = .internal i inputs ∧
        i.inputPlan? = some plan ∧ inputs.registers = plan.registers ∧
        (∀ r child, (r, some child) ∈ inputs.toList →
          query.Covers (store.source limits i r) child) ∧ query'.sizes[i.addr]? ≠ none)
    (kept : ∀ {a : Address}, a ≠ i.addr → query'.sizes[a]? = query.sizes[a]?)
    (sizes : ∀ {size}, query'.sizes[i.addr]? = some size → size ≤ limits.maxGraphSize ∧
      ∃ node counted, outcome = some node ∧ counted ⊆ node.addresses ∧ counted.card = size) :
    Budgeted store limits query' := by
  have widens : query.Widens query' := .settle memo wider
  -- an instruction is `i`, or the memory at its address has not changed
  have split : ∀ {j node}, store.Holds j → query'.memo[j.addr]? = some (some node) →
      (j = i ∧ outcome = some node) ∨ j.addr ≠ i.addr ∧ query.memo[j.addr]? = some (some node) := by
    intro j node held' found
    rw [memo, Query.getElem?_memo_insert] at found
    split at found
    · rename_i here
      exact .inl ⟨held'.eq held here, Option.some.inj found⟩
    · rename_i elsewhere
      exact .inr ⟨elsewhere, found⟩
  refine ⟨fun held' family found => ?_, fun held' family found => ?_,
    fun {j node} held' notLeaf notMoved found => ?_, fun {a size} found => ?_⟩
  · rcases split held' found with ⟨rfl, here⟩ | ⟨_, before⟩
    · exact leaf family _ here
    · exact budgeted.leaf held' family before
  · rcases split held' found with ⟨rfl, here⟩ | ⟨_, before⟩
    · exact (moved family _ here).widen widens
    · exact (budgeted.moved held' family before).widen widens
  · rcases split held' found with ⟨rfl, here⟩ | ⟨elsewhere, before⟩
    · obtain ⟨plan, inputs, same, planned, registers, covered, recorded⟩ :=
        internal notLeaf notMoved node here
      exact ⟨plan, inputs, same, planned, registers,
        fun r child member => (covered r child member).widen widens, recorded⟩
    · obtain ⟨plan, inputs, same, planned, registers, covered, recorded⟩ :=
        budgeted.internal held' notLeaf notMoved before
      exact ⟨plan, inputs, same, planned, registers,
        fun r child member => (covered r child member).widen widens, kept elsewhere ▸ recorded⟩
  · by_cases here : a = i.addr
    · subst here
      obtain ⟨fits, node, counted, same, narrow, card⟩ := sizes found
      exact ⟨fits, node, counted, by simp [memo, same], narrow, card⟩
    · rw [kept here] at found
      obtain ⟨fits, node, counted, remembered, narrow, card⟩ := budgeted.sizes found
      obtain ⟨other, remembered, wider⟩ := widens _ _ remembered
      exact ⟨fits, other, counted, remembered, narrow.trans wider, card⟩

/-- An address is settled for which nothing is remembered, with a leaf or with nothing. -/
theorem settle_unmet {query : Query} {i : Instruction} {outcome : Option Node}
    (budgeted : Budgeted store limits query) (held : store.Holds i)
    (unmet : query.memo[i.addr]? = none) (notMoved : i.isOf "move-result" = false)
    (only : ∀ node, outcome = some node → i.isAnyOf leafFamilies = true ∧ node = .leaf i) :
    Budgeted store limits (query.settle i.addr outcome).2 := by
  refine budgeted.settle held rfl (fun node remembered => ?_)
    (fun _ node same => (only node same).2) (fun moved => ?_) (fun notLeaf _ node same => ?_)
    (fun _ => rfl) (fun {size} found => ?_)
  · simp [unmet] at remembered
  · simp [notMoved] at moved
  · simp [(only node same).1] at notLeaf
  · obtain ⟨_, _, _, remembered, _⟩ := budgeted.sizes found
    simp [unmet] at remembered

/-- A node put together from what is remembered has all addresses of the node remembered at its
own address. -/
theorem wider {query : Query} {i : Instruction} {plan : InputPlan} {inputs : Inputs} {depth : Nat}
    (budgeted : Budgeted store limits query) (held : store.Holds i)
    (notLeaf : i.isAnyOf leafFamilies = false) (notMoved : i.isOf "move-result" = false)
    (planned : i.inputPlan? = some plan) (registers : inputs.registers = plan.registers)
    (deep : 0 < depth)
    (recalls : ∀ r input, (r, input) ∈ inputs.toList →
      query.Recalls depth (store.source limits i r) input)
    {node : Node} (remembered : query.memo[i.addr]? = some (some node)) :
    node.addresses ⊆ (Node.internal i inputs).addresses := by
  obtain ⟨plan', inputs', rfl, planned', registers', covered, _⟩ :=
    budgeted.internal held notLeaf notMoved remembered
  cases planned.symm.trans planned'
  refine Node.addresses_internal_subset fun r child member => ?_
  -- both nodes read the same registers
  have read : r ∈ inputs.registers := by
    rw [registers, ← registers', Inputs.registers_eq_map]
    exact List.mem_map_of_mem (f := (·.1)) member
  rw [Inputs.registers_eq_map] at read
  obtain ⟨⟨s, input⟩, member', rfl⟩ := List.mem_map.mp read
  obtain ⟨other, rfl, wider⟩ :=
    (covered s child member).recalled (recalls s input member') deep
  exact ⟨other, member', wider⟩

/-- The number compared with the limit is that of certain addresses of the node. -/
theorem exists_counted {query : Query} {node : Node} (budgeted : Budgeted store limits query)
    (wider : ∀ {other}, query.memo[node.addr]? = some (some other) →
      other.addresses ⊆ node.addresses) :
    ∃ counted, counted ⊆ node.addresses ∧ counted.card = query.count node := by
  unfold Query.count
  cases recorded : query.sizes[node.addr]? with
  | none => exact ⟨node.met, node.met_subset, node.card_met⟩
  | some size =>
    obtain ⟨_, other, counted, remembered, narrow, card⟩ := budgeted.sizes recorded
    exact ⟨counted, narrow.trans (wider remembered), card⟩

theorem settles {query query' : Query} {i : Instruction} {plan : InputPlan} {inputs : Inputs}
    {outcome : Option Node} (budgeted : Budgeted store limits query) (held : store.Holds i)
    (notLeaf : i.isAnyOf leafFamilies = false) (notMoved : i.isOf "move-result" = false)
    (planned : i.inputPlan? = some plan) (registers : inputs.registers = plan.registers)
    (covered : ∀ r child, (r, some child) ∈ inputs.toList →
      query.Covers (store.source limits i r) child)
    (wider : ∀ {node}, query.memo[i.addr]? = some (some node) →
      node.addresses ⊆ (Node.internal i inputs).addresses)
    (settles : Settles limits (.internal i inputs) query outcome query') :
    Budgeted store limits query' := by
  have notFamily : i.isAnyOf leafFamilies = true → False := fun leaf => by simp [notLeaf] at leaf
  have notResult : i.isOf "move-result" = true → False := fun moved => by simp [notMoved] at moved
  cases settles with
  | kept fits memo sizes journal =>
    obtain ⟨counted, narrow, card⟩ : ∃ counted, counted ⊆ (Node.internal i inputs).addresses ∧
        counted.card = query.count (.internal i inputs) := budgeted.exists_counted wider
    refine budgeted.settle held memo (fun node remembered => ⟨_, rfl, wider remembered⟩)
      (fun leaf => (notFamily leaf).elim) (fun moved => (notResult moved).elim)
      (fun _ _ node same => ?_) (fun elsewhere => by simp [sizes, elsewhere])
      (fun {size} found => ?_)
    · cases same
      exact ⟨plan, inputs, rfl, planned, registers, covered, by simp [sizes]⟩
    · have counts : query.count (.internal i inputs) = size := by simpa [sizes] using found
      exact ⟨counts ▸ fits, _, counted, rfl, narrow, card.trans counts⟩
  | dropped large memo sizes journal =>
    refine budgeted.settle held memo (fun node remembered => ?_)
      (fun leaf => (notFamily leaf).elim) (fun moved => (notResult moved).elim)
      (fun _ _ node same => nomatch same) (fun elsewhere => by simp [sizes, elsewhere])
      (fun {size} found => by simp [sizes] at found)
    -- a node is remembered with its size, and what is recorded is within the limit
    obtain ⟨_, _, _, _, _, _, recorded⟩ := budgeted.internal held notLeaf notMoved remembered
    obtain ⟨size, recorded⟩ := Option.ne_none_iff_exists'.mp recorded
    have fits := (budgeted.sizes recorded).1
    have counts : query.count (.internal i inputs) = size := by simp [Query.count, recorded]
    omega

/-- A node remembered at its own address was counted and found within the limit. -/
theorem count_le {query : Query} {i : Instruction} {node : Node}
    (budgeted : Budgeted store limits query) (positive : 1 ≤ limits.maxGraphSize)
    (held : store.Holds i) (notMoved : i.isOf "move-result" = false)
    (remembered : query.memo[i.addr]? = some (some node)) :
    node.addr = i.addr ∧ query.count node ≤ limits.maxGraphSize := by
  cases family : i.isAnyOf leafFamilies with
  | true =>
    obtain rfl := budgeted.leaf held family remembered
    refine ⟨rfl, ?_⟩
    unfold Query.count
    cases recorded : query.sizes[(Node.leaf i).addr]? with
    | none =>
      have one : (Node.leaf i).size ≤ 1 := (Node.leaf i).size_le
      exact one.trans positive
    | some size => exact (budgeted.sizes recorded).1
  | false =>
    obtain ⟨_, inputs, rfl, _, _, _, recorded⟩ :=
      budgeted.internal held family notMoved remembered
    obtain ⟨size, recorded⟩ := Option.ne_none_iff_exists'.mp recorded
    refine ⟨rfl, ?_⟩
    simpa [Query.count, recorded] using (budgeted.sizes recorded).1

end Budgeted

namespace Store

variable {store : Store} {limits : Limits}

theorem budgeted_explainWithin (addressed : store.Addressed) (depth : Nat)
    (found : Option Instruction) (query : Query) :
    (∀ i, found = some i → store.Holds i) → Budgeted store limits query →
      Budgeted store limits (store.explainWithin limits depth found query).2 := by
  refine store.explainWithin_induction limits (P := fun _ found q _ q' =>
    (∀ i, found = some i → store.Holds i) → Budgeted store limits q →
      Budgeted store limits q') ?_ ?_ ?_ ?_ depth found query
  · exact fun _ _ _ budgeted => budgeted
  · exact fun _ _ _ budgeted => budgeted
  · exact fun _ _ _ _ _ _ budgeted => budgeted
  intro depth i query outcome query' unmet step held budgeted
  have held := held i rfl
  have entered := budgeted.log (.entered i.addr)
  cases step with
  | leaf leaf =>
    refine entered.settle_unmet held unmet (Instruction.leaf_not_moved leaf) fun node same => ?_
    exact ⟨leaf, (Option.some.inj same).symm⟩
  | moved moved run =>
    rename_i mid
    obtain ⟨kept, explained⟩ := run
    have after := explained (fun d call => addressed.holds_of_recentInvocation call)
      (entered.logScans _)
    -- a node remembered for `i` by now comes from entering `i` again on the way
    have wider : ∀ node, mid.memo[i.addr]? = some (some node) →
        ∃ other, outcome = some other ∧ node.addresses ⊆ other.addresses :=
      fun node remembered => (after.moved held moved remembered).recalled kept.recalls
        (Query.pos_of_remembered kept.still unmet remembered)
    refine after.settle held rfl wider (fun leaf => ?_) (fun _ node same => ?_)
      (fun _ notMoved => ?_) (fun _ => rfl) (fun {size} found => ?_)
    · simp [Instruction.leaf_not_moved leaf] at moved
    · subst same
      exact kept.recalls.covers
    · simp [moved] at notMoved
    · obtain ⟨fits, node, counted, remembered, narrow, card⟩ := after.sizes found
      obtain ⟨other, same, wider⟩ := wider node remembered
      exact ⟨fits, other, counted, same, narrow.trans wider, card⟩
  | unreadable notLeaf notMoved unplanned =>
    exact entered.settle_unmet held unmet notMoved fun node same => nomatch same
  | node notLeaf notMoved planned gathered settles =>
    rename_i plan inputs mid
    have registers := gathered.registers
    obtain ⟨after, answers⟩ := Gathered.collect (I := Budgeted store limits)
      (A := fun _ _ _ => True)
      ((gathered.restrict notLeaf notMoved planned).mono fun h => ⟨h.1.1, fun budgeted =>
        ⟨h.1.2 (fun d same => addressed.holds_of_dependsOn (h.2 d same)) budgeted, trivial⟩⟩)
      planned (fun origins h => h.logScans origins) (fun _ _ => trivial) entered
    have still : depth = 0 → mid.memo = query.memo := by
      intro zero
      have same := gathered.still fun run => run.1.still zero
      exact same
    have wider : ∀ {node}, mid.memo[i.addr]? = some (some node) →
        node.addresses ⊆ (Node.internal i inputs).addresses :=
      fun remembered => after.wider held notLeaf notMoved planned registers
        (Query.pos_of_remembered still unmet remembered)
        (fun r input member => (answers r input member).2.1) remembered
    exact after.settles held notLeaf notMoved planned registers
      (fun r child member => (answers r _ member).2.1.covers) wider settles

/-! ## The limit of size -/

/-- A moved result is explained by what is remembered for its invocation. -/
theorem explainIn_moved {i : Instruction} (moved : i.isOf "move-result" = true) (query : Query)
    (unmet : query.memo[i.addr]? = none) {graph : Node}
    (found : (store.explainIn limits i query).1 = some graph) :
    ∃ d, (store.recentInvocation i).value = some d ∧
      (store.explainIn limits i query).2.memo[d.addr]? = some (some graph) := by
  have run : store.explainIn limits i query =
      (store.explainWithin limits limits.maxStage (store.recentInvocation i).value
        ((query.log (.entered i.addr)).logScans (store.recentInvocation i).origins)).2.settle i.addr
        (store.explainWithin limits limits.maxStage (store.recentInvocation i).value
          ((query.log (.entered i.addr)).logScans (store.recentInvocation i).origins)).1 := by
    rw [explainIn, explainWithin, unmet]
    simp [explainEntered, moved, Instruction.moved_not_leaf moved]
  have kept := store.kept_explainWithin limits limits.maxStage (store.recentInvocation i).value
    ((query.log (.entered i.addr)).logScans (store.recentInvocation i).origins)
  -- only the outcome and the state matter from here on, not how they were computed
  revert run kept
  generalize store.explainWithin limits limits.maxStage (store.recentInvocation i).value
    ((query.log (.entered i.addr)).logScans (store.recentInvocation i).origins) = outcome
  intro run kept
  rw [run] at found ⊢
  simp only [Query.settle] at found
  rw [found] at kept
  obtain ⟨d, call, remembered⟩ := kept.recalls.of_some
  refine ⟨d, call, ?_⟩
  simp only [Query.memo_settle, Query.getElem?_memo_insert, found]
  split
  · rfl
  · exact remembered

/-- The graph of an instruction is remembered for an instruction that is no moved result. -/
theorem exists_root (addressed : store.Addressed) {op : Instruction} (held : store.Holds op)
    {graph : Node} (found : store.explain limits op = some graph) :
    ∃ i, store.Holds i ∧ i.isOf "move-result" = false ∧
      (store.explainIn limits op .empty).2.memo[i.addr]? = some (some graph) := by
  cases moved : op.isOf "move-result" with
  | false => exact ⟨op, held, moved, found ▸ store.memo_explainIn limits op .empty⟩
  | true =>
    obtain ⟨d, call, remembered⟩ := explainIn_moved moved .empty (by simp [Query.empty]) found
    exact ⟨d, addressed.holds_of_recentInvocation call, notMoved_of_recentInvocation call,
      remembered⟩

/-- What is counted of a graph is within the limit.  Every address is counted if no address was
entered twice, as it is where definitions form no cycle. -/
theorem explain_budget (loaded : store.Loaded) (positive : 1 ≤ limits.maxGraphSize)
    {op : Instruction} (held : store.Holds op) {graph : Node}
    (found : store.explain limits op = some graph) :
    ∃ counted, counted ⊆ graph.addresses ∧
      counted.card = (store.explainIn limits op .empty).2.count graph ∧
      counted.card ≤ limits.maxGraphSize ∧
      ((store.explainIn limits op .empty).2.EntersOnce → counted = graph.addresses) ∧
      (store.AcyclicFrom limits op → (store.explainIn limits op .empty).2.EntersOnce) := by
  have addressed := loaded.addressed
  have budgeted : Budgeted store limits (store.explainIn limits op .empty).2 :=
    budgeted_explainWithin addressed (limits.maxStage + 1) (some op) .empty
      (fun i same => by cases same; exact held) .empty
  obtain ⟨i, heldRoot, notMoved, remembered⟩ := exists_root addressed held found
  obtain ⟨root, fits⟩ := budgeted.count_le positive heldRoot notMoved remembered
  obtain ⟨counted, narrow, card⟩ : ∃ counted, counted ⊆ graph.addresses ∧
      counted.card = (store.explainIn limits op .empty).2.count graph := by
    refine budgeted.exists_counted fun {other} here => ?_
    rw [root] at here
    cases remembered.symm.trans here
    exact fun _ member => member
  refine ⟨counted, narrow, card, card ▸ fits, fun once => ?_, entersOnce_of_acyclic addressed held⟩
  -- with one node at each address, the walk counts them all
  obtain ⟨keyed, counts⟩ := keyed_explain once found
  refine Finset.eq_of_subset_of_card_le narrow ?_
  rw [← keyed.size_eq, ← counts]
  exact card.ge

def feedbackElement : Instruction :=
  ⟨2, 0, "aget", [.reg ⟨.loc, 0⟩, .reg ⟨.loc, 1⟩, .reg ⟨.loc, 2⟩]⟩

/-- Cut short before the cycle closes, the graph has four addresses and all are counted. -/
theorem explain_budget_cut :
    feedback.Holds feedbackElement ∧
      (feedback.explainIn ⟨4, 2, 5⟩ feedbackElement .empty).2.EntersOnce ∧
      ∃ graph, feedback.explain ⟨4, 2, 5⟩ feedbackElement = some graph ∧
        graph.addresses.card ≤ 4 := by
  have held : feedback.Holds feedbackElement := by decide +kernel
  have once : (feedback.explainIn ⟨4, 2, 5⟩ feedbackElement .empty).2.EntersOnce := by
    decide +kernel
  obtain ⟨graph, found⟩ : ∃ graph, feedback.explain ⟨4, 2, 5⟩ feedbackElement = some graph :=
    Option.isSome_iff_exists.mp (by decide +kernel)
  obtain ⟨counted, _, _, within, all, _⟩ :=
    explain_budget (.load .empty _) (by decide) held found
  exact ⟨held, once, graph, found, all once ▸ within⟩

def feedbackRead : Instruction :=
  ⟨0, 0, "sget", [.reg ⟨.loc, 1⟩, .field "La;->F:I"]⟩

/-- With a limit of one address, the graph of the read has two: the one counted when the cycle
came back to the read, and that of the write. -/
theorem explain_feedback_over_budget :
    feedback.Loaded ∧ feedback.Holds feedbackRead ∧
      ∃ graph, feedback.explain ⟨1, 3, 5⟩ feedbackRead = some graph ∧
        ¬ graph.addresses.card ≤ 1 := by
  refine ⟨.load .empty _, by decide +kernel, ?_⟩
  have counted : (feedback.explain ⟨1, 3, 5⟩ feedbackRead).map (·.addresses.card) = some 2 := by
    decide +kernel
  obtain ⟨graph, found, two⟩ := Option.map_eq_some_iff.mp counted
  exact ⟨graph, found, by omega⟩

end Store

end Backflow
