import Backflow.Proofs.Answers

/-! # Chains of copies

A register can be a copy of a copy of a constant.  A query follows such a chain, across call sites
where it has to, exactly as many definitions deep as its limit says: what lies within is settled
and in the graph, what lies beyond is not looked at, and nothing is given up.

* `CopyChain` lists the definitions of a chain, `CopyChain.nodup` says that none comes twice: each
  one determines the next, so a chain that came back would never end.
* `Traced` is the graph of a chain that is followed to a given depth.
* `Follows` is what following a chain does to a query, and `Store.follows_explainWithin` the
  induction over the chain.
-/

namespace Backflow

/-- The definition of a register that reaches an instruction, the definition that this one copies,
and so on to a constant with the given literal. -/
inductive CopyChain (store : Store) (hops : Nat) :
    Instruction → Register → List Instruction → String → Prop
  | constant {i d : Instruction} {r : Register} {operand : Operand}
      (found : store.recentLoad hops i r = some d) (const : d.isOf "const" = true)
      (literal : d.operands[1]? = some operand) : CopyChain store hops i r [d] operand.value
  | copy {i d : Instruction} {r s : Register} {rest : List Instruction} {value : String}
      (found : store.recentLoad hops i r = some d) (moves : d.isOf "move" = true)
      (notResult : d.isOf "move-result" = false) (notException : d.isOf "move-exception" = false)
      (operand : d.operandSet? 1 = some [s]) (further : CopyChain store hops d s rest value) :
      CopyChain store hops i r (d :: rest) value

/-- Instructions of a store are told apart by their addresses. -/
theorem Store.nodup_addr_of_holds {store : Store} {instrs : List Instruction}
    (holds : ∀ i ∈ instrs, store.Holds i) (nodup : instrs.Nodup) :
    (instrs.map Instruction.addr).Nodup :=
  nodup.map_on fun i hi j hj same => (holds i hi).eq (holds j hj) same

namespace CopyChain

variable {store : Store} {hops : Nat} {i d : Instruction} {r s : Register}
  {chain chain' : List Instruction} {value value' : String}

theorem const_not_move (const : d.isOf "const" = true) : d.isOf "move" = false :=
  Instruction.not_isOf const (by decide +kernel)

/-- Of the moves, only that of an exception produces a value by itself. -/
theorem move_not_leaf (moves : d.isOf "move" = true)
    (notException : d.isOf "move-exception" = false) : d.isAnyOf leafFamilies = false := by
  have notConst : d.isOf "const" = false := Instruction.not_isOf moves (by decide +kernel)
  have notNew : d.isOf "new-" = false := Instruction.not_isOf moves (by decide +kernel)
  simp [Instruction.isAnyOf, leafFamilies, notConst, notNew, notException]

theorem inputPlan?_move (moves : d.isOf "move" = true) :
    d.inputPlan? = (d.operandSet? 1).map .each := by
  simp [Instruction.inputPlan?, Instruction.isAnyOf, moves]

theorem unique (first : CopyChain store hops i r chain value)
    (second : CopyChain store hops i r chain' value') : chain = chain' := by
  induction first generalizing chain' with
  | constant found const _ =>
    cases second with
    | constant found' _ _ =>
      cases found.symm.trans found'
      rfl
    | copy found' moves _ _ _ _ =>
      cases found.symm.trans found'
      simp [const_not_move const] at moves
  | copy found moves _ _ operand _ ih =>
    cases second with
    | constant found' const _ =>
      cases found.symm.trans found'
      simp [const_not_move const] at moves
    | copy found' _ _ _ operand' further' =>
      cases found.symm.trans found'
      cases operand.symm.trans operand'
      rw [ih further']

/-- What a copy on the chain copies is the head of a shorter chain. -/
theorem exists_shorter (chained : CopyChain store hops i r chain value) (member : d ∈ chain)
    (moves : d.isOf "move" = true) (operand : d.operandSet? 1 = some [s]) :
    ∃ rest, rest.length < chain.length ∧ CopyChain store hops d s rest value := by
  induction chained with
  | constant _ const _ =>
    obtain rfl := List.mem_singleton.mp member
    simp [const_not_move const] at moves
  | @copy _ _ _ _ rest _ _ _ _ _ operand' further ih =>
    cases member with
    | head =>
      cases operand.symm.trans operand'
      exact ⟨rest, Nat.lt_succ_self _, further⟩
    | tail _ member =>
      obtain ⟨rest', shorter, further'⟩ := ih member
      exact ⟨rest', Nat.lt_succ_of_lt shorter, further'⟩

theorem nodup (chained : CopyChain store hops i r chain value) : chain.Nodup := by
  induction chained with
  | constant => exact List.nodup_singleton _
  | copy _ moves _ _ operand further ih =>
    refine List.nodup_cons.mpr ⟨fun member => ?_, ih⟩
    -- the chain below a repeated copy would be shorter than itself
    obtain ⟨rest', shorter, further'⟩ := further.exists_shorter member moves operand
    rw [further.unique further'] at shorter
    exact Nat.lt_irrefl _ shorter

theorem holds (chained : CopyChain store hops i r chain value) (addressed : store.Addressed) :
    ∀ d ∈ chain, store.Holds d := by
  have reaches : ∀ {i d : Instruction} {r : Register}, store.recentLoad hops i r = some d →
      store.Holds d := fun found =>
    addressed.holds_of_definition (Store.recentLoad_eq_definition .. ▸ found)
  induction chained with
  | constant found => exact List.forall_mem_singleton.mpr (reaches found)
  | copy found _ _ _ _ _ ih => exact List.forall_mem_cons.mpr ⟨reaches found, ih⟩

theorem nodup_addr (chained : CopyChain store hops i r chain value) (addressed : store.Addressed) :
    (chain.map Instruction.addr).Nodup :=
  Store.nodup_addr_of_holds (chained.holds addressed) chained.nodup

theorem not_invoke (chained : CopyChain store hops i r chain value) :
    ∀ d ∈ chain, d.isOf "invoke" = false := by
  induction chained with
  | constant _ const =>
    exact List.forall_mem_singleton.mpr (Instruction.not_isOf const (by decide +kernel))
  | copy _ moves _ _ _ _ ih =>
    exact List.forall_mem_cons.mpr ⟨Instruction.not_isOf moves (by decide +kernel), ih⟩

end CopyChain

/-! ## The graph of a chain -/

/-- The graph of a chain followed to a depth: a path that ends with the constant, or with a copy
whose input is left open. -/
inductive Traced : (depth : Nat) → List Instruction → Option Node → Prop
  | cut {chain : List Instruction} : Traced 0 chain none
  | constant {depth : Nat} {d : Instruction} (leaf : d.isAnyOf leafFamilies = true) :
      Traced (depth + 1) [d] (some (.leaf d))
  | copy {depth : Nat} {d : Instruction} {s : Register} {rest : List Instruction}
      {outcome : Option Node} (notLeaf : d.isAnyOf leafFamilies = false)
      (planned : d.inputPlan? = some (.each [s])) (further : Traced depth rest outcome) :
      Traced (depth + 1) (d :: rest) (some (.internal d (.cons s outcome .nil)))

namespace Node

variable {d : Instruction} {s : Register} {outcome : Option Node} {w : String}

theorem reaches_single {part : Node} :
    Reaches (.internal d (.cons s outcome .nil)) part ↔
      part = .internal d (.cons s outcome .nil) ∨
        ∃ child, outcome = some child ∧ child.Reaches part := by
  rw [reaches_internal]
  simp [Inputs.toList, eq_comm]

theorem reachesConstant_leaf :
    ReachesConstant (.leaf d) w ↔ d.constant? = some w := by
  simp [ReachesConstant, reaches_leaf]

theorem reachesConstant_single :
    ReachesConstant (.internal d (.cons s outcome .nil)) w ↔
      ∃ child, outcome = some child ∧ child.ReachesConstant w := by
  constructor
  · rintro ⟨leaf, reaches, literal⟩
    rcases reaches_single.mp reaches with same | ⟨child, input, deeper⟩
    · cases same
    · exact ⟨child, input, leaf, deeper, literal⟩
  · rintro ⟨child, input, leaf, deeper, literal⟩
    exact ⟨leaf, reaches_single.mpr (.inr ⟨child, input, deeper⟩), literal⟩

end Node

namespace Traced

variable {store : Store} {hops depth : Nat} {i : Instruction} {r : Register}
  {chain : List Instruction} {value : String} {outcome : Option Node} {node part : Node}

theorem part_mem (traced : Traced depth chain outcome) (here : outcome = some node)
    (reaches : node.Reaches part) : part.instr ∈ chain := by
  induction traced generalizing node with
  | cut => cases here
  | constant =>
    cases here
    rw [Node.reaches_leaf.mp reaches]
    exact .head _
  | copy _ _ further ih =>
    cases here
    rcases Node.reaches_single.mp reaches with rfl | ⟨child, input, deeper⟩
    · exact .head _
    · exact .tail _ (ih input deeper)

theorem keyed (traced : Traced depth chain outcome) (here : outcome = some node)
    (distinct : (chain.map Instruction.addr).Nodup) : node.Keyed := by
  induction traced generalizing node with
  | cut => cases here
  | constant =>
    cases here
    intro m n hm hn _
    rw [Node.reaches_leaf.mp hm, Node.reaches_leaf.mp hn]
  | @copy _ d s rest outcome _ _ further ih =>
    cases here
    obtain ⟨fresh, distinct⟩ := List.nodup_cons.mp distinct
    -- nothing below the copy has its address
    have elsewhere : ∀ {child part : Node}, outcome = some child → child.Reaches part →
        part.addr ≠ d.addr := fun input reaches same =>
      fresh (same ▸ List.mem_map_of_mem (further.part_mem input reaches))
    intro m n hm hn same
    rcases Node.reaches_single.mp hm with rfl | ⟨child, input, hm⟩ <;>
      rcases Node.reaches_single.mp hn with rfl | ⟨child', input', hn⟩
    · rfl
    · exact absurd same.symm (elsewhere input' hn)
    · exact absurd same (elsewhere input hm)
    · cases input.symm.trans input'
      exact ih input distinct m n hm hn same

theorem card_addresses_le (traced : Traced depth chain outcome) (here : outcome = some node) :
    node.addresses.card ≤ chain.length := by
  have listed : node.addresses ⊆ (chain.map Instruction.addr).toFinset := by
    intro a member
    obtain ⟨part, reaches, rfl⟩ := Node.mem_addresses.mp member
    exact List.mem_toFinset.mpr (List.mem_map_of_mem (traced.part_mem here reaches))
  calc node.addresses.card
      ≤ (chain.map Instruction.addr).toFinset.card := Finset.card_le_card listed
    _ ≤ (chain.map Instruction.addr).length := List.toFinset_card_le _
    _ = chain.length := List.length_map _

/-- The constant of the chain is the only one that the graph reaches, and it reaches it exactly if
the chain is no longer than the depth. -/
theorem reachesConstant (traced : Traced depth chain outcome)
    (chained : CopyChain store hops i r chain value) (w : String) :
    (∃ node, outcome = some node ∧ node.ReachesConstant w) ↔ chain.length ≤ depth ∧ w = value := by
  induction chained generalizing depth outcome with
  | @constant i d r operand found const literal =>
    have constant : d.constant? = some operand.value :=
      Instruction.constant?_eq_some.mpr ⟨const, operand, literal, rfl⟩
    cases traced with
    | cut => simp
    | constant => simp [Node.reachesConstant_leaf, constant, eq_comm]
    | copy notLeaf => simp [Instruction.const_leaf const] at notLeaf
  | copy found moves notResult notException operand further ih =>
    cases traced with
    | cut => simp
    | constant leaf => simp [CopyChain.move_not_leaf moves notException] at leaf
    | copy _ _ traced => simp [Node.reachesConstant_single, ih traced]

/-- The constants that the graph shows: the one of the chain, or none if the chain is cut. -/
theorem possibleConstants (traced : Traced depth chain outcome)
    (chained : CopyChain store hops i r chain value)
    (distinct : (chain.map Instruction.addr).Nodup) :
    (outcome.map Node.possibleConstants).getD [] =
      if chain.length ≤ depth then [value] else [] := by
  have reached := traced.reachesConstant chained
  have members : ∀ w, w ∈ (outcome.map Node.possibleConstants).getD [] ↔
      chain.length ≤ depth ∧ w = value := by
    intro w
    rw [← reached]
    cases outcome with
    | none => simp
    | some node =>
      -- the graph has one node at each address, so the walk comes to all that is reached
      have keyed := traced.keyed rfl distinct
      simpa [Node.mem_possibleConstants] using
        ⟨Node.MeetsConstant.reaches, keyed.meetsConstant⟩
  split
  · rename_i short
    have ordered : ((outcome.map Node.possibleConstants).getD []).Pairwise (· < ·) :=
      pairwise_collected fun _ => pairwise_textSet _
    have once : ((outcome.map Node.possibleConstants).getD []).Nodup := by
      refine ordered.imp ?_
      intro v w below same
      exact String.lt_irrefl w (same ▸ below)
    refine List.perm_singleton.mp
      ((List.perm_ext_iff_of_nodup once (List.nodup_singleton value)).mpr fun w => ?_)
    simp [members, short]
  · rename_i long
    refine List.eq_nil_iff_forall_not_mem.mpr fun w member => ?_
    exact long ((members w).mp member).1

end Traced

/-! ## Following a chain -/

/-- What following a chain to a depth does to a query: it settles the definitions within the depth
and nothing else, gives up nothing, and comes out with the graph of the chain. -/
structure Follows (chain : List Instruction) (depth : Nat) (query : Query) (outcome : Option Node)
    (query' : Query) : Prop where
  traced : Traced depth chain outcome
  visited : query'.visited = query.visited + min chain.length depth
  truncated : query'.truncated = query.truncated
  elsewhere : ∀ a : Address, (∀ d ∈ chain, d.addr ≠ a) →
    query'.memo[a]? = query.memo[a]? ∧ query'.sizes[a]? = query.sizes[a]?

def Query.Unaware (query : Query) (chain : List Instruction) : Prop :=
  ∀ d ∈ chain, query.memo[d.addr]? = none ∧ query.sizes[d.addr]? = none

namespace Query

theorem visited_insert {query query' : Query} {address : Address} {outcome : Option Node}
    (unmet : query.memo[address]? = none) (memo : query'.memo = query.memo.insert address outcome) :
    query'.visited = query.visited + 1 := by
  have fresh : query.memo.contains address = false := by
    rw [Std.TreeMap.contains_eq_isSome_getElem?, unmet]
    rfl
  simp [visited, memo, Std.TreeMap.size_insert, fresh]

theorem truncated_logScans (query : Query) (origins : List Address) :
    (query.logScans origins).truncated = query.truncated := by
  simp [truncated, logScans, Event.isOversized, Function.comp_def]

end Query

namespace Follows

variable {limits : Limits} {depth : Nat} {d : Instruction} {s : Register}
  {rest : List Instruction} {query query' mid : Query} {outcome : Option Node}

theorem cut (chain : List Instruction) (query : Query) : Follows chain 0 query none query where
  traced := .cut
  visited := by simp
  truncated := rfl
  elsewhere _ _ := ⟨rfl, rfl⟩

theorem constant (leaf : d.isAnyOf leafFamilies = true) (unmet : query.memo[d.addr]? = none)
    (depth : Nat) :
    Follows [d] (depth + 1) query (some (.leaf d))
      ((query.log (.entered d.addr)).settle d.addr (some (.leaf d))).2 where
  traced := .constant leaf
  visited := by
    rw [List.length_singleton, Nat.min_eq_left (Nat.succ_pos depth)]
    exact Query.visited_insert unmet rfl
  truncated := by simp [Query.truncated, Query.log, Event.isOversized]
  elsewhere a other := by
    have different : a ≠ d.addr := Ne.symm (other d (.head _))
    refine ⟨?_, rfl⟩
    rw [Query.memo_settle, Query.getElem?_memo_insert, if_neg different, Query.memo_log]

/-- The instruction in front of a chain is settled when the chain has been followed. -/
theorem copy (notLeaf : d.isAnyOf leafFamilies = false) (planned : d.inputPlan? = some (.each [s]))
    (room : rest.length + 1 ≤ limits.maxGraphSize) (unaware : query.Unaware (d :: rest))
    (distinct : ((d :: rest).map Instruction.addr).Nodup) (origins : List Address)
    (followed : Follows rest depth ((query.log (.entered d.addr)).logScans origins) outcome mid) :
    Follows (d :: rest) (depth + 1) query
      (mid.settleNode limits (.internal d (.cons s outcome .nil))).1
      (mid.settleNode limits (.internal d (.cons s outcome .nil))).2 := by
  have traced : Traced (depth + 1) (d :: rest) (some (.internal d (.cons s outcome .nil))) :=
    .copy notLeaf planned followed.traced
  have apart : ∀ e ∈ rest, e.addr ≠ d.addr := fun e member same =>
    (List.nodup_cons.mp distinct).1 (same ▸ List.mem_map_of_mem member)
  obtain ⟨memoHere, sizesHere⟩ := followed.elsewhere d.addr apart
  obtain ⟨unmet, unsized⟩ := unaware d (.head _)
  -- no size is recorded for the address, so the node is counted, and it has room
  have fits : mid.count (.internal d (.cons s outcome .nil)) ≤ limits.maxGraphSize := by
    have fresh : mid.sizes[d.addr]? = none := sizesHere.trans unsized
    have counted : mid.count (.internal d (.cons s outcome .nil)) =
        (Node.internal d (.cons s outcome .nil)).size := by
      simp [Query.count, fresh]
    rw [counted]
    exact (Node.size_le _).trans ((traced.card_addresses_le rfl).trans room)
  have settles := mid.settles_settleNode limits (.internal d (.cons s outcome .nil))
  generalize (mid.settleNode limits (.internal d (.cons s outcome .nil))).1 = outcome' at settles ⊢
  generalize (mid.settleNode limits (.internal d (.cons s outcome .nil))).2 = query' at settles ⊢
  cases settles with
  | dropped large => omega
  | kept _ memo sizes journal =>
    refine ⟨traced, ?_, ?_, fun a other => ?_⟩
    · rw [Query.visited_insert (memoHere.trans unmet) memo, followed.visited]
      simp only [Query.visited, Query.memo_logScans, Query.memo_log, List.length_cons]
      omega
    · have settled : query'.truncated = mid.truncated := by
        simp [Query.truncated, journal, Event.isOversized]
      rw [settled, followed.truncated, Query.truncated_logScans]
      simp [Query.truncated, Query.log, Event.isOversized]
    · have different : a ≠ d.addr := Ne.symm (other d (.head _))
      obtain ⟨memoThere, sizesThere⟩ :=
        followed.elsewhere a fun e member => other e (.tail _ member)
      rw [memo, sizes, Query.getElem?_memo_insert, Node.addr_internal, if_neg different,
        if_neg different]
      exact ⟨memoThere, sizesThere⟩

end Follows

namespace Store

variable {store : Store} {limits : Limits} {i : Instruction} {r : Register}
  {chain : List Instruction} {value : String}

/-- An instruction that reads one register is explained by the definition of this register. -/
theorem explainWithin_single (store : Store) (limits : Limits)
    (notLeaf : i.isAnyOf leafFamilies = false) (notMoved : i.isOf "move-result" = false)
    (planned : i.inputPlan? = some (.each [r])) {query : Query}
    (unmet : query.memo[i.addr]? = none) (depth : Nat) :
    ∃ origins, store.explainWithin limits (depth + 1) (some i) query =
      (store.explainWithin limits depth (store.recentLoad limits.maxHops i r)
        ((query.log (.entered i.addr)).logScans origins)).2.settleNode limits
          (.internal i (.cons r (store.explainWithin limits depth
            (store.recentLoad limits.maxHops i r)
            ((query.log (.entered i.addr)).logScans origins)).1 .nil)) := by
  refine ⟨(store.recentLoads limits.maxHops i [r]).origins, ?_⟩
  have loads : (store.recentLoads limits.maxHops i [r]).value =
      [(r, store.recentLoad limits.maxHops i r)] := by
    rw [recentLoads_value_eq_recentLoad, List.map_singleton]
  rw [explainWithin, unmet]
  simp only [explainEntered, notLeaf, notMoved, planned, Bool.false_eq_true, if_false,
    explainInputs, loads, explainLoads]

theorem follows_single (notLeaf : i.isAnyOf leafFamilies = false)
    (notMoved : i.isOf "move-result" = false) (planned : i.inputPlan? = some (.each [r]))
    (room : chain.length + 1 ≤ limits.maxGraphSize)
    (distinct : ((i :: chain).map Instruction.addr).Nodup) {query : Query}
    (unaware : query.Unaware (i :: chain)) (depth : Nat)
    (follows : ∀ query : Query, query.Unaware chain → Follows chain depth query
      (store.explainWithin limits depth (store.recentLoad limits.maxHops i r) query).1
      (store.explainWithin limits depth (store.recentLoad limits.maxHops i r) query).2) :
    Follows (i :: chain) (depth + 1) query
      (store.explainWithin limits (depth + 1) (some i) query).1
      (store.explainWithin limits (depth + 1) (some i) query).2 := by
  obtain ⟨origins, run⟩ := store.explainWithin_single limits notLeaf notMoved planned
    (unaware i (.head _)).1 depth
  rw [run]
  exact .copy notLeaf planned room unaware distinct origins
    (follows _ fun d member => unaware d (.tail _ member))

/-- A query follows every chain of copies to the depth it has left. -/
theorem follows_explainWithin (chained : CopyChain store limits.maxHops i r chain value)
    (addressed : store.Addressed) (room : chain.length ≤ limits.maxGraphSize) (depth : Nat)
    {query : Query} (unaware : query.Unaware chain) :
    Follows chain depth query
      (store.explainWithin limits depth (store.recentLoad limits.maxHops i r) query).1
      (store.explainWithin limits depth (store.recentLoad limits.maxHops i r) query).2 := by
  have distinct := chained.nodup_addr addressed
  induction chained generalizing depth query with
  | constant found const _ =>
    rw [found]
    cases depth with
    | zero => exact .cut _ query
    | succ depth =>
      have leaf := Instruction.const_leaf const
      rw [explainWithin, (unaware _ (.head _)).1]
      simp only [explainEntered, leaf, if_true]
      exact .constant leaf (unaware _ (.head _)).1 depth
  | copy found moves notResult notException operand further ih =>
    rw [found]
    cases depth with
    | zero => exact .cut _ query
    | succ depth =>
      have planned := CopyChain.inputPlan?_move moves
      rw [operand, Option.map_some] at planned
      exact follows_single (CopyChain.move_not_leaf moves notException) notResult planned room
        distinct unaware depth fun query unaware =>
          ih (Nat.le_of_succ_le room) depth unaware (List.nodup_cons.mp distinct).2

theorem inputPlan?_single (call : i.isOf "invoke" = true) (operand : i.operandSet? 0 = some [r]) :
    i.inputPlan? = some (.each [r]) := by
  rw [Instruction.inputPlan?_invoke call, operand]
  rfl

/-- An invocation that passes one register is one more link in front of the chain. -/
theorem follows_explainIn (addressed : store.Addressed) (held : store.Holds i)
    (call : i.isOf "invoke" = true) (operand : i.operandSet? 0 = some [r])
    (chained : CopyChain store limits.maxHops i r chain value)
    (room : chain.length + 1 ≤ limits.maxGraphSize) :
    Follows (i :: chain) (limits.maxStage + 1) .empty (store.explainIn limits i .empty).1
      (store.explainIn limits i .empty).2 := by
  have holds : ∀ d ∈ i :: chain, store.Holds d :=
    List.forall_mem_cons.mpr ⟨held, chained.holds addressed⟩
  have fresh : i ∉ chain := fun member => by
    simp [chained.not_invoke i member] at call
  have distinct := nodup_addr_of_holds holds (List.nodup_cons.mpr ⟨fresh, chained.nodup⟩)
  have unaware : Query.empty.Unaware (i :: chain) := fun _ _ => by simp [Query.empty]
  exact follows_single (Instruction.invoke_not_leaf call) (Instruction.invoke_not_moved call)
    (inputPlan?_single call operand) room distinct unaware limits.maxStage fun query unaware =>
      follows_explainWithin chained addressed (Nat.le_of_succ_le room) limits.maxStage unaware

/-- A chain of copies from an invocation that passes one register is followed exactly to the limit
of depth: the invocation has a graph, the definitions within the limit are settled, no graph is
given up, and the constant is shown exactly if the chain is no longer than the limit. -/
theorem explainIn_copied (loaded : store.Loaded) (limits : Limits) (held : store.Holds i)
    (call : i.isOf "invoke" = true) (operand : i.operandSet? 0 = some [r])
    (chained : CopyChain store limits.maxHops i r chain value)
    (room : chain.length + 1 ≤ limits.maxGraphSize) :
    (∃ graph, (store.explainIn limits i .empty).1 = some graph) ∧
      (store.explainIn limits i .empty).2.visited = min chain.length limits.maxStage + 1 ∧
      (store.explainIn limits i .empty).2.truncated = 0 ∧
      ∀ index, i.argumentRegister index = .ok r → store.possibleArgument limits i index =
        .ok (if chain.length ≤ limits.maxStage then [value] else []) := by
  have addressed := loaded.addressed
  obtain ⟨traced, visited, truncated, _⟩ :=
    follows_explainIn addressed held call operand chained room
  generalize found : (store.explainIn limits i .empty).1 = outcome at traced
  cases traced with
  | constant leaf => simp [Instruction.invoke_not_leaf call] at leaf
  | @copy _ _ s _ input _ planned further =>
    cases (inputPlan?_single call operand).symm.trans planned
    refine ⟨⟨_, rfl⟩, ?_, truncated, fun index argument => ?_⟩
    · rw [visited, List.length_cons, Nat.add_min_add_right]
      exact Nat.zero_add _
    · have part : store.argumentPart limits i r = input := by
        rw [argumentPart, explain, found]
        cases input <;> simp [Node.input?, Node.inputs?, Inputs.get?, Inputs.cons]
      rw [possibleArgument_eq argument, part]
      exact congrArg _ (further.possibleConstants chained (chained.nodup_addr addressed))

/-- A method that passes a copy of a constant to another one, which passes a copy of its parameter
on. -/
def handedOn : Store :=
  Store.empty.load ⟨[
    ⟨"La;->caller()V",
      [⟨"const/4", [.reg ⟨.loc, 0⟩, .num "0x7"]⟩,
        ⟨"move", [.reg ⟨.loc, 1⟩, .reg ⟨.loc, 0⟩]⟩,
        ⟨"invoke-static", [.regList [⟨.loc, 1⟩], .method "La;->m(I)V"]⟩]⟩,
    ⟨"La;->m(I)V",
      [⟨"move", [.reg ⟨.loc, 0⟩, .reg ⟨.param, 0⟩]⟩,
        ⟨"invoke-static", [.regList [⟨.loc, 0⟩], .method "Lx;->use(I)V"]⟩]⟩], none⟩

def handedOnCall : Instruction :=
  ⟨4, 1, "invoke-static", [.regList [⟨.loc, 0⟩], .method "Lx;->use(I)V"]⟩

def handedOnChain : List Instruction :=
  [⟨3, 1, "move", [.reg ⟨.loc, 0⟩, .reg ⟨.param, 0⟩]⟩,
    ⟨1, 0, "move", [.reg ⟨.loc, 1⟩, .reg ⟨.loc, 0⟩]⟩,
    ⟨0, 0, "const/4", [.reg ⟨.loc, 0⟩, .num "0x7"]⟩]

/-- A chain of three definitions across a call site shows its constant at a limit of three, and is
cut at a limit of two. -/
theorem explainIn_copied_handedOn :
    handedOn.Holds handedOnCall ∧
      CopyChain handedOn 5 handedOnCall ⟨.loc, 0⟩ handedOnChain "0x7" ∧
      (handedOn.explainIn ⟨4, 3, 5⟩ handedOnCall .empty).2.visited = 4 ∧
      handedOn.possibleArgument ⟨4, 3, 5⟩ handedOnCall 0 = .ok ["0x7"] ∧
      (handedOn.explainIn ⟨4, 2, 5⟩ handedOnCall .empty).2.visited = 3 ∧
      handedOn.possibleArgument ⟨4, 2, 5⟩ handedOnCall 0 = .ok [] := by
  have loaded : handedOn.Loaded := .load .empty _
  have held : handedOn.Holds handedOnCall := by decide +kernel
  have call : handedOnCall.isOf "invoke" = true := by decide +kernel
  have operand : handedOnCall.operandSet? 0 = some [⟨.loc, 0⟩] := by decide +kernel
  have argument : handedOnCall.argumentRegister 0 = .ok ⟨.loc, 0⟩ := by decide +kernel
  have chained : CopyChain handedOn 5 handedOnCall ⟨.loc, 0⟩ handedOnChain "0x7" := by
    refine .copy (s := ⟨.param, 0⟩) (by decide +kernel) (by decide +kernel) (by decide +kernel)
      (by decide +kernel) (by decide +kernel) ?_
    refine .copy (s := ⟨.loc, 0⟩) (by decide +kernel) (by decide +kernel) (by decide +kernel)
      (by decide +kernel) (by decide +kernel) ?_
    change CopyChain _ _ _ _ _ (Operand.num "0x7").value
    exact .constant (by decide +kernel) (by decide +kernel) rfl
  obtain ⟨_, visited, _, shown⟩ :=
    explainIn_copied loaded ⟨4, 3, 5⟩ held call operand chained (by decide)
  obtain ⟨_, visited', _, cut⟩ :=
    explainIn_copied loaded ⟨4, 2, 5⟩ held call operand chained (by decide)
  exact ⟨held, chained, visited, shown 0 argument, visited', cut 0 argument⟩

end Store

end Backflow
