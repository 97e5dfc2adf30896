import Backflow.Graph.Reach
import Mathlib.Data.Finset.Card
import Mathlib.Logic.Relation

/-! # What the walk through a graph meets

Leaves are collected and addresses counted by a walk that enters every address once.  A graph
can have several different nodes at one address; the walk takes the one it meets first, and
what only the others reach is not seen.

* `Node.Reaches` says that a node is a part of a graph; `Node.parts` lists the parts, and
  `Node.addresses` are their addresses.
* `Node.Met` says that the walk comes to a node: there is a path to it on which every node is
  the one taken at its address.
* `Node.Keyed` graphs have one node at each address; on these the walk meets every part, and the
  sizes of parts that are measured with one record do not depend on their order
  (`Node.Keyed.walks_exact`).

The walk itself is described once, by `Walked`: what it keeps, what it meets, how each node it
takes is reached, and that no input of such a node is left out.
-/

namespace Backflow

/-! ## Parts of a graph -/

namespace Node

@[simp] theorem instr_leaf (i : Instruction) : (Node.leaf i).instr = i :=
  rfl

@[simp] theorem instr_internal (i : Instruction) (inputs : Inputs) :
    (Node.internal i inputs).instr = i :=
  rfl

@[simp] theorem addr_internal (i : Instruction) (inputs : Inputs) :
    (Node.internal i inputs).addr = i.addr :=
  rfl

inductive Input : Node → Node → Prop
  | mk {i : Instruction} {inputs : Inputs} {r : Register} {child : Node}
      (member : (r, some child) ∈ inputs.toList) : Input (.internal i inputs) child

def Reaches : Node → Node → Prop :=
  Relation.ReflTransGen Input

theorem not_input_leaf {i : Instruction} {child : Node} : ¬ Input (.leaf i) child :=
  fun h => by cases h

theorem input_internal {i : Instruction} {inputs : Inputs} {child : Node} :
    Input (.internal i inputs) child ↔ ∃ r, (r, some child) ∈ inputs.toList :=
  ⟨fun h => by cases h with | mk member => exact ⟨_, member⟩, fun ⟨_, member⟩ => .mk member⟩

theorem reaches_leaf {i : Instruction} {part : Node} : Reaches (.leaf i) part ↔ part = .leaf i := by
  constructor
  · intro reaches
    cases Relation.ReflTransGen.cases_head reaches with
    | inl same => exact same.symm
    | inr step => obtain ⟨_, input, _⟩ := step; exact absurd input not_input_leaf
  · rintro rfl
    exact .refl

theorem reaches_internal {i : Instruction} {inputs : Inputs} {part : Node} :
    Reaches (.internal i inputs) part ↔ part = .internal i inputs ∨
      ∃ r child, (r, some child) ∈ inputs.toList ∧ child.Reaches part := by
  constructor
  · intro reaches
    cases Relation.ReflTransGen.cases_head reaches with
    | inl same => exact .inl same.symm
    | inr step =>
      obtain ⟨child, input, deeper⟩ := step
      obtain ⟨r, member⟩ := input_internal.mp input
      exact .inr ⟨r, child, member, deeper⟩
  · rintro (rfl | ⟨r, child, member, deeper⟩)
    · exact .refl
    · exact .head (.mk member) deeper

end Node

mutual

theorem Node.induction_node {motive : Node → Prop} (leaf : ∀ i, motive (.leaf i))
    (internal : ∀ i inputs, (∀ child, Node.Input (.internal i inputs) child → motive child) →
      motive (.internal i inputs)) (node : Node) : motive node :=
  match node with
  | .leaf i => leaf i
  | .internal i inputs => internal i inputs fun child input =>
    Inputs.induction_inputs leaf internal inputs child (Node.input_internal.mp input)

theorem Inputs.induction_inputs {motive : Node → Prop} (leaf : ∀ i, motive (.leaf i))
    (internal : ∀ i inputs, (∀ child, Node.Input (.internal i inputs) child → motive child) →
      motive (.internal i inputs)) (inputs : Inputs) (child : Node)
    (member : ∃ r, (r, some child) ∈ inputs.toList) : motive child :=
  match inputs with
  | .nil => by simp [Inputs.toList] at member
  | .unresolved s rest => Inputs.induction_inputs leaf internal rest child (by
    simpa [Inputs.toList] using member)
  | .resolved s node rest => by
    obtain ⟨r, member⟩ := member
    rw [Inputs.toList, List.mem_cons] at member
    rcases member with head | tail
    · cases head
      exact Node.induction_node leaf internal _
    · exact Inputs.induction_inputs leaf internal rest child ⟨r, tail⟩

end

/-- A property of nodes that passes from the inputs of a node to the node holds of all. -/
@[elab_as_elim, induction_eliminator]
theorem Node.induction {motive : Node → Prop} (leaf : ∀ i, motive (.leaf i))
    (internal : ∀ i inputs, (∀ child, Node.Input (.internal i inputs) child → motive child) →
      motive (.internal i inputs)) (node : Node) : motive node :=
  Node.induction_node leaf internal node

/-! ## All parts and their addresses -/

mutual

/-- The parts of a graph, each as often as it is reached. -/
def Node.parts : Node → List Node
  | .leaf i => [.leaf i]
  | .internal i inputs => .internal i inputs :: inputs.parts

def Inputs.parts : Inputs → List Node
  | .nil => []
  | .unresolved _ rest => rest.parts
  | .resolved _ node rest => node.parts ++ rest.parts

end

theorem Inputs.mem_parts {part : Node} : ∀ {inputs : Inputs},
    part ∈ inputs.parts ↔ ∃ r child, (r, some child) ∈ inputs.toList ∧ part ∈ child.parts
  | .nil => by simp [parts, toList]
  | .unresolved s rest => by simp [parts, toList, Inputs.mem_parts]
  | .resolved s node rest => by
    simp only [parts, toList, List.mem_append, Inputs.mem_parts, List.mem_cons]
    constructor
    · rintro (here | ⟨r, child, member, deeper⟩)
      · exact ⟨s, node, .inl rfl, here⟩
      · exact ⟨r, child, .inr member, deeper⟩
    · rintro ⟨r, child, head | member, deeper⟩
      · cases head
        exact .inl deeper
      · exact .inr ⟨r, child, member, deeper⟩

namespace Node

theorem mem_parts {part node : Node} : part ∈ node.parts ↔ node.Reaches part := by
  induction node with
  | leaf i => simp [parts, reaches_leaf]
  | internal i inputs ih =>
    rw [parts, List.mem_cons, Inputs.mem_parts, reaches_internal]
    constructor
    · rintro (here | ⟨r, child, member, deeper⟩)
      · exact .inl here
      · exact .inr ⟨r, child, member, (ih child (.mk member)).mp deeper⟩
    · rintro (here | ⟨r, child, member, deeper⟩)
      · exact .inl here
      · exact .inr ⟨r, child, member, (ih child (.mk member)).mpr deeper⟩

def addresses (node : Node) : Finset Address :=
  (node.parts.map addr).toFinset

theorem mem_addresses {a : Address} {node : Node} :
    a ∈ node.addresses ↔ ∃ part, node.Reaches part ∧ part.addr = a := by
  simp only [addresses, List.mem_toFinset, List.mem_map, mem_parts]

end Node

/-! ## The walk -/

/-- From a node to an input of it that is the node taken at its address. -/
def Reached.Takes (seen : Reached) (node child : Node) : Prop :=
  node.Input child ∧ seen[child.addr]? = some child

/-- A walk that starts at certain nodes and goes from one set of nodes met to another. -/
structure Walked (start : Node → Prop) (seen seen' : Reached) : Prop where
  keeps : ∀ {a : Address} {node : Node}, seen[a]? = some node → seen'[a]? = some node
  meets : ∀ {node}, start node → node.addr ∈ seen'
  path : ∀ {a : Address} {node : Node}, seen'[a]? = some node → seen[a]? = none →
    node.addr = a ∧ ∃ first, start first ∧ seen'[first.addr]? = some first ∧
      Relation.ReflTransGen seen'.Takes first node
  closed : ∀ {a : Address} {node : Node}, seen'[a]? = some node → seen[a]? = none →
    ∀ child, node.Input child → child.addr ∈ seen'

namespace Walked

theorem keeps_mem {start : Node → Prop} {seen seen' : Reached} (walked : Walked start seen seen')
    {a : Address} (met : a ∈ seen) : a ∈ seen' := by
  rw [Std.TreeMap.mem_iff_isSome_getElem?, Option.isSome_iff_exists] at met ⊢
  exact met.imp fun _ found => walked.keeps found

theorem keeps_path {start : Node → Prop} {seen seen' : Reached} (walked : Walked start seen seen')
    {first node : Node} (path : Relation.ReflTransGen seen.Takes first node) :
    Relation.ReflTransGen seen'.Takes first node :=
  Relation.ReflTransGen.mono (fun _ _ taken => ⟨taken.1, walked.keeps taken.2⟩) _ _ path

theorem none (seen : Reached) : Walked (fun _ => False) seen seen where
  keeps found := found
  meets start := start.elim
  path found fresh := by simp [found] at fresh
  closed found fresh := by simp [found] at fresh

/-- One walk after the other. -/
theorem trans {first second : Node → Prop} {seen seen' seen'' : Reached}
    (one : Walked first seen seen') (two : Walked second seen' seen'') :
    Walked (fun node => first node ∨ second node) seen seen'' where
  keeps found := two.keeps (one.keeps found)
  meets start := start.elim (fun start => two.keeps_mem (one.meets start)) two.meets
  path {a node} found fresh := by
    -- a node met by the first walk keeps its path, as the second changes nothing that was met
    cases between : seen'[a]? with
    | none =>
      obtain ⟨same, n, start, taken, path⟩ := two.path found between
      exact ⟨same, n, .inr start, taken, path⟩
    | some other =>
      have : other = node := Option.some.inj ((two.keeps between).symm.trans found)
      subst this
      obtain ⟨same, n, start, taken, path⟩ := one.path between fresh
      exact ⟨same, n, .inl start, two.keeps taken, two.keeps_path path⟩
  closed {a node} found fresh child input := by
    cases between : seen'[a]? with
    | none => exact two.closed found between child input
    | some other =>
      have : other = node := Option.some.inj ((two.keeps between).symm.trans found)
      subst this
      exact two.keeps_mem (one.closed between fresh child input)

/-- The walk enters a node and goes on with its inputs. -/
theorem enter {seen seen' : Reached} {node : Node} (fresh : node.addr ∉ seen)
    (inputs : Walked node.Input (seen.insert node.addr node) seen') :
    Walked (· = node) seen seen' := by
  have unseen : seen[node.addr]? = Option.none := Std.TreeMap.getElem?_eq_none fresh
  have entered : seen'[node.addr]? = some node := inputs.keeps Std.TreeMap.getElem?_insert_self
  -- an address without a node before is that of `node`, or one met by way of its inputs
  have elsewhere : ∀ {a}, a ≠ node.addr → (seen.insert node.addr node)[a]? = seen[a]? :=
    fun different => by simp [Std.TreeMap.getElem?_insert, different.symm]
  refine ⟨?_, ?_, ?_, ?_⟩
  · intro a m found
    refine inputs.keeps ((elsewhere ?_).trans found)
    rintro rfl
    simp [unseen] at found
  · rintro _ rfl
    exact Std.TreeMap.mem_iff_isSome_getElem?.mpr (by rw [entered]; rfl)
  · intro a m found before
    by_cases here : a = node.addr
    · subst here
      rw [entered] at found
      cases found
      exact ⟨rfl, node, rfl, entered, .refl⟩
    · obtain ⟨same, child, input, taken, path⟩ :=
        inputs.path found ((elsewhere here).trans before)
      exact ⟨same, node, rfl, entered, .head ⟨input, taken⟩ path⟩
  · intro a m found before child input
    by_cases here : a = node.addr
    · subst here
      rw [entered] at found
      cases found
      exact inputs.meets input
    · exact inputs.closed found ((elsewhere here).trans before) child input

theorem congr {start start' : Node → Prop} {seen seen' : Reached}
    (walked : Walked start seen seen') (same : ∀ node, start node ↔ start' node) :
    Walked start' seen seen' :=
  (funext fun node => propext (same node) : start = start') ▸ walked

end Walked

mutual

theorem Node.walked (node : Node) (seen : Reached) :
    Walked (· = node) seen (node.reach seen) := by
  unfold Node.reach
  split
  · rename_i met
    refine ⟨id, ?_, ?_, ?_⟩
    · rintro _ rfl
      exact met
    · intro a m found fresh
      simp [found] at fresh
    · intro a m found fresh
      simp [found] at fresh
  · rename_i fresh
    cases node with
    | leaf i => exact .enter fresh ((Walked.none _).congr fun _ => by simp [Node.not_input_leaf])
    | internal i inputs =>
      exact .enter fresh ((inputs.walked _).congr fun _ => Node.input_internal.symm)

theorem Inputs.walked (inputs : Inputs) (seen : Reached) :
    Walked (fun node => ∃ r, (r, some node) ∈ inputs.toList) seen (inputs.reach seen) := by
  match inputs with
  | .nil => exact (Walked.none seen).congr fun _ => by simp [Inputs.toList]
  | .unresolved r rest => exact (rest.walked seen).congr fun _ => by simp [Inputs.toList]
  | .resolved r node rest =>
    refine ((rest.walked seen).trans (node.walked _)).congr fun other => ?_
    simp only [Inputs.toList, List.mem_cons, Prod.mk.injEq, Option.some.injEq]
    constructor
    · rintro (⟨s, member⟩ | rfl)
      · exact ⟨s, .inr member⟩
      · exact ⟨r, .inl ⟨rfl, rfl⟩⟩
    · rintro ⟨s, ⟨_, same⟩ | member⟩
      · exact .inr same
      · exact .inl ⟨s, member⟩

end

/-! ## Nodes that are met -/

namespace Node

/-- The walk from `root` comes to a node: on a path from `root` to it every node is the one
taken at its address. -/
def Met (root : Node) : Node → Prop :=
  Relation.ReflTransGen root.reached.Takes root

theorem walked_reached (root : Node) : Walked (· = root) ∅ root.reached :=
  root.walked ∅

theorem reached_self (root : Node) : root.reached[root.addr]? = some root := by
  have fresh : root.addr ∉ (∅ : Reached) := Std.TreeMap.not_mem_emptyc
  obtain ⟨node, found⟩ := Option.isSome_iff_exists.mp
    (Std.TreeMap.mem_iff_isSome_getElem?.mp (root.walked_reached.meets rfl))
  obtain ⟨_, first, rfl, taken, _⟩ :=
    root.walked_reached.path found (Std.TreeMap.getElem?_eq_none fresh)
  exact taken

theorem reached_iff {root node : Node} {a : Address} :
    root.reached[a]? = some node ↔ root.Met node ∧ node.addr = a := by
  constructor
  · intro found
    obtain ⟨same, first, rfl, _, path⟩ := root.walked_reached.path found Std.TreeMap.getElem?_emptyc
    exact ⟨path, same⟩
  · -- the last step of a path ends at the node taken at its address
    rintro ⟨met, rfl⟩
    cases Relation.ReflTransGen.cases_tail met with
    | inl same => rw [same]; exact root.reached_self
    | inr step => obtain ⟨_, _, taken⟩ := step; exact taken.2

theorem Met.reaches {root node : Node} (met : root.Met node) : root.Reaches node :=
  Relation.ReflTransGen.mono (fun _ _ taken => taken.1) _ _ met

/-- Nothing that a node met has for an input is left out: the walk meets a node at its address. -/
theorem Met.closed {root node child : Node} (met : root.Met node) (input : node.Input child) :
    ∃ other, root.Met other ∧ other.addr = child.addr := by
  have found := root.walked_reached.closed (reached_iff.mpr ⟨met, rfl⟩)
    Std.TreeMap.getElem?_emptyc child input
  obtain ⟨other, found⟩ := Option.isSome_iff_exists.mp
    (Std.TreeMap.mem_iff_isSome_getElem?.mp found)
  exact ⟨other, reached_iff.mp found⟩

/-! ## Leaves -/

theorem values_reached (root : Node) :
    root.reached.values = root.reached.toList.map (·.2) := by
  -- the library has no lemma about the values of a map, only about its folds
  have folded : root.reached.values = root.reached.foldr (fun _ node nodes => node :: nodes) [] :=
    rfl
  rw [folded, Std.TreeMap.foldr_eq_foldr_toList]
  induction root.reached.toList with
  | nil => rfl
  | cons entry rest ih => simp [ih]

/-- The leaves are the leaf instructions that the walk comes to. -/
theorem mem_leaves {root : Node} {i : Instruction} : i ∈ root.leaves ↔ root.Met (.leaf i) := by
  simp only [leaves, values_reached, List.mem_filterMap, List.mem_map, Prod.exists,
    Std.TreeMap.mem_toList_iff_getElem?_eq_some, reached_iff]
  constructor
  · rintro ⟨_, ⟨a, node, ⟨met, _⟩, rfl⟩, selected⟩
    cases node with
    | leaf j =>
      cases selected
      exact met
    | internal j inputs => cases selected
  · intro met
    exact ⟨.leaf i, ⟨i.addr, .leaf i, ⟨met, rfl⟩, rfl⟩, rfl⟩

theorem pairwise_leaves (root : Node) : root.leaves.Pairwise fun i j => i.addr < j.addr := by
  rw [leaves, values_reached, List.pairwise_filterMap, List.pairwise_map]
  refine Std.TreeMap.ordered_keys_toList.imp_of_mem ?_
  intro entry entry' member member' below i isLeaf j isLeaf'
  -- the walk files every node under its own address
  have filed : ∀ {a : Address} {node : Node}, (a, node) ∈ root.reached.toList → node.addr = a :=
    fun member => (reached_iff.mp (Std.TreeMap.mem_toList_iff_getElem?_eq_some.mp member)).2
  obtain ⟨a, node⟩ := entry
  obtain ⟨b, node'⟩ := entry'
  cases node with
  | internal => cases isLeaf
  | leaf =>
    cases node' with
    | internal => cases isLeaf'
    | leaf =>
      cases isLeaf
      cases isLeaf'
      have first : i.addr = a := filed member
      have second : j.addr = b := filed member'
      rw [first, second]
      exact Nat.compare_eq_lt.mp below

/-! ## Counting -/

def met (root : Node) : Finset Address :=
  root.reached.keys.toFinset

theorem mem_met {root : Node} {a : Address} : a ∈ root.met ↔ ∃ node, root.Met node ∧ node.addr = a := by
  rw [met, List.mem_toFinset, Std.TreeMap.mem_keys, Std.TreeMap.mem_iff_isSome_getElem?,
    Option.isSome_iff_exists]
  simp only [reached_iff]

theorem card_met (root : Node) : root.met.card = root.size := by
  rw [met, List.toFinset_card_of_nodup Std.TreeMap.nodup_keys, Std.TreeMap.length_keys]
  rfl

theorem met_subset (root : Node) : root.met ⊆ root.addresses := by
  intro a member
  obtain ⟨node, met, same⟩ := mem_met.mp member
  exact mem_addresses.mpr ⟨node, met.reaches, same⟩

/-- The walk never counts too many addresses. -/
theorem size_le (root : Node) : root.size ≤ root.addresses.card :=
  root.card_met ▸ Finset.card_le_card root.met_subset

/-! ## Graphs with one node at each address -/

/-- Parts of the graph with the same address are the same. -/
def Keyed (root : Node) : Prop :=
  ∀ m n, root.Reaches m → root.Reaches n → m.addr = n.addr → m = n

theorem Keyed.of_reaches {root part : Node} (keyed : root.Keyed) (reaches : root.Reaches part) :
    part.Keyed :=
  fun m n hm hn => keyed m n (reaches.trans hm) (reaches.trans hn)

/-- If every address has one node, the walk comes to every part. -/
theorem Keyed.met_of_reaches {root part : Node} (keyed : root.Keyed)
    (reaches : root.Reaches part) : root.Met part := by
  induction reaches with
  | refl => exact .refl
  | tail reaches input ih =>
    -- the node met at the address of the input can only be the input itself
    obtain ⟨other, met, same⟩ := ih.closed input
    have := keyed other _ met.reaches (reaches.tail input) same
    subst this
    exact met

theorem Keyed.mem_leaves_iff {root : Node} (keyed : root.Keyed) {i : Instruction} :
    i ∈ root.leaves ↔ root.Reaches (.leaf i) :=
  mem_leaves.trans ⟨Met.reaches, keyed.met_of_reaches⟩

theorem Keyed.met_eq {root : Node} (keyed : root.Keyed) : root.met = root.addresses := by
  refine Finset.Subset.antisymm root.met_subset fun a member => ?_
  obtain ⟨part, reaches, same⟩ := mem_addresses.mp member
  exact mem_met.mpr ⟨part, keyed.met_of_reaches reaches, same⟩

/-- If every address has one node, the walk counts the addresses of the graph. -/
theorem Keyed.size_eq {root : Node} (keyed : root.Keyed) : root.size = root.addresses.card := by
  rw [← root.card_met, keyed.met_eq]

end Node

/-! ## Sizes recorded one after the other -/

/-- Measures graphs one after the other with one record of sizes. -/
def measureEach : List Node → Sizes → List Nat × Sizes
  | [], sizes => ([], sizes)
  | node :: rest, sizes =>
    let (size, sizes) := node.measure sizes
    let (others, sizes) := measureEach rest sizes
    (size :: others, sizes)

/-- The record holds the number of addresses of each of the given graphs, and nothing else. -/
def Sizes.Records (sizes : Sizes) (measured : List Node) : Prop :=
  ∀ (a : Address) (size : Nat), sizes[a]? = some size ↔
    ∃ node ∈ measured, node.addr = a ∧ node.addresses.card = size

theorem Sizes.records_empty : Sizes.Records ∅ [] := by
  intro a size
  simp

namespace Node

/-- On a graph with one node at each address a recorded size is the size of any part with that
address, so it does not matter for which of them it was recorded. -/
theorem Keyed.measure_records {root node : Node} (keyed : root.Keyed) {sizes : Sizes}
    {measured : List Node} (parts : ∀ other ∈ measured, root.Reaches other)
    (records : sizes.Records measured) (reaches : root.Reaches node) :
    (node.measure sizes).1 = node.addresses.card ∧
      (node.measure sizes).2.Records (measured ++ [node]) := by
  have counted : sizes[node.addr]?.getD node.size = node.addresses.card := by
    cases recorded : sizes[node.addr]? with
    | none => exact (keyed.of_reaches reaches).size_eq
    | some size =>
      obtain ⟨other, member, same, counted⟩ := (records node.addr size).mp recorded
      obtain rfl := keyed other node (parts other member) reaches same
      exact counted.symm
  obtain ⟨returned, recorded⟩ := node.measure_spec sizes
  refine ⟨returned.trans counted, fun a size => ?_⟩
  rw [recorded a, counted]
  split
  · rename_i here
    subst here
    rw [Option.some.injEq]
    constructor
    · intro same
      exact ⟨node, by simp, rfl, same⟩
    · rintro ⟨other, member, same, size_eq⟩
      have parts' := List.forall_mem_append.mpr ⟨parts, List.forall_mem_singleton.mpr reaches⟩
      obtain rfl := keyed other node (parts' other member) reaches same
      exact size_eq
  · rename_i elsewhere
    rw [records a size]
    simp [Ne.symm elsewhere, or_and_right, exists_or]

theorem Keyed.measureEach_records {root : Node} (keyed : root.Keyed) {sizes : Sizes}
    {measured : List Node} (parts : ∀ other ∈ measured, root.Reaches other)
    (records : sizes.Records measured) {nodes : List Node}
    (parts' : ∀ node ∈ nodes, root.Reaches node) :
    (measureEach nodes sizes).1 = nodes.map (·.addresses.card) ∧
      (measureEach nodes sizes).2.Records (measured ++ nodes) := by
  induction nodes generalizing sizes measured with
  | nil => exact ⟨rfl, by simpa [measureEach] using records⟩
  | cons node rest ih =>
    have reaches := parts' node (.head _)
    obtain ⟨returned, records⟩ := keyed.measure_records parts records reaches
    have further := List.forall_mem_append.mpr ⟨parts, List.forall_mem_singleton.mpr reaches⟩
    obtain ⟨others, records⟩ := ih further records fun other member => parts' other (.tail _ member)
    rw [List.append_assoc, List.singleton_append] at records
    exact ⟨congrArg₂ List.cons returned others, records⟩

/-- On a graph with one node at each address the walks are exact.  The leaves are the leaf
instructions among the parts, in ascending order of addresses and so each of them once.  Parts that are
measured one after the other, in any order and any number of times, all get the number of their
addresses, and the record holds these numbers after each of them. -/
theorem Keyed.walks_exact {root : Node} (keyed : root.Keyed) :
    (∀ i, i ∈ root.leaves ↔ root.Reaches (.leaf i)) ∧
      (root.leaves.Pairwise fun i j => i.addr < j.addr) ∧
      ∀ nodes : List Node, (∀ node ∈ nodes, root.Reaches node) →
        (measureEach nodes ∅).1 = nodes.map (·.addresses.card) ∧
          ∀ (a : Address) (size : Nat), (measureEach nodes ∅).2[a]? = some size ↔
            ∃ node ∈ nodes, node.addr = a ∧ node.addresses.card = size := by
  refine ⟨fun i => keyed.mem_leaves_iff, root.pairwise_leaves, fun nodes parts => ?_⟩
  exact keyed.measureEach_records (by simp) Sizes.records_empty parts

def constantLeaf : Node :=
  .leaf ⟨0, 0, "const/4", [.reg ⟨.loc, 0⟩, .num "0x1"]⟩

def constantCopy : Node :=
  .internal ⟨1, 0, "move", [.reg ⟨.loc, 1⟩, .reg ⟨.loc, 0⟩]⟩ (.resolved ⟨.loc, 0⟩ constantLeaf .nil)

/-- A call with the constant, its copy and something unknown for arguments. -/
def sharingCall : Node :=
  .internal ⟨2, 0, "invoke-static", [.regList [⟨.loc, 0⟩, ⟨.loc, 1⟩, ⟨.loc, 2⟩]]⟩
    (.resolved ⟨.loc, 0⟩ constantLeaf
      (.resolved ⟨.loc, 1⟩ constantCopy (.unresolved ⟨.loc, 2⟩ .nil)))

/-- The constant is a leaf of the call on two ways and is listed once; the copy is measured before and
after the call. -/
theorem Keyed.walks_exact_sharing :
    sharingCall.Keyed ∧ constantLeaf.instr ∈ sharingCall.leaves ∧
      (sharingCall.leaves.Pairwise fun i j => i.addr < j.addr) ∧
      (∀ node ∈ [constantCopy, sharingCall, constantCopy], sharingCall.Reaches node) ∧
      (measureEach [constantCopy, sharingCall, constantCopy] ∅).1 = [2, 3, 2] ∧
      (measureEach [constantCopy, sharingCall, constantCopy] ∅).2[2]? = some 3 := by
  have distinct : ∀ m ∈ sharingCall.parts, ∀ n ∈ sharingCall.parts, m.addr = n.addr → m = n := by
    decide +kernel
  have keyed : sharingCall.Keyed := fun m n reaches reaches' =>
    distinct m (mem_parts.mpr reaches) n (mem_parts.mpr reaches')
  have listed : ∀ node ∈ [constantCopy, sharingCall, constantCopy], node ∈ sharingCall.parts := by
    decide +kernel
  have parts : ∀ node ∈ [constantCopy, sharingCall, constantCopy], sharingCall.Reaches node :=
    fun node member => mem_parts.mp (listed node member)
  obtain ⟨leaves, ordered, measured⟩ := keyed.walks_exact
  obtain ⟨sizes, record⟩ := measured _ parts
  have reached : constantLeaf ∈ sharingCall.parts := by decide +kernel
  refine ⟨keyed, (leaves _).mpr (mem_parts.mp reached), ordered, parts, ?_, ?_⟩
  · exact sizes.trans (by decide +kernel)
  · exact (record 2 3).mpr ⟨sharingCall, by simp, by decide +kernel, by decide +kernel⟩

end Node

end Backflow
