import Backflow.Argument
import Backflow.Proofs.Justified
import Backflow.Proofs.Reentry

/-! # Constants that may flow into an argument

The constants given for an argument are the literals of the constants that a walk from the part
of the graph that explains the argument comes to.  The walk enters an address once, so where
several nodes have one address it may not come to all constants that are reached.

* `Node.ReachesConstant` are the literals that a graph reaches, `Node.MeetsConstant` those that
  the walk comes to.
* `Store.possibleArgument_constants` says when no constant is lost.
-/

namespace Backflow

/-! ## Sets of texts -/

theorem mem_insertText {text other : String} {texts : List String} :
    other ∈ insertText text texts ↔ other = text ∨ other ∈ texts := by
  fun_induction insertText text texts with
  | case1 => simp
  | case2 => simp
  | case3 => simp
  | case4 first rest _ _ ih =>
    rw [List.mem_cons, ih, List.mem_cons]
    exact or_left_comm

theorem mem_textSet {text : String} {texts : List String} :
    text ∈ textSet texts ↔ text ∈ texts := by
  induction texts with
  | nil => rfl
  | cons first rest ih => rw [textSet, List.foldr_cons, ← textSet, mem_insertText, ih, List.mem_cons]

theorem pairwise_insertText {text : String} {texts : List String}
    (ordered : texts.Pairwise (· < ·)) : (insertText text texts).Pairwise (· < ·) := by
  fun_induction insertText text texts with
  | case1 => exact List.pairwise_singleton _ _
  | case2 first rest below =>
    refine List.pairwise_cons.mpr ⟨fun other member => ?_, ordered⟩
    cases member with
    | head => exact below
    | tail _ member => exact String.lt_trans below ((List.pairwise_cons.mp ordered).1 other member)
  | case3 => exact ordered
  | case4 first rest notBelow different ih =>
    obtain ⟨above, rest⟩ := List.pairwise_cons.mp ordered
    refine List.pairwise_cons.mpr ⟨fun other member => ?_, ih rest⟩
    rcases mem_insertText.mp member with rfl | member
    · rw [← String.not_le]
      intro notAbove
      exact different (String.le_antisymm notAbove (String.not_lt.mp notBelow))
    · exact above other member

theorem pairwise_textSet (texts : List String) : (textSet texts).Pairwise (· < ·) := by
  induction texts with
  | nil => exact .nil
  | cons first rest ih => exact pairwise_insertText ih

/-! ## Reached constants -/

def Node.ReachesConstant (node : Node) (value : String) : Prop :=
  ∃ leaf, node.Reaches (.leaf leaf) ∧ leaf.constant? = some value

/-- The literal of a constant that the walk from the node comes to. -/
def Node.MeetsConstant (node : Node) (value : String) : Prop :=
  ∃ leaf, node.Met (.leaf leaf) ∧ leaf.constant? = some value

theorem Node.MeetsConstant.reaches {node : Node} {value : String}
    (meets : node.MeetsConstant value) : node.ReachesConstant value := by
  obtain ⟨leaf, met, literal⟩ := meets
  exact ⟨leaf, met.reaches, literal⟩

theorem Node.Keyed.meetsConstant {node : Node} (keyed : node.Keyed) {value : String}
    (reaches : node.ReachesConstant value) : node.MeetsConstant value := by
  obtain ⟨leaf, path, literal⟩ := reaches
  exact ⟨leaf, keyed.met_of_reaches path, literal⟩

theorem Node.mem_possibleConstants {node : Node} {value : String} :
    value ∈ node.possibleConstants ↔ node.MeetsConstant value := by
  simp only [possibleConstants, mem_textSet, List.mem_filterMap, mem_leaves, MeetsConstant]

def Node.literal? : Node → Option String
  | .leaf i => i.constant?
  | .internal .. => none

instance (node : Node) (value : String) : Decidable (node.ReachesConstant value) :=
  decidable_of_iff (value ∈ node.parts.filterMap Node.literal?) (by
    simp only [List.mem_filterMap, Node.mem_parts, Node.ReachesConstant]
    constructor
    · rintro ⟨part, reaches, literal⟩
      cases part with
      | leaf i => exact ⟨i, reaches, literal⟩
      | internal => cases literal
    · rintro ⟨leaf, reaches, literal⟩
      exact ⟨.leaf leaf, reaches, literal⟩)

/-! ## Arguments -/

section Collected

variable {part : Option Node} {collect : Node → List String}

theorem mem_collected {text : String} :
    text ∈ (part.map collect).getD [] ↔ ∃ node, part = some node ∧ text ∈ collect node := by
  cases part <;> simp

theorem pairwise_collected (ordered : ∀ node, (collect node).Pairwise (· < ·)) :
    ((part.map collect).getD []).Pairwise (· < ·) := by
  cases part with
  | none => exact .nil
  | some node => exact ordered node

end Collected

theorem Inputs.mem_of_get? {r : Register} {child : Node} : ∀ {inputs : Inputs},
    inputs.get? r = some child → (r, some child) ∈ inputs.toList
  | .nil, found => by cases found
  | .unresolved s rest, found => by
    rw [get?] at found
    split at found
    · cases found
    · exact .tail _ (mem_of_get? found)
  | .resolved s node rest, found => by
    rw [get?] at found
    split at found
    · rename_i same
      cases found
      exact same ▸ .head _
    · exact .tail _ (mem_of_get? found)

theorem Node.reaches_of_input? {node child : Node} {r : Register}
    (found : node.input? r = some child) : node.Reaches child := by
  cases node with
  | leaf i => cases found
  | internal i inputs => exact .single (.mk (Inputs.mem_of_get? found))

namespace Store

variable {store : Store} {limits : Limits}

/-- The part of the graph of an invocation that explains the argument in a register. -/
def argumentPart (store : Store) (limits : Limits) (i : Instruction) (r : Register) : Option Node :=
  (store.explain limits i).bind (·.input? r)

theorem possibleArgument_eq {i : Instruction} {index : Nat} {r : Register}
    (argument : i.argumentRegister index = .ok r) :
    store.possibleArgument limits i index =
      .ok (((store.argumentPart limits i r).map Node.possibleConstants).getD []) := by
  simp only [possibleArgument, argumentGraph, argumentGraphIn, argument, Except.map]
  rfl

/-- An argument has constants, each once and in order.  They are literals of constants that its
part of the graph reaches, and exactly these if and only if the walk comes to one constant for
each literal; so are the leaves of every part those it comes to.  Nothing is lost if no address
was entered twice, as it is where definitions form no cycle. -/
theorem possibleArgument_constants (loaded : store.Loaded) (limits : Limits) {i : Instruction}
    (held : store.Holds i) {index : Nat} {r : Register}
    (argument : i.argumentRegister index = .ok r) :
    ∃ values, store.possibleArgument limits i index = .ok values ∧ values.Pairwise (· < ·) ∧
      (∀ v ∈ values, ∃ node, store.argumentPart limits i r = some node ∧ node.ReachesConstant v) ∧
      ((∀ v, v ∈ values ↔
          ∃ node, store.argumentPart limits i r = some node ∧ node.ReachesConstant v) ↔
        ∀ node v, store.argumentPart limits i r = some node →
          node.ReachesConstant v → node.MeetsConstant v) ∧
      (∀ graph part, store.explain limits i = some graph → graph.Reaches part →
        ∀ leaf, leaf ∈ part.leaves ↔ part.Met (.leaf leaf)) ∧
      ((store.explainIn limits i .empty).2.EntersOnce →
        (∀ v, v ∈ values ↔
          ∃ node, store.argumentPart limits i r = some node ∧ node.ReachesConstant v) ∧
        ∀ graph part, store.explain limits i = some graph → graph.Reaches part →
          ∀ leaf, leaf ∈ part.leaves ↔ part.Reaches (.leaf leaf)) ∧
      (store.AcyclicFrom limits i → (store.explainIn limits i .empty).2.EntersOnce) := by
  -- a value is given exactly if the walk from the part of the argument comes to it
  have given : ∀ v, v ∈ ((store.argumentPart limits i r).map Node.possibleConstants).getD [] ↔
      ∃ node, store.argumentPart limits i r = some node ∧ node.MeetsConstant v := fun v => by
    simp only [mem_collected, Node.mem_possibleConstants]
  have ordered :
      (((store.argumentPart limits i r).map Node.possibleConstants).getD []).Pairwise (· < ·) :=
    pairwise_collected fun node => pairwise_textSet _
  have exact_of_meets : (∀ node v, store.argumentPart limits i r = some node →
      node.ReachesConstant v → node.MeetsConstant v) → ∀ v,
      v ∈ ((store.argumentPart limits i r).map Node.possibleConstants).getD [] ↔
        ∃ node, store.argumentPart limits i r = some node ∧ node.ReachesConstant v := by
    intro meets v
    rw [given]
    exact ⟨fun ⟨node, part, met⟩ => ⟨node, part, met.reaches⟩,
      fun ⟨node, part, reaches⟩ => ⟨node, part, meets node v part reaches⟩⟩
  refine ⟨_, possibleArgument_eq argument, ordered, fun v member => ?_, ⟨?_, exact_of_meets⟩,
    fun _ _ _ _ _ => Node.mem_leaves, fun once => ⟨exact_of_meets ?_, ?_⟩,
    entersOnce_of_acyclic loaded.addressed held⟩
  · obtain ⟨node, part, met⟩ := (given v).mp member
    exact ⟨node, part, met.reaches⟩
  · intro all node v part reaches
    obtain ⟨other, part', met⟩ := (given v).mp ((all v).mpr ⟨node, part, reaches⟩)
    cases part.symm.trans part'
    exact met
  · intro node v part reaches
    obtain ⟨graph, found, input⟩ := Option.bind_eq_some_iff.mp part
    have keyed := (keyed_explain once found).1
    exact (keyed.of_reaches (Node.reaches_of_input? input)).meetsConstant reaches
  · intro graph part found reaches leaf
    exact ((keyed_explain once found).1.of_reaches reaches).mem_leaves_iff

def feedbackCall : Instruction :=
  ⟨5, 0, "invoke-static", [.regList [⟨.loc, 3⟩], .method "Lx;->use(I)V"]⟩

theorem argumentRegister_feedbackCall : feedbackCall.argumentRegister 0 = .ok ⟨.loc, 3⟩ := by
  have static : feedbackCall.argumentOffset = 0 := by decide +kernel
  rw [Instruction.argumentRegister, static]
  rfl

/-- Cut short before the cycle closes, the graph keeps the constant of the argument. -/
theorem possibleArgument_constants_cut :
    feedback.Holds feedbackCall ∧ feedbackCall.argumentRegister 0 = .ok ⟨.loc, 3⟩ ∧
      ∃ values, feedback.possibleArgument ⟨6, 3, 5⟩ feedbackCall 0 = .ok values ∧
        ∀ v, v ∈ values ↔ ∃ node, feedback.argumentPart ⟨6, 3, 5⟩ feedbackCall ⟨.loc, 3⟩ = some node ∧
          node.ReachesConstant v := by
  have held : feedback.Holds feedbackCall := by decide +kernel
  have argument := argumentRegister_feedbackCall
  have once : (feedback.explainIn ⟨6, 3, 5⟩ feedbackCall .empty).2.EntersOnce := by decide +kernel
  obtain ⟨values, given, _, _, _, _, all, _⟩ :=
    possibleArgument_constants (.load .empty _) ⟨6, 3, 5⟩ held argument
  exact ⟨held, argument, values, given, (all once).1⟩

/-- The walk comes first to the node that the cycle cut short, and does not see the constant. -/
theorem possibleArgument_feedback_loses :
    feedback.Loaded ∧ feedback.Holds feedbackCall ∧
      feedbackCall.argumentRegister 0 = .ok ⟨.loc, 3⟩ ∧
      feedback.possibleArgument ⟨2097152, 5, 5⟩ feedbackCall 0 = .ok [] ∧
      ∃ node, feedback.argumentPart ⟨2097152, 5, 5⟩ feedbackCall ⟨.loc, 3⟩ = some node ∧
        node.ReachesConstant "0x7" := by
  have argument := argumentRegister_feedbackCall
  have nothing : ((feedback.argumentPart ⟨2097152, 5, 5⟩ feedbackCall ⟨.loc, 3⟩).map
      Node.possibleConstants).getD [] = [] := by decide +kernel
  have reached : (feedback.argumentPart ⟨2097152, 5, 5⟩ feedbackCall ⟨.loc, 3⟩).map
      (fun node => decide (node.ReachesConstant "0x7")) = some true := by decide +kernel
  obtain ⟨node, part, reaches⟩ := Option.map_eq_some_iff.mp reached
  refine ⟨.load .empty _, by decide +kernel, argument, ?_, node, part, of_decide_eq_true reaches⟩
  rw [possibleArgument_eq argument, nothing]

end Store

end Backflow
