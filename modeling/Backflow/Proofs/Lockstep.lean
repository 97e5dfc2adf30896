import Backflow.Proofs.Budget
import Backflow.Proofs.Unfolding

/-! # Queries with different limits of size

Which definitions a query goes through does not depend on its limit of size: a graph that is given
up is remembered as given up, and its address is not entered again.  Two queries that differ in
this limit alone therefore take the same steps, and what they find can be compared step by step.

* `Lockstep` lists what a comparison of states (`tied`) and outcomes (`alike`) has to survive, one
  clause for each thing a query does.  The second query is one that gives up no graph.
* `Lockstep.explainWithin` is the run lemma.
* `Store.explainIn_eq_of_untruncated` takes equality for the comparison: as long as no graph is given
  up, a higher limit changes nothing.
-/

namespace Backflow

/-! ## Graphs that are given up -/

theorem Settles.suffix {limits : Limits} {node : Node} {query query' : Query}
    {outcome : Option Node} (settles : Settles limits node query outcome query') :
    query.journal <:+ query'.journal := by
  cases settles with
  | kept _ _ _ journal => exact journal ▸ List.suffix_cons _ _
  | dropped _ _ _ journal =>
    exact journal ▸ (List.suffix_cons _ _).trans (List.suffix_cons _ _)

namespace Query

theorem truncated_of_suffix {query query' : Query} (journal : query.journal <:+ query'.journal)
    (untruncated : query'.truncated = 0) : query.truncated = 0 := by
  have fewer : query.truncated ≤ query'.truncated := journal.sublist.countP_le
  omega

theorem truncated_of_settle {query : Query} {address : Address} {outcome : Option Node}
    (untruncated : (query.settle address outcome).2.truncated = 0) : query.truncated = 0 :=
  truncated_of_suffix (List.suffix_cons _ _) untruncated

/-- If no graph has been given up, the node settled last was within the limit. -/
theorem fits_of_settleNode {query : Query} {limits : Limits} {node : Node}
    (untruncated : (query.settleNode limits node).2.truncated = 0) :
    query.count node ≤ limits.maxGraphSize := by
  rw [← (node.measure_count query).1]
  by_contra large
  have dropped : 0 < (query.settleNode limits node).2.truncated := by
    simp [settleNode, large, truncated, log, Event.isOversized]
  omega

end Query

theorem suffix_explainLoads {explain : Option Instruction → Query → Option Node × Query}
    (grows : ∀ found query, query.journal <:+ (explain found query).2.journal) (loads : Loads)
    (query : Query) : query.journal <:+ (explainLoads explain loads query).2.journal := by
  induction loads generalizing query with
  | nil => exact List.suffix_rfl
  | cons load rest ih => exact (grows load.2 query).trans (ih _)

/-! ## Two queries in step -/

/-- A comparison of two queries that every step preserves, if the second one gives up no graph. -/
structure Lockstep (first second : Limits) (tied : Query → Query → Prop)
    (alike : Option Node → Option Node → Prop) : Prop where
  hops : first.maxHops = second.maxHops
  absent : alike none none
  leaf : ∀ i, alike (some (.leaf i)) (some (.leaf i))
  memo : ∀ {q₁ q₂}, tied q₁ q₂ → ∀ a : Address, Option.Rel alike q₁.memo[a]? q₂.memo[a]?
  log : ∀ {q₁ q₂}, tied q₁ q₂ → ∀ event, tied (q₁.log event) (q₂.log event)
  logScans : ∀ {q₁ q₂}, tied q₁ q₂ → ∀ origins, tied (q₁.logScans origins) (q₂.logScans origins)
  settle : ∀ {q₁ q₂ o₁ o₂}, tied q₁ q₂ → alike o₁ o₂ → ∀ address,
    tied (q₁.settle address o₁).2 (q₂.settle address o₂).2
  node : ∀ {q₁ q₂ xs ys}, tied q₁ q₂ → Inputs.Alike alike xs ys → ∀ i,
    (q₂.settleNode second (.internal i ys)).2.truncated = 0 →
      alike (q₁.settleNode first (.internal i xs)).1 (q₂.settleNode second (.internal i ys)).1 ∧
        tied (q₁.settleNode first (.internal i xs)).2 (q₂.settleNode second (.internal i ys)).2

namespace Lockstep

variable {first second : Limits} {tied : Query → Query → Prop}
  {alike : Option Node → Option Node → Prop}

section Steps

variable {explain₁ explain₂ : Option Instruction → Query → Option Node × Query}
  (each : ∀ found {q₁ q₂}, tied q₁ q₂ → (explain₂ found q₂).2.truncated = 0 →
    alike (explain₁ found q₁).1 (explain₂ found q₂).1 ∧
      tied (explain₁ found q₁).2 (explain₂ found q₂).2)
  (grows : ∀ found q, q.journal <:+ (explain₂ found q).2.journal)
include each grows

theorem explainLoads (loads : Loads) {q₁ q₂ : Query} (start : tied q₁ q₂)
    (untruncated : (Backflow.explainLoads explain₂ loads q₂).2.truncated = 0) :
    Inputs.Alike alike (Backflow.explainLoads explain₁ loads q₁).1
        (Backflow.explainLoads explain₂ loads q₂).1 ∧
      tied (Backflow.explainLoads explain₁ loads q₁).2 (Backflow.explainLoads explain₂ loads q₂).2 := by
  induction loads generalizing q₁ q₂ with
  | nil => exact ⟨.nil, start⟩
  | cons load rest ih =>
    obtain ⟨r, found⟩ := load
    -- what the first definition gives up stays in the journal while the others are explained
    have rest := suffix_explainLoads grows rest (explain₂ found q₂).2
    obtain ⟨outcome, between⟩ := each found start (Query.truncated_of_suffix rest untruncated)
    obtain ⟨inputs, after⟩ := ih between untruncated
    refine ⟨?_, after⟩
    simp only [Inputs.Alike, Backflow.explainLoads, Inputs.toList_cons]
    exact .cons ⟨rfl, outcome⟩ inputs

variable (lock : Lockstep first second tied alike) (store : Store) (i : Instruction)
include lock

theorem explainInputs (plan : InputPlan) {q₁ q₂ : Query} (start : tied q₁ q₂)
    (untruncated : (store.explainInputs second explain₂ i plan q₂).2.truncated = 0) :
    Inputs.Alike alike (store.explainInputs first explain₁ i plan q₁).1
        (store.explainInputs second explain₂ i plan q₂).1 ∧
      tied (store.explainInputs first explain₁ i plan q₁).2
        (store.explainInputs second explain₂ i plan q₂).2 := by
  cases plan with
  | each registers =>
    simp only [Store.explainInputs, lock.hops] at untruncated ⊢
    exact explainLoads each grows _ (lock.logScans start _) untruncated
  | shared registers kind =>
    obtain ⟨outcome, after⟩ := each _ (lock.logScans start _) untruncated
    refine ⟨?_, after⟩
    simp only [Inputs.Alike, Store.explainInputs, Inputs.toList_ofList]
    exact List.forall₂_map_left_iff.mpr (List.forall₂_map_right_iff.mpr
      (List.forall₂_same.mpr fun _ _ => ⟨rfl, outcome⟩))

theorem explainEntered {q₁ q₂ : Query} (start : tied q₁ q₂)
    (untruncated : (store.explainEntered second explain₂ i q₂).2.truncated = 0) :
    alike (store.explainEntered first explain₁ i q₁).1
        (store.explainEntered second explain₂ i q₂).1 ∧
      tied (store.explainEntered first explain₁ i q₁).2
        (store.explainEntered second explain₂ i q₂).2 := by
  unfold Store.explainEntered at untruncated ⊢
  split at untruncated
  · rename_i leaf
    simp only [leaf, if_true]
    exact ⟨lock.leaf i, lock.settle start (lock.leaf i) _⟩
  rename_i notLeaf
  split at untruncated
  · rename_i moved
    simp only [notLeaf, moved, if_true]
    obtain ⟨outcome, after⟩ := each _ (lock.logScans start (store.recentInvocation i).origins)
      (Query.truncated_of_settle untruncated)
    exact ⟨outcome, lock.settle after outcome _⟩
  rename_i notMoved
  simp only [notLeaf, notMoved]
  split at untruncated
  · exact ⟨lock.absent, lock.settle start lock.absent _⟩
  · rename_i plan planned
    obtain ⟨inputs, after⟩ := lock.explainInputs each grows store i plan start
      (Query.truncated_of_suffix (Query.settles_settleNode _ _ _).suffix untruncated)
    exact lock.node after inputs i untruncated

end Steps

/-- Two queries that are tied stay tied, whatever they explain, if the second gives up no graph. -/
theorem explainWithin (lock : Lockstep first second tied alike) (store : Store) (depth : Nat)
    (found : Option Instruction) {q₁ q₂ : Query} (start : tied q₁ q₂)
    (untruncated : (store.explainWithin second depth found q₂).2.truncated = 0) :
    alike (store.explainWithin first depth found q₁).1 (store.explainWithin second depth found q₂).1 ∧
      tied (store.explainWithin first depth found q₁).2
        (store.explainWithin second depth found q₂).2 := by
  induction depth generalizing found q₁ q₂ with
  | zero => cases found <;> exact ⟨lock.absent, start⟩
  | succ depth ih =>
    cases found with
    | none => exact ⟨lock.absent, start⟩
    | some i =>
      -- both remember the address, or both enter it
      have both := lock.memo start i.addr
      cases hit₁ : q₁.memo[i.addr]? <;> cases hit₂ : q₂.memo[i.addr]? <;>
        rw [hit₁, hit₂] at both <;> cases both <;>
        simp only [Store.explainWithin, hit₁, hit₂] at untruncated ⊢
      · exact lock.explainEntered (fun found => ih found)
          (fun found q => (store.kept_explainWithin second depth found q).grows.journal) store i
          (lock.log start _) untruncated
      · rename_i outcome
        exact ⟨outcome, start⟩

end Lockstep

/-! ## A limit that is not reached -/

/-- A higher limit makes no difference to a query that gives up no graph. -/
theorem lockstep_eq {limits higher : Limits} (hops : higher.maxHops = limits.maxHops)
    (size : limits.maxGraphSize ≤ higher.maxGraphSize) : Lockstep higher limits Eq Eq where
  hops := hops
  absent := rfl
  leaf _ := rfl
  memo {q₁ q₂} same a := by
    subst same
    cases q₁.memo[a]? with
    | none => exact .none
    | some outcome => exact .some rfl
  log same _ := same ▸ rfl
  logScans same _ := same ▸ rfl
  settle same outcome _ := same ▸ outcome ▸ rfl
  node same inputs i untruncated := by
    subst same
    obtain rfl := Inputs.eq_of_alike inputs
    have fits := Query.fits_of_settleNode untruncated
    rw [Query.settleNode_of_fits fits, Query.settleNode_of_fits (fits.trans size)]
    exact ⟨rfl, rfl⟩

namespace Store

variable {store : Store} {limits : Limits}

/-- As long as no graph is given up, a higher limit of size makes no difference to a query. -/
theorem explainIn_raise {size : Nat} (higher : limits.maxGraphSize ≤ size) {op : Instruction}
    {query : Query} (untruncated : (store.explainIn limits op query).2.truncated = 0) :
    store.explainIn { limits with maxGraphSize := size } op query =
      store.explainIn limits op query := by
  have lock : Lockstep { limits with maxGraphSize := size } limits Eq Eq := lockstep_eq rfl higher
  obtain ⟨outcome, state⟩ := lock.explainWithin store (limits.maxStage + 1) (some op) rfl untruncated
  exact Prod.ext outcome state

/-- If explaining an instruction gives up no graph, it gives the same graph with every higher limit of
size, and leaves the query in the same state: the same is remembered at every address and again no
graph is given up. -/
theorem explainIn_eq_of_untruncated (store : Store) (limits : Limits) (op : Instruction)
    (untruncated : (store.explainIn limits op .empty).2.truncated = 0) {size : Nat}
    (higher : limits.maxGraphSize ≤ size) :
    (store.explainIn { limits with maxGraphSize := size } op .empty).1 =
        (store.explainIn limits op .empty).1 ∧
      (∀ a : Address, (store.explainIn { limits with maxGraphSize := size } op .empty).2.memo[a]? =
        (store.explainIn limits op .empty).2.memo[a]?) ∧
      (store.explainIn { limits with maxGraphSize := size } op .empty).2.truncated = 0 := by
  rw [explainIn_raise higher untruncated]
  exact ⟨rfl, fun _ => rfl, untruncated⟩

/-- The cycle of `feedback` comes back to the element and records the size of what it is cut to there,
so a graph of four addresses passes a limit of three; it does so with every higher limit. -/
theorem explainIn_eq_of_untruncated_feedback :
    (feedback.explainIn ⟨3, 3, 5⟩ feedbackElement .empty).2.truncated = 0 ∧
      (feedback.explainIn ⟨3, 3, 5⟩ feedbackElement .empty).1.map (·.addresses.card) = some 4 ∧
      (feedback.explainIn ⟨3, 3, 5⟩ feedbackElement .empty).2.journal.count (.entered 2) = 2 ∧
      (feedback.explainIn ⟨2097152, 3, 5⟩ feedbackElement .empty).1 =
        (feedback.explainIn ⟨3, 3, 5⟩ feedbackElement .empty).1 := by
  have untruncated : (feedback.explainIn ⟨3, 3, 5⟩ feedbackElement .empty).2.truncated = 0 := by
    decide +kernel
  exact ⟨untruncated, by decide +kernel, by decide +kernel,
    (explainIn_eq_of_untruncated feedback ⟨3, 3, 5⟩ feedbackElement untruncated (by decide)).1⟩

end Store

end Backflow
