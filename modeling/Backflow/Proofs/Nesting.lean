import Backflow.Proofs.Reentry
import Mathlib.Algebra.Order.BigOperators.Group.Finset

/-! # Entries to one address are nested

What is found at an address is remembered when the address is settled, so between entering an
address and settling it a cycle of definitions can enter it again.  Once it has been settled it is
remembered and never entered anew: all entries to one address lie inside each other.  They are
then at different depths, so the limit of depth bounds their number.

* `openIn` are the addresses that have been entered and not settled yet.
* `Nested` says of a journal that entries to one address lie inside each other.
* `Framed` is what a query keeps while certain addresses are open.
* `Store.explainIn_entries` counts the entries of a query.
-/

namespace Backflow

/-! ## Open addresses -/

/-- The addresses that have been entered and not settled yet, the innermost first; the journal has
its last event first. -/
def openIn : List Event → List Address
  | [] => []
  | .entered a :: earlier => a :: openIn earlier
  | .settled _ :: earlier => (openIn earlier).tail
  | .scanned _ :: earlier => openIn earlier
  | .oversized .. :: earlier => openIn earlier

/-- Whenever an address is entered, all earlier entries to it are still open; and what is settled is
the innermost open address. -/
inductive Nested : List Event → Prop
  | nil : Nested []
  | entered {a : Address} {earlier : List Event} (nested : Nested earlier)
      (enclosed : (openIn earlier).count a = earlier.count (.entered a)) :
      Nested (.entered a :: earlier)
  | settled {a : Address} {earlier : List Event} (nested : Nested earlier)
      (innermost : (openIn earlier).head? = some a) : Nested (.settled a :: earlier)
  | scanned {a : Address} {earlier : List Event} (nested : Nested earlier) :
      Nested (.scanned a :: earlier)
  | oversized {a : Address} {size limit : Nat} {earlier : List Event} (nested : Nested earlier) :
      Nested (.oversized a size limit :: earlier)

theorem openIn_logScans (query : Query) (origins : List Address) :
    openIn (query.logScans origins).journal = openIn query.journal := by
  rw [Query.logScans, ← List.map_reverse]
  induction origins.reverse with
  | nil => rfl
  | cons origin rest ih => exact ih

theorem Nested.logScans {query : Query} (nested : Nested query.journal) (origins : List Address) :
    Nested (query.logScans origins).journal := by
  rw [Query.logScans, ← List.map_reverse]
  induction origins.reverse with
  | nil => exact nested
  | cons origin rest ih => exact .scanned ih

/-! ## Paths of definitions -/

namespace Store

/-- A definition that the explanation of `op` comes to in a number of steps. -/
inductive DependsIn (store : Store) (limits : Limits) (op : Instruction) :
    Nat → Instruction → Prop
  | start : DependsIn store limits op 0 op
  | step {steps : Nat} {i d : Instruction} (path : DependsIn store limits op steps i)
      (depends : store.DependsOn limits i d) : DependsIn store limits op (steps + 1) d

end Store

/-! ## Queries with open addresses -/

/-- A query in which the addresses of `stack` are open: entries are nested, an address that is not
remembered has no other entries than the open ones, and every entry is within the limit of depth. -/
structure Framed (store : Store) (limits : Limits) (op : Instruction) (stack : List Address)
    (query : Query) : Prop where
  opened : openIn query.journal = stack
  nested : Nested query.journal
  enclosed : ∀ a : Address, query.memo[a]? = none →
    stack.count a = query.journal.count (.entered a)
  bounded : ∀ a, query.journal.count (.entered a) ≤ limits.maxStage + 1
  reached : ∀ a, .entered a ∈ query.journal → ∃ steps i, steps ≤ limits.maxStage ∧ i.addr = a ∧
    store.DependsIn limits op steps i

namespace Framed

variable {store : Store} {limits : Limits} {op i : Instruction} {stack : List Address}
  {query query' : Query}

theorem empty (store : Store) (limits : Limits) (op : Instruction) :
    Framed store limits op [] .empty where
  opened := rfl
  nested := .nil
  enclosed _ _ := rfl
  bounded _ := Nat.zero_le _
  reached _ entered := nomatch entered

/-- Events that neither enter nor settle an address change nothing. -/
theorem quiet (framed : Framed store limits op stack query) (memo : query'.memo = query.memo)
    (opened : openIn query'.journal = openIn query.journal) (nested : Nested query'.journal)
    (entries : ∀ a, query'.journal.count (.entered a) = query.journal.count (.entered a)) :
    Framed store limits op stack query' where
  opened := opened.trans framed.opened
  nested := nested
  enclosed a unmet := by
    rw [entries]
    exact framed.enclosed a (memo ▸ unmet)
  bounded a := entries a ▸ framed.bounded a
  reached a entered := by
    rw [← List.count_pos_iff, entries, List.count_pos_iff] at entered
    exact framed.reached a entered

theorem logScans (framed : Framed store limits op stack query) (origins : List Address) :
    Framed store limits op stack (query.logScans origins) :=
  framed.quiet rfl (openIn_logScans query origins) (framed.nested.logScans origins)
    (query.count_entered_logScans origins)

theorem logOversized (framed : Framed store limits op stack query) (address : Address)
    (size limit : Nat) : Framed store limits op stack (query.log (.oversized address size limit)) :=
  framed.quiet rfl rfl (.oversized framed.nested) fun a => by simp [Query.log]

/-- An address that is not remembered is entered: it is one deeper than all its open entries. -/
theorem enter (framed : Framed store limits op stack query) (unmet : query.memo[i.addr]? = none)
    (shallow : stack.length ≤ limits.maxStage) (path : store.DependsIn limits op stack.length i) :
    Framed store limits op (i.addr :: stack) (query.log (.entered i.addr)) := by
  have enclosed := framed.enclosed i.addr unmet
  refine ⟨congrArg _ framed.opened, .entered framed.nested (framed.opened ▸ enclosed), ?_, ?_, ?_⟩
  · intro a unmet'
    have before := framed.enclosed a unmet'
    simp only [Query.log, List.count_cons, before, Event.entered.injEq, beq_iff_eq]
  · intro a
    by_cases here : a = i.addr
    · -- as many entries as open ones, and the new one
      have few : stack.count i.addr ≤ stack.length := List.count_le_length
      subst here
      simp only [Query.log, List.count_cons_self]
      omega
    · have := framed.bounded a
      simpa [Query.log, Ne.symm here] using this
  · intro a entered
    rcases List.mem_cons.mp entered with here | before
    · cases here
      exact ⟨stack.length, i, shallow, rfl, path⟩
    · exact framed.reached a before

/-- The innermost open address is settled.  From now on it is remembered, so nothing more has to be
known about its entries. -/
theorem settle {address : Address} {outcome : Option Node}
    (framed : Framed store limits op (address :: stack) query)
    (memo : query'.memo = query.memo.insert address outcome)
    (journal : query'.journal = .settled address :: query.journal) :
    Framed store limits op stack query' := by
  have entries : ∀ a, query'.journal.count (.entered a) = query.journal.count (.entered a) :=
    fun a => by simp [journal]
  refine ⟨?_, ?_, fun a unmet => ?_, fun a => entries a ▸ framed.bounded a, fun a entered => ?_⟩
  · rw [journal, openIn, framed.opened, List.tail_cons]
  · rw [journal]
    exact .settled framed.nested (by rw [framed.opened, List.head?_cons])
  · rw [memo, Query.getElem?_memo_insert] at unmet
    split at unmet
    · cases unmet
    · rename_i elsewhere
      rw [entries, ← framed.enclosed a unmet, List.count_cons_of_ne (Ne.symm elsewhere)]
  · rw [journal, List.mem_cons] at entered
    rcases entered with settled | before
    · cases settled
    · exact framed.reached a before

end Framed

namespace Store

variable {store : Store} {limits : Limits} {op : Instruction}

/-- A run closes what it opens: the open addresses are the same before and after. -/
theorem framed_explainWithin (depth : Nat) (found : Option Instruction) (query : Query) :
    ∀ stack : List Address, stack.length + depth ≤ limits.maxStage + 1 →
      (∀ i, found = some i → store.DependsIn limits op stack.length i) →
      Framed store limits op stack query →
      Framed store limits op stack (store.explainWithin limits depth found query).2 := by
  -- the stack grows by one address on the way down, where the depth left shrinks by one
  refine store.explainWithin_induction limits (P := fun depth found q _ q' =>
    ∀ stack : List Address, stack.length + depth ≤ limits.maxStage + 1 →
      (∀ i, found = some i → store.DependsIn limits op stack.length i) →
      Framed store limits op stack q → Framed store limits op stack q')
    ?_ ?_ ?_ ?_ depth found query
  · exact fun _ _ _ _ _ framed => framed
  · exact fun _ _ _ _ _ framed => framed
  · exact fun _ _ _ _ _ _ _ _ framed => framed
  intro depth i query outcome query' unmet step stack deep path framed
  have path := path i rfl
  have entered := framed.enter unmet (by omega) path
  have deeper : (i.addr :: stack).length + depth ≤ limits.maxStage + 1 := by
    simp only [List.length_cons]
    omega
  cases step with
  | leaf leaf => exact entered.settle rfl rfl
  | moved moved run =>
    have after := run.2 _ deeper (fun d call => path.step (.moved moved call)) (entered.logScans _)
    exact after.settle rfl rfl
  | unreadable => exact entered.settle rfl rfl
  | node notLeaf notMoved planned gathered settles =>
    -- each definition is explained on top of the same stack, which it gives back
    obtain ⟨after, _⟩ := Gathered.collect (A := fun _ _ _ => True)
      (I := Framed store limits op (i.addr :: stack))
      ((gathered.restrict notLeaf notMoved planned).mono fun h => ⟨h.1.1, fun framed =>
        ⟨h.1.2 _ deeper (fun d same => path.step (h.2 d same)) framed, trivial⟩⟩)
      planned (fun origins h => h.logScans origins) (fun _ _ => trivial) entered
    cases settles with
    | kept _ memo _ journal => exact after.settle memo journal
    | dropped _ memo _ journal => exact (after.logOversized _ _ _).settle memo journal

/-! ## Counting -/

theorem length_entries_le {query : Query} {most : Nat}
    (bounded : ∀ a, query.journal.count (.entered a) ≤ most)
    (remembered : ∀ a, .entered a ∈ query.journal → query.memo[a]? ≠ none) :
    (query.journal.filterMap Event.entered?).length ≤ most * query.visited := by
  have known : (query.journal.filterMap Event.entered?).toFinset ⊆ query.memo.keys.toFinset := by
    intro a member
    have entered : .entered a ∈ query.journal := by
      rw [List.mem_toFinset] at member
      rw [← List.count_pos_iff, ← Query.count_entered]
      exact List.count_pos_iff.mpr member
    rw [List.mem_toFinset, Std.TreeMap.mem_keys, Std.TreeMap.mem_iff_isSome_getElem?]
    exact Option.isSome_iff_ne_none.mpr (remembered a entered)
  calc (query.journal.filterMap Event.entered?).length
      = ∑ a ∈ (query.journal.filterMap Event.entered?).toFinset,
          (query.journal.filterMap Event.entered?).count a :=
        (List.sum_toFinset_count_eq_length _).symm
    _ ≤ (query.journal.filterMap Event.entered?).toFinset.card • most :=
        Finset.sum_le_card_nsmul _ _ _ fun a _ => Query.count_entered _ a ▸ bounded a
    _ ≤ query.visited * most := by
        change (query.journal.filterMap Event.entered?).toFinset.card * most ≤ _
        refine Nat.mul_le_mul_right most ((Finset.card_le_card known).trans ?_)
        rw [List.toFinset_card_of_nodup Std.TreeMap.nodup_keys, Std.TreeMap.length_keys]
        exact Nat.le_refl _
    _ = most * query.visited := Nat.mul_comm _ _

/-- In a fresh query the entries to one address lie inside each other, so the limit of depth bounds
their number; every address entered is reached through no more definitions than this limit and is
remembered in the end, so the number of addresses visited bounds that of all entries. -/
theorem explainIn_entries (store : Store) (limits : Limits) (op : Instruction) :
    (∀ a, (store.explainIn limits op .empty).2.journal.count (.entered a) ≤ limits.maxStage + 1) ∧
      Nested (store.explainIn limits op .empty).2.journal ∧
      openIn (store.explainIn limits op .empty).2.journal = [] ∧
      (∀ a, .entered a ∈ (store.explainIn limits op .empty).2.journal →
        (∃ steps i, steps ≤ limits.maxStage ∧ i.addr = a ∧ store.DependsIn limits op steps i) ∧
        (store.explainIn limits op .empty).2.memo[a]? ≠ none) ∧
      ((store.explainIn limits op .empty).2.journal.filterMap Event.entered?).length ≤
        (limits.maxStage + 1) * (store.explainIn limits op .empty).2.visited := by
  have framed : Framed store limits op [] (store.explainIn limits op .empty).2 :=
    framed_explainWithin (limits.maxStage + 1) (some op) .empty [] (by simp)
      (fun i same => by cases same; exact .start) (.empty store limits op)
  -- nothing is open in the end, so an address without entries is the only one not remembered
  have remembered : ∀ a, .entered a ∈ (store.explainIn limits op .empty).2.journal →
      (store.explainIn limits op .empty).2.memo[a]? ≠ none := by
    intro a entered unmet
    have none := framed.enclosed a unmet
    rw [List.count_nil] at none
    exact List.count_eq_zero.mp none.symm entered
  exact ⟨framed.bounded, framed.nested, framed.opened,
    fun a entered => ⟨framed.reached a entered, remembered a entered⟩,
    length_entries_le framed.bounded remembered⟩

/-- Two methods that call each other with the parameter they are given; the first one copies it onto
itself before, so that the copy depends on itself by way of both calls. -/
def echoed : Store :=
  Store.empty.load ⟨[
    ⟨"La;->a(I)V",
      [⟨"move", [.reg ⟨.param, 0⟩, .reg ⟨.param, 0⟩]⟩,
        ⟨"invoke-static", [.regList [⟨.param, 0⟩], .method "La;->b(I)V"]⟩]⟩,
    ⟨"La;->b(I)V",
      [⟨"invoke-static", [.regList [⟨.param, 0⟩], .method "La;->a(I)V"]⟩]⟩], none⟩

/-- Both bounds are reached. -/
example :
    (echoed.explainIn ⟨100, 4, 5⟩ ⟨0, 0, "move", [.reg ⟨.param, 0⟩, .reg ⟨.param, 0⟩]⟩
        .empty).2.journal.count (.entered 0) = 4 + 1 ∧
      (echoed.explainIn ⟨100, 4, 5⟩ ⟨0, 0, "move", [.reg ⟨.param, 0⟩, .reg ⟨.param, 0⟩]⟩
        .empty).2.visited = 1 := by
  decide +kernel

end Store

end Backflow
