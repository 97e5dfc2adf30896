import Backflow.Proofs.Run
import Backflow.Proofs.Walk

/-! # Queries that enter no address twice

An address that is entered again before it is settled is settled several times, each time with
a node of its own.  Where this does not happen, the memory of a query is one graph with one node
at each address.

* `Query.EntersOnce` says that no address has been entered twice.
* `Query.Consistent` is what follows for the memory: the parts of a remembered graph are what
  is remembered at their own addresses, and recorded sizes are those of remembered nodes.
* `Store.entersOnce_of_acyclic`: if no definition that an instruction depends on depends on
  itself, explaining the instruction enters no address twice.
-/

namespace Backflow

/-! ## Entries -/

def Event.entered? : Event → Option Address
  | .entered address => some address
  | _ => none

namespace Query

def EntersOnce (query : Query) : Prop :=
  (query.journal.filterMap Event.entered?).Nodup

instance (query : Query) : Decidable query.EntersOnce :=
  inferInstanceAs (Decidable (List.Nodup _))

theorem count_entered (journal : List Event) (a : Address) :
    (journal.filterMap Event.entered?).count a = journal.count (.entered a) := by
  induction journal with
  | nil => rfl
  | cons event rest ih => cases event <;> simp [Event.entered?, List.count_cons, List.filterMap_cons, ih]

theorem entersOnce_iff {query : Query} :
    query.EntersOnce ↔ ∀ a, query.journal.count (.entered a) ≤ 1 := by
  simp only [EntersOnce, List.nodup_iff_count_le_one, count_entered]

theorem EntersOnce.of_suffix {query query' : Query} (once : query'.EntersOnce)
    (journal : query.journal <:+ query'.journal) : query.EntersOnce :=
  (journal.sublist.filterMap Event.entered?).nodup once

/-- If an address is entered once, nothing is remembered for it before it is settled. -/
theorem Grows.fresh {query query' : Query} {a : Address} (unmet : query.memo[a]? = none)
    (grows : (query.log (.entered a)).Grows query') (once : query'.EntersOnce) :
    query'.memo[a]? = none := by
  apply Decidable.byContradiction
  intro met
  have more := grows.entered unmet met
  have most := entersOnce_iff.mp once a
  simp only [Query.log, List.count_cons_self] at more
  omega

/-! ## One node at each address -/

/-- All parts of an outcome are remembered at their own addresses. -/
def HasParts (query : Query) (outcome : Option Node) : Prop :=
  ∀ node part, outcome = some node → node.Reaches part → query.memo[part.addr]? = some (some part)

/-- The memory is one graph with one node at each address, and its recorded sizes are right. -/
structure Consistent (query : Query) : Prop where
  parts : ∀ {a : Address} {outcome}, query.memo[a]? = some outcome → query.HasParts outcome
  sizes : ∀ {a : Address} {size}, query.sizes[a]? = some size →
    ∃ node, query.memo[a]? = some (some node) ∧ node.addr = a ∧ size = node.size

theorem HasParts.none (query : Query) : query.HasParts Option.none :=
  fun _ _ same => nomatch same

theorem HasParts.mono {query query' : Query} {outcome : Option Node}
    (parts : query.HasParts outcome)
    (keeps : ∀ {a : Address} {o}, query.memo[a]? = some o → query'.memo[a]? = some o) :
    query'.HasParts outcome :=
  fun node part same reaches => keeps (parts node part same reaches)

theorem Consistent.settle {query query' : Query} {address : Address} {outcome : Option Node}
    (consistent : query.Consistent) (fresh : query.memo[address]? = none)
    (memo : query'.memo = query.memo.insert address outcome)
    (parts : ∀ node part, outcome = some node → node.Reaches part →
      part = node ∧ node.addr = address ∨ query.memo[part.addr]? = some (some part))
    (sizes : ∀ {a : Address} {size}, query'.sizes[a]? = some size → query.sizes[a]? = some size ∨
      a = address ∧ ∃ node, outcome = some node ∧ node.addr = a ∧ size = node.size) :
    query'.Consistent ∧ query'.HasParts outcome := by
  -- nothing is lost, as nothing was remembered for the address
  have keeps : ∀ {a : Address} {o}, query.memo[a]? = some o → query'.memo[a]? = some o := by
    intro a o found
    rw [memo, getElem?_memo_insert]
    split
    · rename_i here
      simp [here, fresh] at found
    · exact found
  have parts : query'.HasParts outcome := by
    intro node part same reaches
    rcases parts node part same reaches with ⟨rfl, rfl⟩ | remembered
    · simp [memo, same]
    · exact keeps remembered
  refine ⟨⟨fun {a o} found => ?_, fun {a size} found => ?_⟩, parts⟩
  · rw [memo, getElem?_memo_insert] at found
    split at found
    · cases found
      exact parts
    · exact (consistent.parts found).mono keeps
  · rcases sizes found with found | ⟨rfl, node, rfl, same, counted⟩
    · obtain ⟨node, remembered, rest⟩ := consistent.sizes found
      exact ⟨node, keeps remembered, rest⟩
    · exact ⟨node, by simp [memo], same, counted⟩

/-- No size is recorded for an address for which nothing is remembered. -/
theorem Consistent.count_eq {query : Query} (consistent : query.Consistent) {node : Node}
    (fresh : query.memo[node.addr]? = none) : query.count node = node.size := by
  unfold count
  cases recorded : query.sizes[node.addr]? with
  | none => rfl
  | some size =>
    obtain ⟨_, remembered, _⟩ := consistent.sizes recorded
    simp [fresh] at remembered

/-- Consistency of a query, as far as it has entered no address twice. -/
def WhenOnce (query : Query) : Prop :=
  query.EntersOnce → query.Consistent

theorem WhenOnce.log {query : Query} (consistent : query.WhenOnce) (event : Event) :
    (query.log event).WhenOnce := by
  intro once
  have before := consistent (once.of_suffix (List.suffix_cons _ _))
  exact ⟨before.parts, before.sizes⟩

theorem WhenOnce.logScans {query : Query} (consistent : query.WhenOnce) (origins : List Address) :
    (query.logScans origins).WhenOnce := by
  intro once
  have before := consistent (once.of_suffix (List.suffix_append _ _))
  exact ⟨before.parts, before.sizes⟩

end Query

namespace Store

variable {store : Store} {limits : Limits}

/-- A query that enters no address twice stays consistent. -/
theorem whenOnce_explainWithin (store : Store) (limits : Limits) (depth : Nat)
    (found : Option Instruction) (query : Query) :
    query.WhenOnce →
      (store.explainWithin limits depth found query).2.WhenOnce ∧
        ((store.explainWithin limits depth found query).2.EntersOnce →
          (store.explainWithin limits depth found query).2.HasParts
            (store.explainWithin limits depth found query).1) := by
  refine store.explainWithin_induction limits (P := fun _ _ q o q' =>
    q.WhenOnce → q'.WhenOnce ∧ (q'.EntersOnce → q'.HasParts o)) ?_ ?_ ?_ ?_ depth found query
  · exact fun _ query start => ⟨start, fun _ => .none query⟩
  · exact fun _ query start => ⟨start, fun _ => .none query⟩
  · exact fun _ i query outcome hit start => ⟨start, fun once => (start once).parts hit⟩
  intro depth i query outcome query' unmet step start
  -- it is enough to settle an address for which nothing is remembered
  suffices settled : query'.EntersOnce → query'.Consistent ∧ query'.HasParts outcome from
    ⟨fun once => (settled once).1, fun once => (settled once).2⟩
  intro once
  have entered := start.log (.entered i.addr)
  cases step with
  | leaf leaf =>
    refine (entered (once.of_suffix (List.suffix_cons _ _))).settle unmet rfl ?_ .inl
    intro node part same reaches
    cases same
    exact .inl ⟨Node.reaches_leaf.mp reaches, rfl⟩
  | moved moved run =>
    obtain ⟨kept, explained⟩ := run
    obtain ⟨after, parts⟩ := explained (entered.logScans _)
    have once := once.of_suffix (List.suffix_cons _ _)
    have grows := (Query.Grows.logScans _ _).trans kept.grows
    exact (after once).settle (grows.fresh unmet once) rfl
      (fun node part same reaches => .inr (parts once node part same reaches)) .inl
  | unreadable =>
    exact (entered (once.of_suffix (List.suffix_cons _ _))).settle unmet rfl
      (fun node part same => nomatch same) .inl
  | node notLeaf notMoved planned gathered settles =>
    rename_i plan inputs mid
    obtain ⟨after, answers⟩ := gathered.collect planned (fun origins h => h.logScans origins)
      (fun grows parts once => (parts (once.of_suffix grows.journal)).mono grows.memo) entered
    have grows : (query.log (.entered i.addr)).Grows mid := gathered.grows fun h => h.1.grows
    -- the node itself is new, all that is below it was remembered with its inputs
    have parts : mid.EntersOnce → ∀ node part, some (Node.internal i inputs) = some node →
        node.Reaches part → part = node ∧ node.addr = i.addr ∨
          mid.memo[part.addr]? = some (some part) := by
      intro once node part same reaches
      cases same
      rcases Node.reaches_internal.mp reaches with rfl | ⟨r, child, member, deeper⟩
      · exact .inl ⟨rfl, rfl⟩
      · exact .inr ((answers r _ member).2.2 once child part rfl deeper)
    cases settles with
    | kept fits memo sizes journal =>
      have once := once.of_suffix (journal ▸ List.suffix_cons _ _)
      have fresh := grows.fresh unmet once
      refine (after once).settle fresh memo (parts once) fun {a size} found => ?_
      rw [sizes] at found
      split at found
      · rename_i here
        cases found
        exact .inr ⟨here, _, rfl, here.symm, (after once).count_eq fresh⟩
      · exact .inl found
    | dropped large memo sizes journal =>
      have once := once.of_suffix
        (journal ▸ (List.suffix_cons _ _).trans (List.suffix_cons _ _))
      refine (after once).settle (grows.fresh unmet once) memo
        (fun node part same => nomatch same) fun {a size} found => ?_
      rw [sizes] at found
      split at found
      · cases found
      · exact .inl found

/-- A graph built without entering an address twice has one node at each address, and the number
compared with the limit is the number of its addresses. -/
theorem keyed_explain {i : Instruction} {graph : Node}
    (once : (store.explainIn limits i .empty).2.EntersOnce)
    (found : store.explain limits i = some graph) :
    graph.Keyed ∧ (store.explainIn limits i .empty).2.count graph = graph.size := by
  have empty : Query.empty.WhenOnce := fun _ =>
    ⟨fun found => by simp [Query.empty] at found, fun found => by simp [Query.empty] at found⟩
  obtain ⟨after, parts⟩ := store.whenOnce_explainWithin limits (limits.maxStage + 1) (some i)
    .empty empty
  have remembered := fun part reaches => parts once graph part found reaches
  refine ⟨fun m n hm hn same => ?_, ?_⟩
  · -- two parts at one address are both what is remembered there
    have := (remembered m hm).symm.trans (same ▸ remembered n hn)
    exact Option.some.inj (Option.some.inj this)
  · unfold Query.count
    cases recorded : (store.explainIn limits i .empty).2.sizes[graph.addr]? with
    | none => rfl
    | some size =>
      obtain ⟨node, here, _, rfl⟩ := (after once).sizes recorded
      rw [show node = graph from
        Option.some.inj (Option.some.inj (here.symm.trans (remembered graph .refl)))]
      rfl

/-! ## Definitions without cycles -/

/-- Nothing that the explanation of `i` goes through depends on itself. -/
def AcyclicFrom (store : Store) (limits : Limits) (i : Instruction) : Prop :=
  ∀ j, Relation.ReflTransGen (store.DependsOn limits) i j →
    ¬ Relation.TransGen (store.DependsOn limits) j j

end Store

/-- Each address is entered once at most, and those entered are settled or still `Open`. -/
structure Query.Stacked (Open : Address → Prop) (query : Query) : Prop where
  once : ∀ a, query.journal.count (.entered a) ≤ 1
  settled : ∀ a, 0 < query.journal.count (.entered a) → Open a ∨ query.memo[a]? ≠ none

namespace Query.Stacked

variable {Open : Address → Prop} {query query' : Query} {address : Address}

theorem enter (stacked : query.Stacked Open) (closed : ¬ Open address)
    (unmet : query.memo[address]? = none) :
    (query.log (.entered address)).Stacked fun a => a = address ∨ Open a := by
  -- an address entered before would be open or settled, and this one is neither
  have zero : query.journal.count (.entered address) = 0 := by
    apply Nat.eq_zero_of_not_pos
    intro before
    rcases stacked.settled address before with opened | met
    · exact closed opened
    · exact met unmet
  constructor
  · intro a
    simp only [Query.log, List.count_cons]
    by_cases here : a = address
    · subst here
      simp [zero]
    · have := stacked.once a
      simpa [Ne.symm here] using this
  · intro a before
    by_cases here : a = address
    · exact .inl (.inl here)
    · simp only [Query.log, List.count_cons] at before
      have before : 0 < query.journal.count (.entered a) := by simpa [Ne.symm here] using before
      exact (stacked.settled a before).imp .inr id

theorem settle {outcome : Option Node} (stacked : query.Stacked fun a => a = address ∨ Open a)
    (memo : query'.memo = query.memo.insert address outcome)
    (entries : ∀ a, query'.journal.count (.entered a) = query.journal.count (.entered a)) :
    query'.Stacked Open := by
  refine ⟨fun a => entries a ▸ stacked.once a, fun a before => ?_⟩
  rw [entries] at before
  rw [memo, Query.getElem?_memo_insert]
  split
  · exact .inr (by simp)
  · rename_i elsewhere
    rcases stacked.settled a before with (here | opened) | met
    · exact absurd here elsewhere
    · exact .inl opened
    · exact .inr met

theorem logScans (stacked : query.Stacked Open) (origins : List Address) :
    (query.logScans origins).Stacked Open := by
  have entries := query.count_entered_logScans origins
  exact ⟨fun a => entries a ▸ stacked.once a, fun a before => stacked.settled a (entries a ▸ before)⟩

end Query.Stacked

namespace Store

variable {store : Store} {limits : Limits}

/-- A definition from which no chain comes back to an open address. -/
structure Clear (store : Store) (limits : Limits) (Open : Address → Prop) (i : Instruction) :
    Prop where
  held : store.Holds i
  acyclic : store.AcyclicFrom limits i
  apart : ∀ j, Relation.ReflTransGen (store.DependsOn limits) i j → ¬ Open j.addr

theorem Clear.step {Open : Address → Prop} {i d : Instruction} (addressed : store.Addressed)
    (clear : store.Clear limits Open i) (depends : store.DependsOn limits i d) :
    store.Clear limits (fun a => a = i.addr ∨ Open a) d := by
  refine ⟨addressed.holds_of_dependsOn depends,
    fun j path => clear.acyclic j (.head depends path), ?_⟩
  rintro j path (same | opened)
  · -- a chain that comes back to `i` would be a cycle
    have heldLast := addressed.holds_of_path (addressed.holds_of_dependsOn depends) path
    obtain rfl := heldLast.eq clear.held same
    exact clear.acyclic j .refl (.head' depends path)
  · exact clear.apart j (.head depends path) opened

theorem stacked_explainWithin (addressed : store.Addressed) (depth : Nat)
    (found : Option Instruction) (query : Query) :
    ∀ Open : Address → Prop, (∀ i, found = some i → store.Clear limits Open i) →
      query.Stacked Open → (store.explainWithin limits depth found query).2.Stacked Open := by
  refine store.explainWithin_induction limits (P := fun _ found q _ q' =>
    ∀ Open : Address → Prop, (∀ i, found = some i → store.Clear limits Open i) →
      q.Stacked Open → q'.Stacked Open) ?_ ?_ ?_ ?_ depth found query
  · exact fun _ _ _ _ stacked => stacked
  · exact fun _ _ _ _ stacked => stacked
  · exact fun _ _ _ _ _ _ _ stacked => stacked
  intro depth i query outcome query' unmet step Open clear stacked
  have clear := clear i rfl
  have entered := stacked.enter (clear.apart i .refl) unmet
  cases step with
  | leaf leaf => exact entered.settle rfl fun a => by simp
  | moved moved run =>
    have after := run.2 _ (fun d call => clear.step addressed (.moved moved call))
      (entered.logScans _)
    exact after.settle rfl fun a => by simp
  | unreadable => exact entered.settle rfl fun a => by simp
  | node notLeaf notMoved planned gathered settles =>
    obtain ⟨after, _⟩ := Gathered.collect (A := fun _ _ _ => True)
      (I := Query.Stacked fun a => a = i.addr ∨ Open a)
      ((gathered.restrict notLeaf notMoved planned).mono fun h => ⟨h.1.1, fun stacked =>
        ⟨h.1.2 _ (fun d same => clear.step addressed (h.2 d same)) stacked, trivial⟩⟩)
      planned (fun origins h => h.logScans origins) (fun _ _ => trivial) entered
    cases settles with
    | kept _ memo _ journal => exact after.settle memo fun a => by simp [journal]
    | dropped _ memo _ journal => exact after.settle memo fun a => by simp [journal]

/-- Without a cycle of definitions no address is entered twice. -/
theorem entersOnce_of_acyclic (addressed : store.Addressed) {i : Instruction}
    (held : store.Holds i) (acyclic : store.AcyclicFrom limits i) :
    (store.explainIn limits i .empty).2.EntersOnce := by
  have start : Query.empty.Stacked fun _ => False :=
    ⟨fun a => by simp [Query.empty], fun a before => by simp [Query.empty] at before⟩
  have after := stacked_explainWithin addressed (limits.maxStage + 1) (some i) .empty _
    (fun j same => by cases same; exact ⟨held, acyclic, fun _ _ opened => opened⟩) start
  exact Query.entersOnce_iff.mpr after.once

end Store

end Backflow
