import Backflow.Proofs.Justified
import Backflow.Proofs.Layout
import Backflow.Proofs.Reentry

/-! # Explanations that stay in one method

Without hops to callers and without reads of fields, all that an instruction is explained by
stands before it in its own method.  Definitions then go strictly backward, so they form no cycle,
no address is entered twice, and the graph has one node at each address.

* `Store.mem_visibleBefore_of_dependsOn`: a definition is passed on by the scan from the
  instruction that depends on it.
* `Query.ScansOnEntry`: no address is scanned from more often than it is entered, as every search
  that an entry starts scans once, from the address entered.
* `Store.explain_one_method` puts the two together.
-/

namespace Backflow

/-! ## Scans and entries -/

namespace Query

/-- Between the two states no address is scanned from more often than it is entered. -/
def ScansOnEntry (query query' : Query) : Prop :=
  ∀ a, query'.journal.count (.scanned a) + query.journal.count (.entered a) ≤
    query.journal.count (.scanned a) + query'.journal.count (.entered a)

theorem count_scans (query : Query) (a : Address) :
    query.scans.count a = query.journal.count (.scanned a) := by
  rw [scans, List.count_filterMap, List.countP_reverse, List.count]
  refine List.countP_congr fun event _ => ?_
  cases event <;> simp [Event.scanOrigin?]

theorem count_scanned_logScans (query : Query) (origins : List Address) (a : Address) :
    (query.logScans origins).journal.count (.scanned a) =
      origins.count a + query.journal.count (.scanned a) := by
  have injective : Function.Injective Event.scanned := fun _ _ same => Event.scanned.inj same
  simp [logScans, List.count_append, List.count_map_of_injective origins _ injective]

namespace ScansOnEntry

theorem refl (query : Query) : query.ScansOnEntry query :=
  fun _ => Nat.le_refl _

theorem trans {q q' q'' : Query} (one : q.ScansOnEntry q') (two : q'.ScansOnEntry q'') :
    q.ScansOnEntry q'' := by
  intro a
  have first := one a
  have second := two a
  omega

/-- An address is entered and then scanned from, once at most. -/
theorem enter (query : Query) {address : Address} {origins : List Address}
    (once : origins.Sublist [address]) :
    query.ScansOnEntry ((query.log (.entered address)).logScans origins) := by
  intro a
  have few : origins.count a ≤ if address = a then 1 else 0 := by
    simpa [List.count_cons] using once.count_le a
  have entries : (query.log (.entered address)).journal.count (.entered a) =
      query.journal.count (.entered a) + if address = a then 1 else 0 := by
    simp [log, List.count_cons]
  have scans : (query.log (.entered address)).journal.count (.scanned a) =
      query.journal.count (.scanned a) := by
    simp [log]
  rw [count_scanned_logScans, count_entered_logScans, entries, scans]
  omega

theorem settle {query query' : Query}
    (scanned : ∀ a, query'.journal.count (.scanned a) = query.journal.count (.scanned a))
    (entered : ∀ a, query'.journal.count (.entered a) = query.journal.count (.entered a)) :
    query.ScansOnEntry query' := by
  intro a
  rw [scanned, entered]

end ScansOnEntry

end Query

namespace Store

variable {store : Store} {limits : Limits}

theorem origins_nearestLoads (i : Instruction) (registers : List Register) :
    (store.nearestLoads i registers).origins.Sublist [i.addr] := by
  unfold nearestLoads
  split
  · exact List.nil_sublist _
  · exact List.Sublist.refl _

theorem origins_recentWrite (kind : FieldKind) (i : Instruction) :
    (store.recentWrite kind i).origins.Sublist [i.addr] := by
  unfold recentWrite
  split
  · exact List.nil_sublist _
  · exact List.Sublist.refl _

theorem inputOrigins_sublist (store : Store) (noHops : limits.maxHops = 0) (i : Instruction)
    (plan : InputPlan) :
    (store.inputOrigins limits i plan).Sublist [i.addr] := by
  cases plan with
  | each registers =>
    simp only [inputOrigins, noHops, recentLoads]
    exact origins_nearestLoads i registers
  | shared registers kind => exact origins_recentWrite kind i

theorem scansOnEntry_explainWithin (store : Store) (noHops : limits.maxHops = 0) (depth : Nat)
    (found : Option Instruction) (query : Query) :
    query.ScansOnEntry (store.explainWithin limits depth found query).2 := by
  refine store.explainWithin_rule limits (P := fun _ _ q _ q' => q.ScansOnEntry q')
    ?_ ?_ ?_ ?_ depth found query
  · exact fun _ query => .refl query
  · exact fun _ query => .refl query
  · exact fun _ _ query _ _ => .refl query
  intro depth i query outcome query' _ step
  have entered : query.ScansOnEntry (query.log (.entered i.addr)) :=
    .enter query (List.nil_sublist [i.addr])
  cases step with
  | leaf leaf => exact entered.trans (.settle (fun a => by simp) fun a => by simp)
  | moved moved run =>
    have scanned := Query.ScansOnEntry.enter query (List.Sublist.refl [i.addr])
    exact (scanned.trans run).trans (.settle (fun a => by simp) fun a => by simp)
  | unreadable => exact entered.trans (.settle (fun a => by simp) fun a => by simp)
  | node notLeaf notMoved planned gathered settles =>
    rename_i plan inputs mid
    -- the one scan of the search is paid for by the entry, those of the inputs by their own
    have scanned := Query.ScansOnEntry.enter query (store.inputOrigins_sublist noHops i plan)
    have explained := gathered.relates (R := Query.ScansOnEntry) .refl .trans id
    refine (scanned.trans explained).trans ?_
    cases settles with
    | kept _ _ _ journal => exact .settle (fun a => by simp [journal]) fun a => by simp [journal]
    | dropped _ _ _ journal => exact .settle (fun a => by simp [journal]) fun a => by simp [journal]

/-! ## Definitions of the same method -/

section OneMethod

variable (loaded : store.Loaded) (noHops : limits.maxHops = 0)
  (noReads : ∀ i ∈ store.instructions, i.isOf "sget" = false ∧ i.isOf "iget" = false)

include loaded in
theorem producer_before {i d j : Instruction} (held : store.Holds i)
    (before : d ∈ store.visibleBefore i) (produced : store.producer d = some j) :
    j.method = i.method ∧ j.addr < i.addr := by
  have near := loaded.mem_visibleBefore held before
  cases moved : d.isOf "move-result" with
  | false =>
    rw [producer_of_notMoved moved] at produced
    cases produced
    exact near
  | true =>
    -- the invocation stands before the moved result, which stands before `i`
    rw [producer_of_moved moved] at produced
    have heldMoved := loaded.addressed.holds_of_mem_visibleBefore before
    have far := loaded.mem_visibleBefore heldMoved (List.mem_of_find?_eq_some produced)
    exact ⟨far.1.trans near.1, Nat.lt_trans far.2 near.2⟩

include noHops in
theorem mem_visibleBefore_of_recentLoad {i d : Instruction} {r : Register}
    (found : store.recentLoad limits.maxHops i r = some d) : d ∈ store.visibleBefore i := by
  rw [recentLoad_eq_definition, noHops, definition] at found
  exact List.mem_of_find?_eq_some found

include noHops noReads in
theorem mem_visibleBefore_of_source {i d : Instruction} (held : store.Holds i) {r : Register}
    (found : store.source limits i r = some d) : d ∈ store.visibleBefore i := by
  obtain ⟨notStatic, notObject⟩ := noReads i (Array.mem_of_getElem? held)
  simp only [source, notStatic, notObject, Bool.false_eq_true, if_false] at found
  exact mem_visibleBefore_of_recentLoad noHops found

include noHops noReads in
theorem mem_visibleBefore_of_dependsOn {i d : Instruction} (held : store.Holds i)
    (depends : store.DependsOn limits i d) : d ∈ store.visibleBefore i := by
  cases depends with
  | moved _ call => exact List.mem_of_find?_eq_some call
  | each _ _ _ _ found => exact mem_visibleBefore_of_recentLoad noHops found
  | shared _ _ planned _ =>
    -- only reads of fields share a write
    obtain ⟨notStatic, notObject⟩ := noReads i (Array.mem_of_getElem? held)
    cases Instruction.planned planned with
    | static _ _ sget _ => simp [sget] at notStatic
    | object _ _ iget _ => simp [iget] at notObject

include loaded noHops noReads

theorem addr_lt_of_transGen {i j : Instruction} (held : store.Holds i)
    (path : Relation.TransGen (store.DependsOn limits) i j) : j.addr < i.addr := by
  induction path with
  | single depends =>
    exact (loaded.mem_visibleBefore held
      (mem_visibleBefore_of_dependsOn noHops noReads held depends)).2
  | tail path depends ih =>
    have heldLast := loaded.addressed.holds_of_path held path.to_reflTransGen
    have below := loaded.mem_visibleBefore heldLast
      (mem_visibleBefore_of_dependsOn noHops noReads heldLast depends)
    exact Nat.lt_trans below.2 ih

theorem acyclicFrom_of_noHops {i : Instruction} (held : store.Holds i) :
    store.AcyclicFrom limits i := by
  intro j path cycle
  have heldLast := loaded.addressed.holds_of_path held path
  exact Nat.lt_irrefl _ (addr_lt_of_transGen loaded noHops noReads heldLast cycle)

end OneMethod

/-- In the graph of an instruction every input stands before the node it belongs to, in the same
method, and each address has one node; no address was entered or scanned from twice. -/
theorem explain_one_method (loaded : store.Loaded) (noHops : limits.maxHops = 0)
    (noReads : ∀ i ∈ store.instructions, i.isOf "sget" = false ∧ i.isOf "iget" = false)
    {op : Instruction} (held : store.Holds op) :
    (∀ graph, store.explain limits op = some graph →
      (∀ parent child, graph.Reaches parent → parent.Input child →
        child.instr.method = parent.instr.method ∧ child.addr < parent.addr) ∧
      ∀ m n, graph.Reaches m → graph.Reaches n → m.addr = n.addr → m = n) ∧
    ∀ a, (store.explainIn limits op .empty).2.journal.count (.entered a) ≤ 1 ∧
      (store.explainIn limits op .empty).2.scans.count a ≤ 1 := by
  have once : (store.explainIn limits op .empty).2.EntersOnce :=
    entersOnce_of_acyclic loaded.addressed held (acyclicFrom_of_noHops loaded noHops noReads held)
  refine ⟨fun graph found => ⟨fun parent child reaches input => ?_, (keyed_explain once found).1⟩,
    fun a => ⟨Query.entersOnce_iff.mp once a, ?_⟩⟩
  · obtain ⟨_, explains⟩ := justifies_explainWithin loaded.addressed (limits.maxStage + 1) (some op)
      .empty (fun i same => by cases same; exact held)
      fun i o _ remembered => by simp [Query.empty] at remembered
    obtain ⟨_, _, _, parts⟩ := explains graph found
    have justified := (parts parent reaches).1
    cases input with
    | mk member =>
      obtain ⟨d, source, produced⟩ := justified.edges rfl _ child member
      have before := mem_visibleBefore_of_source noHops noReads justified.stored source
      exact producer_before loaded justified.stored before produced
  · have scans := store.scansOnEntry_explainWithin noHops (limits.maxStage + 1) (some op)
      .empty a
    have entries := Query.entersOnce_iff.mp once a
    rw [Query.count_scans]
    change (store.explainIn limits op .empty).2.journal.count (.scanned a) + 0 ≤
      0 + (store.explainIn limits op .empty).2.journal.count (.entered a) at scans
    omega

/-- A method that copies a constant twice and passes both copies to a call. -/
def copied : Store :=
  Store.empty.load ⟨[⟨"La;->m()V",
    [⟨"const/4", [.reg ⟨.loc, 3⟩, .num "0x7"]⟩,
      ⟨"move", [.reg ⟨.loc, 2⟩, .reg ⟨.loc, 3⟩]⟩,
      ⟨"move", [.reg ⟨.loc, 1⟩, .reg ⟨.loc, 2⟩]⟩,
      ⟨"invoke-static", [.regList [⟨.loc, 1⟩, ⟨.loc, 2⟩], .method "Lx;->use(II)V"]⟩]⟩], none⟩

def copiedCall : Instruction :=
  ⟨3, 0, "invoke-static", [.regList [⟨.loc, 1⟩, ⟨.loc, 2⟩], .method "Lx;->use(II)V"]⟩

/-- The first copy is met twice, and the first time there is no depth left for the constant: the
node made of it then is the only one. -/
theorem explain_one_method_copied :
    copied.Loaded ∧ copied.Holds copiedCall ∧
      (∀ i ∈ copied.instructions, i.isOf "sget" = false ∧ i.isOf "iget" = false) ∧
      (∃ graph, copied.explain ⟨100, 2, 0⟩ copiedCall = some graph ∧
        ∀ m n, graph.Reaches m → graph.Reaches n → m.addr = n.addr → m = n) ∧
      (copied.explainIn ⟨100, 2, 0⟩ copiedCall .empty).2.scans = [3, 2, 1] ∧
      ∀ a, (copied.explainIn ⟨100, 2, 0⟩ copiedCall .empty).2.scans.count a ≤ 1 := by
  have loaded : copied.Loaded := .load .empty _
  have held : copied.Holds copiedCall := by decide +kernel
  have noReads : ∀ i ∈ copied.instructions, i.isOf "sget" = false ∧ i.isOf "iget" = false := by
    decide +kernel
  obtain ⟨graph, found⟩ : ∃ graph, copied.explain ⟨100, 2, 0⟩ copiedCall = some graph :=
    Option.isSome_iff_exists.mp (by decide +kernel)
  have noHops : (⟨100, 2, 0⟩ : Limits).maxHops = 0 := rfl
  have once := explain_one_method loaded noHops noReads held
  exact ⟨loaded, held, noReads, ⟨graph, found, (once.1 graph found).2⟩, by decide +kernel,
    fun a => (once.2 a).2⟩

end Store

end Backflow
