import Backflow.Proofs.Budget
import Backflow.Proofs.Escalation
import Backflow.Proofs.Locality

/-! # Where a query scans from

A query scans only when it enters an address: once from the address itself, and then from each call
site that the search for an unwritten parameter goes on to.  Entries are remembered, call sites are
not, so two instructions that read the same parameter have its call sites scanned twice.

* `Store.originsAt` are the scans that entering an address starts, `Store.sitesAt` those of them that
  start at call sites.
* `Query.Accounted`: all scans of a query are those of its entries, in order.
* `Store.explain_scans` counts the scans from each address, and says when there is one at most.
-/

namespace Backflow

/-! ## Scans of one entry -/

/-- The addresses that explaining an instruction scans from, before it goes on to definitions. -/
def Store.searchOrigins (store : Store) (limits : Limits) (i : Instruction) : List Address :=
  if i.isAnyOf leafFamilies then
    []
  else if i.isOf "move-result" then
    (store.recentInvocation i).origins
  else
    (i.inputPlan?.map (store.inputOrigins limits i)).getD []

/-- The scans that entering an address starts. -/
def Store.originsAt (store : Store) (limits : Limits) (a : Address) : List Address :=
  ((store.at? a).map (store.searchOrigins limits)).getD []

def Store.sitesAt (store : Store) (limits : Limits) (a : Address) : List Address :=
  (store.originsAt limits a).tail

theorem Scanned.mem_origins_foldlM {α β : Type} {step : β → α → Scanned β} {items : List α}
    {start : β} {a : Address} (member : a ∈ (items.foldlM step start).origins) :
    ∃ state, ∃ item ∈ items, a ∈ (step state item).origins := by
  induction items generalizing start with
  | nil => cases member
  | cons item rest ih =>
    rw [List.foldlM_cons, Scanned.origins_bind, List.mem_append] at member
    rcases member with here | later
    · exact ⟨start, item, .head _, here⟩
    · obtain ⟨state, other, listed, found⟩ := ih later
      exact ⟨state, other, .tail _ listed, found⟩

theorem Loads.mem_origins_escalate {resolve : Instruction → List Register → Scanned Loads}
    {loads : Loads} {caller : Instruction} {a : Address}
    (member : a ∈ (loads.escalate resolve caller).origins) :
    ∃ registers, a ∈ (resolve caller registers).origins := by
  unfold escalate at member
  split at member
  · cases member
  · simp only at member
    split at member
    · cases member
    · rw [Scanned.origins_bind, Scanned.origins_pure, List.append_nil] at member
      exact ⟨_, member⟩

namespace Store

variable {store : Store} {limits : Limits}

/-- Scans that start nowhere, or from `i` and then from sites further up the calls. -/
def FromSites (store : Store) (i : Instruction) (origins : List Address) : Prop :=
  origins = [] ∨ ∃ sites, origins = i.addr :: sites ∧
    ∀ b ∈ sites, ∃ caller, store.at? b = some caller ∧ Relation.TransGen store.CallSite i caller

theorem FromSites.of_sublist {i : Instruction} {origins : List Address}
    (once : origins.Sublist [i.addr]) : store.FromSites i origins := by
  rcases List.sublist_singleton.mp once with none | one
  · exact .inl none
  · exact .inr ⟨[], one, fun _ member => nomatch member⟩

theorem fromSites_recentLoads (loaded : store.Loaded) (hops : Nat) (i : Instruction)
    (registers : List Register) :
    store.FromSites i (store.recentLoads hops i registers).origins := by
  induction hops generalizing i registers with
  | zero => exact .of_sublist (origins_nearestLoads i registers)
  | succ hops ih =>
    simp only [recentLoads, Scanned.origins_bind]
    cases registers with
    | nil => exact .inl rfl
    | cons r rest =>
      refine .inr ⟨_, rfl, fun b member => ?_⟩
      simp only at member
      split at member
      · cases member
      · obtain ⟨loads, caller, site, scanned⟩ := Scanned.mem_origins_foldlM member
        obtain ⟨bound, scanned⟩ := Loads.mem_origins_escalate scanned
        have site := loaded.mem_callersOf.mp site
        -- the search at the call site scans from there, and then from sites further up
        rcases ih caller bound with none | ⟨sites, origins, further⟩
        · simp [none] at scanned
        · rw [origins, List.mem_cons] at scanned
          rcases scanned with rfl | deeper
          · exact ⟨caller, site.held, .single site⟩
          · obtain ⟨top, held, path⟩ := further b deeper
            exact ⟨top, held, .head site path⟩

theorem fromSites_searchOrigins (loaded : store.Loaded) (limits : Limits) (i : Instruction) :
    store.FromSites i (store.searchOrigins limits i) := by
  unfold searchOrigins
  split
  · exact .inl rfl
  split
  · exact .of_sublist (List.Sublist.refl [i.addr])
  cases i.inputPlan? with
  | none => exact .inl rfl
  | some plan =>
    cases plan with
    | each registers => exact fromSites_recentLoads loaded limits.maxHops i registers
    | shared registers kind => exact .of_sublist (origins_recentWrite kind i)

theorem originsAt_of_holds {i : Instruction} (held : store.Holds i) :
    store.originsAt limits i.addr = store.searchOrigins limits i := by
  rw [originsAt, held]
  rfl

theorem originsAt_cases (loaded : store.Loaded) (limits : Limits) (a : Address) :
    store.originsAt limits a = [] ∨ store.originsAt limits a = a :: store.sitesAt limits a := by
  unfold sitesAt originsAt
  cases found : store.at? a with
  | none => exact .inl rfl
  | some i =>
    obtain rfl := loaded.addressed a i found
    rcases fromSites_searchOrigins loaded limits i with none | ⟨sites, origins, _⟩
    · exact .inl none
    · exact .inr (by simp [origins])

theorem callSite_of_mem_sitesAt (loaded : store.Loaded) {a b : Address}
    (member : b ∈ store.sitesAt limits a) : ∃ i caller, store.at? a = some i ∧
      store.at? b = some caller ∧ Relation.TransGen store.CallSite i caller := by
  unfold sitesAt originsAt at member
  cases found : store.at? a with
  | none => simp [found] at member
  | some i =>
    rw [found, Option.map_some, Option.getD_some] at member
    rcases fromSites_searchOrigins loaded limits i with none | ⟨sites, origins, further⟩
    · simp [none] at member
    · rw [origins, List.tail_cons] at member
      obtain ⟨caller, held, path⟩ := further b member
      exact ⟨i, caller, rfl, held, path⟩

/-- No call site is looked at for an instruction if calls are not followed, or if its method writes
all the parameters that it reads. -/
theorem sitesAt_eq_nil {i : Instruction} (held : store.Holds i)
    (home : limits.maxHops = 0 ∨ ∀ plan, i.inputPlan? = some plan → ∀ r ∈ plan.registers,
      r.isParam = true → ∃ j ∈ store.visibleBefore i, r ∈ j.definedRegisters) :
    store.sitesAt limits i.addr = [] := by
  have alone : ∀ {origins : List Address}, origins.Sublist [i.addr] → origins.tail = [] := by
    intro origins once
    rcases List.sublist_singleton.mp once with rfl | rfl <;> rfl
  rw [sitesAt, originsAt_of_holds held]
  unfold searchOrigins
  split
  · rfl
  split
  · rfl
  cases planned : i.inputPlan? with
  | none => rfl
  | some plan =>
    rcases home with noHops | written
    · exact alone (store.inputOrigins_sublist noHops i plan)
    cases plan with
    | shared registers kind => exact alone (origins_recentWrite kind i)
    | each registers =>
      simp only [Option.map_some, Option.getD_some, inputOrigins]
      cases limits.maxHops with
      | zero => exact alone (origins_nearestLoads i registers)
      | succ hops =>
        -- nothing is left pending, so the search ends in the method of `i`
        have settled : (store.nearestLoads i registers).value.pending = [] := by
          simp only [nearestLoads_value, Loads.pending, List.map_eq_nil_iff, List.filter_eq_nil_iff,
            List.mem_map]
          rintro _ ⟨r, wanted, rfl⟩
          cases param : r.isParam with
          | false => simp
          | true =>
            obtain ⟨j, before, writes⟩ := written _ planned r wanted param
            have found : store.nearest i r ≠ none := fun unwritten =>
              nearest_eq_none.mp unwritten j before writes
            simpa using found
        simp only [recentLoads, Scanned.origins_bind, settled]
        exact alone (by simpa using origins_nearestLoads i registers)

end Store

/-! ## All scans of a query -/

namespace Query

def entries (query : Query) : List Address :=
  query.journal.reverse.filterMap Event.entered?

theorem count_entries (query : Query) (a : Address) :
    query.entries.count a = query.journal.count (.entered a) := by
  rw [entries, List.filterMap_reverse, List.count_reverse, count_entered]

@[simp] theorem scans_enter (query : Query) (a : Address) :
    (query.log (.entered a)).scans = query.scans := by
  simp [scans, log, Event.scanOrigin?]

@[simp] theorem entries_enter (query : Query) (a : Address) :
    (query.log (.entered a)).entries = query.entries ++ [a] := by
  simp [entries, log, Event.entered?]

@[simp] theorem scans_logScans (query : Query) (origins : List Address) :
    (query.logScans origins).scans = query.scans ++ origins := by
  simp only [scans, logScans, List.reverse_append, List.reverse_reverse, List.filterMap_append,
    List.filterMap_map]
  congr 1
  exact List.filterMap_some

@[simp] theorem entries_logScans (query : Query) (origins : List Address) :
    (query.logScans origins).entries = query.entries := by
  simp [entries, logScans, Event.entered?]

/-- The scans of a query are those that its entries start, in order. -/
def Accounted (query : Query) (store : Store) (limits : Limits) : Prop :=
  query.scans = query.entries.flatMap (store.originsAt limits)

variable {store : Store} {limits : Limits} {query query' : Query}

theorem Accounted.enter (accounted : query.Accounted store limits) {i : Instruction}
    (held : store.Holds i) {origins : List Address}
    (search : store.searchOrigins limits i = origins) :
    ((query.log (.entered i.addr)).logScans origins).Accounted store limits := by
  have accounted : query.scans = query.entries.flatMap (store.originsAt limits) := accounted
  simp [Accounted, accounted, Store.originsAt_of_holds held, search]

/-- Other events change nothing. -/
theorem Accounted.quiet (accounted : query.Accounted store limits) {event : Event}
    (journal : query'.journal = event :: query.journal) (unscanned : event.scanOrigin? = none)
    (unentered : event.entered? = none) : query'.Accounted store limits := by
  have scans : query'.scans = query.scans := by
    simp only [Query.scans, journal, List.reverse_cons, List.filterMap_append,
      List.filterMap_cons_none unscanned, List.filterMap_nil, List.append_nil]
  have entries : query'.entries = query.entries := by
    simp only [Query.entries, journal, List.reverse_cons, List.filterMap_append,
      List.filterMap_cons_none unentered, List.filterMap_nil, List.append_nil]
  rw [Accounted, scans, entries]
  exact accounted

theorem Accounted.settles (accounted : query.Accounted store limits) {node : Node}
    {outcome : Option Node} (settles : Settles limits node query outcome query') :
    query'.Accounted store limits := by
  cases settles with
  | kept _ _ _ journal => exact accounted.quiet journal rfl rfl
  | dropped _ _ _ journal =>
    have logged : (query.log (.oversized node.addr (query.count node) limits.maxGraphSize)).Accounted
        store limits := accounted.quiet rfl rfl rfl
    exact logged.quiet journal rfl rfl

end Query

namespace Store

variable {store : Store} {limits : Limits}

theorem accounted_explainWithin (addressed : store.Addressed) (depth : Nat)
    (found : Option Instruction) (query : Query) :
    (∀ i, found = some i → store.Holds i) → query.Accounted store limits →
      (store.explainWithin limits depth found query).2.Accounted store limits := by
  refine store.explainWithin_rule limits (P := fun _ found q _ q' =>
    (∀ i, found = some i → store.Holds i) → q.Accounted store limits → q'.Accounted store limits)
    ?_ ?_ ?_ ?_ depth found query
  · exact fun _ _ _ accounted => accounted
  · exact fun _ _ _ accounted => accounted
  · exact fun _ _ _ _ _ _ accounted => accounted
  intro depth i query outcome query' _ step held accounted
  have held := held i rfl
  cases step with
  | leaf leaf =>
    have search : store.searchOrigins limits i = [] := by rw [searchOrigins, if_pos leaf]
    exact (accounted.enter held search).quiet rfl rfl rfl
  | moved moved run =>
    have search : store.searchOrigins limits i = (store.recentInvocation i).origins := by
      simp [searchOrigins, Instruction.moved_not_leaf moved, moved]
    exact (run (fun d call => addressed.holds_of_recentInvocation call)
      (accounted.enter held search)).quiet rfl rfl rfl
  | unreadable notLeaf notMoved unplanned =>
    have search : store.searchOrigins limits i = [] := by
      simp [searchOrigins, notLeaf, notMoved, unplanned]
    exact (accounted.enter held search).quiet rfl rfl rfl
  | @node plan inputs _ mid _ notLeaf notMoved planned gathered settles =>
    have search : store.searchOrigins limits i = store.inputOrigins limits i plan := by
      simp [searchOrigins, notLeaf, notMoved, planned]
    have gathered := gathered.restrict notLeaf notMoved planned
    have explained := gathered.relates
      (R := fun q q' => q.Accounted store limits → q'.Accounted store limits) (fun _ => id)
      (fun one two => two ∘ one)
      fun run => run.1 fun d same => addressed.holds_of_dependsOn (run.2 d same)
    exact (explained (accounted.enter held search)).settles settles

/-! ## Counting scans -/

theorem count_flatMap_originsAt (loaded : store.Loaded) (limits : Limits) (entries : List Address)
    (a : Address) :
    (entries.flatMap (store.originsAt limits)).count a =
      (if store.originsAt limits a = [] then 0 else entries.count a) +
        (entries.flatMap (store.sitesAt limits)).count a := by
  induction entries with
  | nil => simp
  | cons b rest ih =>
    simp only [List.flatMap_cons, List.count_append, List.count_cons, ih]
    by_cases here : b = a
    · subst here
      rcases originsAt_cases loaded limits b with none | some
      · simp [sitesAt, none]
      · rw [some, if_neg (List.cons_ne_nil _ _), if_neg (List.cons_ne_nil _ _)]
        simp only [List.count_cons, beq_self_eq_true, if_true]
        omega
    · simp only [here, beq_iff_eq, if_false, Nat.add_zero]
      rcases originsAt_cases loaded limits b with none | some
      · simp [sitesAt, none]
      · rw [some]
        simp only [List.count_cons, here, beq_iff_eq, if_false, Nat.add_zero]
        omega

end Store

namespace Query.Accounted

variable {store : Store} {limits : Limits} {query : Query}

theorem count_scans (accounted : query.Accounted store limits) (loaded : store.Loaded) (a : Address) :
    query.scans.count a = (if store.originsAt limits a = [] then 0 else query.entries.count a) +
      (query.entries.flatMap (store.sitesAt limits)).count a := by
  rw [accounted]
  exact Store.count_flatMap_originsAt loaded limits query.entries a

theorem scans_le_one_iff (accounted : query.Accounted store limits) (loaded : store.Loaded) :
    (∀ a, query.scans.count a ≤ 1) ↔
      (∀ a, store.originsAt limits a ≠ [] → query.entries.count a ≤ 1) ∧
      (query.entries.flatMap (store.sitesAt limits)).Nodup ∧
      ∀ a ∈ query.entries.flatMap (store.sitesAt limits), a ∈ query.entries →
        store.originsAt limits a = [] := by
  simp only [accounted.count_scans loaded, List.nodup_iff_count_le_one]
  constructor
  · intro once
    refine ⟨fun a searched => ?_, fun a => ?_, fun a site entered => ?_⟩
    · have := once a
      rw [if_neg searched] at this
      omega
    · have := once a
      omega
    · by_contra searched
      have total := once a
      rw [if_neg searched] at total
      have asSite := List.count_pos_iff.mpr site
      have asEntry := List.count_pos_iff.mpr entered
      omega
  · rintro ⟨entered, sites, apart⟩ a
    have asSite := sites a
    by_cases searched : store.originsAt limits a = []
    · rw [if_pos searched]
      omega
    rw [if_neg searched]
    have asEntry := entered a searched
    -- an address that takes a search is entered or gone on to, not both
    by_cases site : a ∈ query.entries.flatMap (store.sitesAt limits)
    · have unentered := List.count_eq_zero.mpr fun met => searched (apart a site met)
      omega
    · have unvisited := List.count_eq_zero.mpr site
      omega

end Query.Accounted

namespace Store

variable {store : Store}

/-- An address is scanned from once for each time it is entered, if explaining it takes a search, and
once for each time that a search goes on to it as a call site.  So it is scanned from once at
most if and only if no address that takes a search is entered twice, no call site is gone on to
twice, and none that is gone on to is entered for a search as well. -/
theorem explain_scans (loaded : store.Loaded) (limits : Limits) {op : Instruction}
    (held : store.Holds op) {query : Query} (asked : (store.explainIn limits op .empty).2 = query) :
    (∀ a, query.scans.count a =
      (if store.originsAt limits a = [] then 0 else query.entries.count a) +
        (query.entries.flatMap (store.sitesAt limits)).count a) ∧
    (∀ a, ∀ b ∈ store.sitesAt limits a, ∃ i caller, store.at? a = some i ∧
      store.at? b = some caller ∧ Relation.TransGen store.CallSite i caller) ∧
    ((∀ a, query.scans.count a ≤ 1) ↔
      (∀ a, store.originsAt limits a ≠ [] → query.entries.count a ≤ 1) ∧
      (query.entries.flatMap (store.sitesAt limits)).Nodup ∧
      ∀ a ∈ query.entries.flatMap (store.sitesAt limits), a ∈ query.entries →
        store.originsAt limits a = []) ∧
    (store.AcyclicFrom limits op → (∀ a ∈ query.entries, store.sitesAt limits a = []) →
      ∀ a, query.scans.count a ≤ 1) ∧
    ∀ i, store.Holds i → (limits.maxHops = 0 ∨ ∀ plan, i.inputPlan? = some plan →
      ∀ r ∈ plan.registers, r.isParam = true →
        ∃ j ∈ store.visibleBefore i, r ∈ j.definedRegisters) →
      store.sitesAt limits i.addr = [] := by
  have accounted : query.Accounted store limits := by
    subst asked
    exact accounted_explainWithin loaded.addressed _ _ _ (fun _ same => Option.some.inj same ▸ held) rfl
  refine ⟨accounted.count_scans loaded, fun a b => callSite_of_mem_sitesAt loaded,
    accounted.scans_le_one_iff loaded, fun acyclic home => ?_, fun i => sitesAt_eq_nil⟩
  have none : query.entries.flatMap (store.sitesAt limits) = [] :=
    List.flatMap_eq_nil_iff.mpr home
  have once : query.EntersOnce := asked ▸ entersOnce_of_acyclic loaded.addressed held acyclic
  rw [accounted.scans_le_one_iff loaded, none]
  refine ⟨fun a _ => ?_, .nil, fun a site => nomatch site⟩
  rw [query.count_entries]
  exact Query.entersOnce_iff.mp once a

/-- The search for the two parameters of `relayed` goes on to three call sites over two hops, and
scans from each of them once. -/
theorem explain_scans_relayed :
    relayed.Loaded ∧ relayed.Holds relayedUse ∧
      (relayed.explainIn ⟨2097152, 64, 2⟩ relayedUse .empty).2.scans = [4, 0, 3, 2] ∧
      ∀ a, (relayed.explainIn ⟨2097152, 64, 2⟩ relayedUse .empty).2.scans.count a ≤ 1 := by
  have loaded : relayed.Loaded := .load .empty _
  have held : relayed.Holds relayedUse := by decide +kernel
  have once : (relayed.explainIn ⟨2097152, 64, 2⟩ relayedUse .empty).2.entries.Nodup := by
    decide +kernel
  refine ⟨loaded, held, by decide +kernel,
    (explain_scans loaded ⟨2097152, 64, 2⟩ held rfl).2.2.1.mpr ⟨fun a _ => ?_, ?_, ?_⟩⟩
  · exact List.nodup_iff_count_le_one.mp once a
  · decide +kernel
  · decide +kernel

/-- A method that copies its parameter twice, and a call of it. -/
def twiceRead : Store :=
  Store.empty.load ⟨[
    ⟨"La;->caller()V",
      [⟨"const/4", [.reg ⟨.loc, 0⟩, .num "0x1"]⟩,
        ⟨"invoke-static", [.regList [⟨.loc, 0⟩], .method "La;->m(I)V"]⟩]⟩,
    ⟨"La;->m(I)V",
      [⟨"move", [.reg ⟨.loc, 0⟩, .reg ⟨.param, 0⟩]⟩,
        ⟨"move", [.reg ⟨.loc, 1⟩, .reg ⟨.param, 0⟩]⟩,
        ⟨"invoke-static", [.regList [⟨.loc, 0⟩, ⟨.loc, 1⟩], .method "Lx;->use(II)V"]⟩]⟩], none⟩

def twiceReadUse : Instruction :=
  ⟨4, 1, "invoke-static", [.regList [⟨.loc, 0⟩, ⟨.loc, 1⟩], .method "Lx;->use(II)V"]⟩

/-- Each of the two copies has the call scanned from again, although no address is entered twice; and
an address that a cycle comes back to is scanned from each time. -/
theorem explain_scans_again :
    (twiceRead.Loaded ∧ twiceRead.Holds twiceReadUse ∧
      (twiceRead.explainIn ⟨2097152, 64, 5⟩ twiceReadUse .empty).2.EntersOnce ∧
      (twiceRead.explainIn ⟨2097152, 64, 5⟩ twiceReadUse .empty).2.scans = [4, 2, 1, 3, 1]) ∧
    (feedback.Loaded ∧ feedback.Holds feedbackElement ∧
      (feedback.explainIn ⟨2097152, 3, 5⟩ feedbackElement .empty).2.scans = [2, 0, 3, 2]) := by
  refine ⟨⟨.load .empty _, ?_, ?_, ?_⟩, .load .empty _, ?_, ?_⟩ <;> decide +kernel

end Store

end Backflow
