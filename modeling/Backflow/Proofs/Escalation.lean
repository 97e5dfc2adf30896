import Backflow.Proofs.Layout

/-! # Following a parameter to its callers

A parameter that its method does not write is looked for at the calls of the method, and from
there on at the calls of their methods, as far as the limit of hops allows.  The search tries the
calls in the order of their addresses and takes the first that leads to a definition; registers
looked for together do not get into each other's way (`Store.recentLoads_each_alone`).

* `Store.Handed` is one hop: a call hands a register on for a parameter that is left unwritten.
* `Store.Chain` are the calls followed one after the other, up to a definition.
* `Store.FirstChain` is the first chain within the limit, the addresses of the calls being
  compared one by one.

A chain ends where its register is written and goes on only where it is not, so no chain is the
beginning of another and two of them always differ at some call.
-/

namespace Backflow

namespace Store

/-! ## Chains of calls -/

/-- The method of `i` leaves its parameter `r` unwritten before `i`, and a call of the method
passes the register `s` for it. -/
structure Handed (store : Store) (i : Instruction) (r : Register) (caller : Instruction)
    (s : Register) : Prop where
  param : r.isParam = true
  unwritten : ∀ j ∈ store.visibleBefore i, r ∉ j.definedRegisters
  site : store.CallSite i caller
  passed : ∃ operand listed, caller.operands[0]? = some operand ∧
    operand.registers? = some listed ∧ listed[r.index.toNat]? = some s

/-- Calls that hand a register on to `i`, the nearest call first, and the definition that the last
one finds in its own method. -/
inductive Chain (store : Store) : Instruction → Register → List Instruction → Instruction → Prop
  | here {i d : Instruction} {r : Register}
      (nearest : (store.visibleBefore i).find? (fun j => r ∈ j.definedRegisters) = some d) :
      Chain store i r [] d
  | up {i caller d : Instruction} {r s : Register} {calls : List Instruction}
      (handed : store.Handed i r caller s) (rest : Chain store caller s calls d) :
      Chain store i r (caller :: calls) d

/-- The first chain of at most `hops` calls, in the lexicographic order of their addresses. -/
structure FirstChain (store : Store) (hops : Nat) (i : Instruction) (r : Register)
    (calls : List Instruction) (d : Instruction) : Prop where
  chain : store.Chain i r calls d
  short : calls.length ≤ hops
  first : ∀ others e, store.Chain i r others e → others.length ≤ hops →
    others = calls ∨ calls.map (·.addr) < others.map (·.addr)

variable {store : Store}

theorem nearest_eq (i : Instruction) (r : Register) :
    store.nearest i r = (store.visibleBefore i).find? (fun j => r ∈ j.definedRegisters) := by
  have same : (fun j : Instruction => j.defines r) = fun j => decide (r ∈ j.definedRegisters) := by
    funext j
    rw [Bool.eq_iff_iff, decide_eq_true_iff]
    exact Written.contains_iff
  rw [nearest, same]

theorem nearest_eq_none {i : Instruction} {r : Register} :
    store.nearest i r = none ↔ ∀ j ∈ store.visibleBefore i, r ∉ j.definedRegisters := by
  simp [nearest_eq]

theorem passes?_eq_some {caller : Instruction} {r s : Register} :
    caller.passes? r = some s ↔ r.isParam = true ∧ ∃ operand listed,
      caller.operands[0]? = some operand ∧ operand.registers? = some listed ∧
        listed[r.index.toNat]? = some s := by
  simp only [Instruction.passes?, Loads.passed?, Option.ite_none_right_eq_some,
    Option.bind_eq_some_iff, List.head?_eq_getElem?, List.getElem?_toArray]
  constructor
  · rintro ⟨param, listed, ⟨operand, first, lists⟩, passed⟩
    exact ⟨param, operand, listed, first, lists, passed⟩
  · rintro ⟨param, operand, listed, first, lists, passed⟩
    exact ⟨param, listed, ⟨operand, first, lists⟩, passed⟩

theorem Loaded.handed_iff (loaded : store.Loaded) {i caller : Instruction} {r s : Register} :
    store.Handed i r caller s ↔
      store.nearest i r = none ∧ caller ∈ store.callersOf i ∧ caller.passes? r = some s := by
  rw [nearest_eq_none, loaded.mem_callersOf, passes?_eq_some]
  constructor
  · rintro ⟨param, unwritten, site, passed⟩
    exact ⟨unwritten, site, param, passed⟩
  · rintro ⟨unwritten, site, param, passed⟩
    exact ⟨param, unwritten, site, passed⟩

theorem Handed.unique {i caller : Instruction} {r s t : Register}
    (first : store.Handed i r caller s) (second : store.Handed i r caller t) : s = t := by
  have hs := passes?_eq_some.mpr ⟨first.param, first.passed⟩
  have ht := passes?_eq_some.mpr ⟨second.param, second.passed⟩
  exact Option.some.inj (hs.symm.trans ht)

/-- The calls of a chain fix the definition that it ends in. -/
theorem Chain.unique {i d e : Instruction} {r : Register} {calls : List Instruction}
    (first : store.Chain i r calls d) (second : store.Chain i r calls e) : d = e := by
  induction first with
  | here nearest =>
    cases second with
    | here nearest' => exact Option.some.inj (nearest.symm.trans nearest')
  | up handed _ ih =>
    cases second with
    | up handed' rest' =>
      cases handed.unique handed'
      exact ih rest'

theorem FirstChain.unique {hops : Nat} {i d e : Instruction} {r : Register}
    {calls others : List Instruction} (one : store.FirstChain hops i r calls d)
    (two : store.FirstChain hops i r others e) : d = e := by
  have same : others = calls := by
    rcases one.first others e two.chain two.short with same | before
    · exact same
    · rcases two.first calls d one.chain one.short with same | after
      · exact same.symm
      · exact absurd after (List.lt_asymm before)
  subst same
  exact one.chain.unique two.chain

/-! ## The search follows the first chain -/

/-- Where a chain leads to a definition, the search does not come back empty-handed. -/
theorem Chain.isSome_definition (loaded : store.Loaded) {hops : Nat} {i d : Instruction}
    {r : Register} {calls : List Instruction} (chain : store.Chain i r calls d)
    (short : calls.length ≤ hops) : (store.definition hops i r).isSome = true := by
  induction chain generalizing hops with
  | here nearest =>
    rw [← nearest_eq] at nearest
    cases hops <;> simp [definition, nearest]
  | @up i caller d r s calls handed rest ih =>
    cases hops with
    | zero => exact absurd short (Nat.not_succ_le_zero _)
    | succ hops =>
      obtain ⟨_, site, passes⟩ := loaded.handed_iff.mp handed
      have deeper := ih (Nat.le_of_succ_le_succ short)
      rw [definition, Option.isSome_or, Bool.or_eq_true]
      exact .inr (List.findSome?_isSome_iff.mpr ⟨caller, site, by simpa [passes] using deeper⟩)

theorem firstChain_of_nearest (hops : Nat) {i d : Instruction} {r : Register}
    (nearest : store.nearest i r = some d) : store.FirstChain hops i r [] d := by
  refine ⟨.here (nearest_eq i r ▸ nearest), Nat.zero_le _, fun others e chain _ => ?_⟩
  cases chain with
  | here _ => exact .inl rfl
  | up handed _ =>
    rw [nearest_eq_none.mpr handed.unwritten] at nearest
    cases nearest

/-- The first chain from a call becomes the first chain from `i` if no earlier call has one. -/
theorem FirstChain.up (loaded : store.Loaded) {hops : Nat} {i caller d : Instruction}
    {r s : Register} {before after calls : List Instruction}
    (sites : store.callersOf i = before ++ caller :: after)
    (barren : ∀ c ∈ before, (c.passes? r).bind (store.definition hops c) = none)
    (handed : store.Handed i r caller s) (deeper : store.FirstChain hops caller s calls d) :
    store.FirstChain (hops + 1) i r (caller :: calls) d := by
  refine ⟨.up handed deeper.chain, Nat.succ_le_succ deeper.short, fun others e chain short => ?_⟩
  cases chain with
  | here nearest =>
    -- the register would be written in the method of `i`
    rw [← nearest_eq, nearest_eq_none.mpr handed.unwritten] at nearest
    cases nearest
  | @up _ other _ _ t rest handed' chain' =>
    have within : rest.length ≤ hops := Nat.le_of_succ_le_succ short
    obtain ⟨_, site, passes⟩ := loaded.handed_iff.mp handed'
    have ordered := loaded.pairwise_callersOf i
    rw [sites] at site ordered
    simp only [List.map_cons, List.cons.injEq, List.cons_lt_cons_iff]
    rcases List.mem_append.mp site with earlier | later
    · -- an earlier call with a chain would have answered
      have found := chain'.isSome_definition loaded within
      have none := barren other earlier
      simp only [passes, Option.bind_some] at none
      simp [none] at found
    · cases later with
      | head =>
        -- the same call passes the same register, so the rest of the chains decides
        cases handed.unique handed'
        rcases deeper.first rest e chain' within with same | below
        · exact .inl ⟨rfl, same⟩
        · exact .inr (.inr ⟨rfl, below⟩)
      | tail _ later =>
        have below := (List.pairwise_append.mp ordered).2.1
        exact .inr (.inl ((List.pairwise_cons.mp below).1 other later))

theorem Loaded.exists_firstChain (loaded : store.Loaded) {hops : Nat} {i d : Instruction}
    {r : Register} (found : store.definition hops i r = some d) :
    ∃ calls, store.FirstChain hops i r calls d := by
  induction hops generalizing i r with
  | zero => exact ⟨[], firstChain_of_nearest 0 found⟩
  | succ hops ih =>
    rw [definition, Option.or_eq_some_iff] at found
    rcases found with near | ⟨unwritten, far⟩
    · exact ⟨[], firstChain_of_nearest _ near⟩
    · -- the call that answers is the first of those that lead anywhere
      obtain ⟨before, caller, after, sites, answer, barren⟩ := List.findSome?_eq_some_iff.mp far
      obtain ⟨s, passes, deeper⟩ := Option.bind_eq_some_iff.mp answer
      have handed : store.Handed i r caller s :=
        loaded.handed_iff.mpr ⟨unwritten, by simp [sites], passes⟩
      obtain ⟨calls, first⟩ := ih deeper
      exact ⟨caller :: calls, first.up loaded sites barren handed⟩

/-- With `stage` of `maxHops` calls followed already, a register has a definition exactly if a
chain of calls within the rest of the limit leads to one, and then it is that of the first chain. -/
theorem recentLoad_first_chain (loaded : store.Loaded) (maxHops stage : Nat) (i : Instruction)
    (r : Register) :
    ((∃ d, store.recentLoad (maxHops - stage) i r = some d) ↔
        ∃ calls d, calls.length ≤ maxHops - stage ∧ store.Chain i r calls d) ∧
      ∀ d, store.recentLoad (maxHops - stage) i r = some d ↔
        ∃ calls, store.FirstChain (maxHops - stage) i r calls d := by
  rw [recentLoad_eq_definition]
  have complete : ∀ {calls d}, store.Chain i r calls d → calls.length ≤ maxHops - stage →
      ∃ e, store.definition (maxHops - stage) i r = some e := fun chain short =>
    Option.isSome_iff_exists.mp (chain.isSome_definition loaded short)
  constructor
  · constructor
    · rintro ⟨d, found⟩
      obtain ⟨calls, first⟩ := loaded.exists_firstChain found
      exact ⟨calls, d, first.short, first.chain⟩
    · rintro ⟨calls, d, short, chain⟩
      exact complete chain short
  · intro d
    constructor
    · exact loaded.exists_firstChain
    · rintro ⟨calls, first⟩
      obtain ⟨e, found⟩ := complete first.chain first.short
      obtain ⟨others, first'⟩ := loaded.exists_firstChain found
      rw [found, first.unique first']

/-! ## A parameter relayed twice -/

/-- A call at address 3 hands both parameters of its own method on, crossed; an earlier one, at
address 0, passes one register only, and nothing calls its method. -/
def relayed : Store :=
  Store.empty.load ⟨[
    ⟨"La;->lost(I)V", [⟨"invoke-static", [.regList [⟨.param, 0⟩], .method "La;->inner(II)V"]⟩]⟩,
    ⟨"La;->outer()V",
      [⟨"const/4", [.reg ⟨.loc, 0⟩, .num "0x7"]⟩,
        ⟨"invoke-static", [.regList [⟨.loc, 0⟩, ⟨.loc, 0⟩], .method "La;->middle(II)V"]⟩]⟩,
    ⟨"La;->middle(II)V",
      [⟨"invoke-static", [.regList [⟨.param, 1⟩, ⟨.param, 0⟩], .method "La;->inner(II)V"]⟩]⟩,
    ⟨"La;->inner(II)V",
      [⟨"invoke-static", [.regList [⟨.param, 0⟩, ⟨.param, 1⟩], .method "Lx;->use(II)V"]⟩]⟩], none⟩

def relayedUse : Instruction :=
  ⟨4, 3, "invoke-static", [.regList [⟨.param, 0⟩, ⟨.param, 1⟩], .method "Lx;->use(II)V"]⟩

def relayedConstant : Instruction :=
  ⟨1, 1, "const/4", [.reg ⟨.loc, 0⟩, .num "0x7"]⟩

/-- The call that leads nowhere does not hide the one that does. -/
theorem recentLoad_first_chain_relayed :
    relayed.Loaded ∧ relayed.recentLoad (3 - 1) relayedUse ⟨.param, 0⟩ = some relayedConstant ∧
      ∃ calls, relayed.FirstChain 2 relayedUse ⟨.param, 0⟩ calls relayedConstant := by
  have loaded : relayed.Loaded := .load .empty _
  have found : relayed.recentLoad (3 - 1) relayedUse ⟨.param, 0⟩ = some relayedConstant := by
    decide +kernel
  exact ⟨loaded, found,
    ((recentLoad_first_chain loaded 3 1 relayedUse ⟨.param, 0⟩).2 relayedConstant).mp found⟩

/-! ## Registers looked for together -/

/-- A joint search has an entry for each register it was asked for and no other, and the entry is
what a search for this register alone finds, whatever else is looked for in the same pass. -/
theorem recentLoads_each_alone (store : Store) (maxHops stage : Nat) (i : Instruction)
    (registers : List Register) :
    (store.recentLoads (maxHops - stage) i registers).value.map (·.1) = registers ∧
      ∀ r ∈ registers,
        List.lookup r (store.recentLoads (maxHops - stage) i registers).value =
            some (store.recentLoad (maxHops - stage) i r) ∧
          ∀ others, r ∈ others →
            List.lookup r (store.recentLoads (maxHops - stage) i others).value =
              List.lookup r (store.recentLoads (maxHops - stage) i registers).value := by
  have alone : ∀ sought : List Register, ∀ r ∈ sought,
      List.lookup r (store.recentLoads (maxHops - stage) i sought).value =
        some (store.recentLoad (maxHops - stage) i r) := by
    intro sought r member
    rw [recentLoads_value_eq_recentLoad]
    exact List.lookup_graph _ member
  refine ⟨?_, fun r member => ⟨alone registers r member, fun others member' => ?_⟩⟩
  · rw [recentLoads_value_eq_recentLoad, List.map_map]
    exact List.map_id registers
  · rw [alone others r member', alone registers r member]

/-- The two parameters of `relayed` come from one register, and one of them is not passed by the
first call: looked for together or alone, both are found. -/
theorem recentLoads_each_alone_relayed :
    relayed.recentLoad (3 - 1) relayedUse ⟨.param, 1⟩ = some relayedConstant ∧
      List.lookup ⟨.param, 1⟩
          (relayed.recentLoads (3 - 1) relayedUse [⟨.loc, 0⟩, ⟨.param, 0⟩, ⟨.param, 1⟩]).value =
        some (some relayedConstant) := by
  have found : relayed.recentLoad (3 - 1) relayedUse ⟨.param, 1⟩ = some relayedConstant := by
    decide +kernel
  refine ⟨found, ?_⟩
  rw [((recentLoads_each_alone relayed 3 1 relayedUse
    [⟨.loc, 0⟩, ⟨.param, 0⟩, ⟨.param, 1⟩]).2 ⟨.param, 1⟩ (by decide)).1, found]

end Store

end Backflow
