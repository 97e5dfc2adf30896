import Backflow.Proofs.Escalation

/-! # Loading more keeps what was found

Loading a listing puts its methods after those of the store.  New methods write fields that old ones
read and call methods that are already there, so searches from old instructions may come upon them;
what they found before is protected by the order alone.

* `Store.Extends` says that one store begins like another.
* `Extends.isSome_definition`: a parameter that led to a definition still leads to one.
* `Store.StableAt` is what searches from an instruction keep when the store is extended.

The definition of a parameter may become another one.  A call that led nowhere can come to lead
somewhere when its own method gets a new caller, and it may stand before the call that answered so
far (`overtaking`).
-/

namespace Backflow

namespace Store

/-- The new store begins with the instructions and the methods of the old one. -/
structure Extends (old new : Store) : Prop where
  instructions : ∃ added, new.instructions = old.instructions ++ added
  scopes : ∃ added, new.scopes = old.scopes ++ added

theorem Extends.refl (store : Store) : store.Extends store :=
  ⟨⟨#[], by simp⟩, ⟨#[], by simp⟩⟩

theorem Extends.trans {first second third : Store} (one : first.Extends second)
    (two : second.Extends third) : first.Extends third := by
  obtain ⟨⟨added, instructions⟩, ⟨ranges, scopes⟩⟩ := one
  obtain ⟨⟨more, instructions'⟩, ⟨others, scopes'⟩⟩ := two
  exact ⟨⟨added ++ more, by simp [instructions', instructions]⟩,
    ⟨ranges ++ others, by simp [scopes', scopes]⟩⟩

theorem extends_addMethod (store : Store) (m : Method) : store.Extends (store.addMethod m) := by
  obtain ⟨added, instructions, _, scopes⟩ := store.addMethod_spec m
  exact ⟨⟨added, instructions⟩, ⟨#[_], by simpa using scopes⟩⟩

theorem extends_load (store : Store) (listing : Listing) : store.Extends (store.load listing) :=
  List.foldlRecOn _ _ (.refl store) fun before held m _ => held.trans (before.extends_addMethod m)

namespace Extends

variable {old new : Store}

/-! ## Look-ups -/

theorem at? (longer : old.Extends new) {a : Address} {i : Instruction}
    (found : old.at? a = some i) : new.at? a = some i := by
  obtain ⟨added, instructions⟩ := longer.instructions
  have inside := (Array.getElem?_eq_some_iff.mp found).1
  rw [Store.at?, instructions, Array.getElem?_append_left inside]
  exact found

theorem scope (longer : old.Extends new) {m : Nat} {scope : Scope}
    (found : old.scopes[m]? = some scope) : new.scopes[m]? = some scope := by
  obtain ⟨added, scopes⟩ := longer.scopes
  have inside := (Array.getElem?_eq_some_iff.mp found).1
  rw [scopes, Array.getElem?_append_left inside]
  exact found

theorem nameOf? (longer : old.Extends new) (ranged : old.Ranged) {i : Instruction}
    (held : old.Holds i) : new.nameOf? i = old.nameOf? i := by
  obtain ⟨scope, numbered, _, _⟩ := ranged.own held
  simp [Store.nameOf?, numbered, longer.scope numbered]

theorem before (longer : old.Extends new) (ranged : old.Ranged) {a : Address} {i : Instruction}
    (found : old.at? a = some i) : new.before a = old.before a := by
  obtain ⟨scope, numbered, _, _⟩ := ranged.own found
  obtain ⟨added, instructions⟩ := longer.instructions
  have inside : a - old.instructions.size = 0 :=
    Nat.sub_eq_zero_of_le (Nat.le_of_lt (Array.getElem?_eq_some_iff.mp found).1)
  -- the range is cut off at an address of the old store, so nothing added is in it
  simp [Store.before, found, numbered, longer.at? found, longer.scope numbered, instructions,
    Array.extract_append, inside]

theorem visibleBefore (longer : old.Extends new) (ranged : old.Ranged) {i : Instruction}
    (held : old.Holds i) : new.visibleBefore i = old.visibleBefore i := by
  rw [Store.visibleBefore, longer.before ranged held]
  rfl

/-! ## Indexes -/

theorem filter_prefix (longer : old.Extends new) (test : Instruction → Bool) :
    old.filter test <+: new.filter test := by
  obtain ⟨added, instructions⟩ := longer.instructions
  refine List.IsPrefix.filter test ?_
  rw [instructions, Array.toList_append]
  exact List.prefix_append _ _

theorem filed_prefix (longer : old.Extends new) (loaded : old.Loaded) (loaded' : new.Loaded)
    {index index' : MemberIndex} {family : String} (lists : index.Lists family old.instructions)
    (lists' : index'.Lists family new.instructions) (name : String) :
    old.filed index name <+: new.filed index' name := by
  rw [loaded.addressed.filed_eq_filter lists, loaded'.addressed.filed_eq_filter lists']
  exact longer.filter_prefix _

theorem writesTo_prefix (longer : old.Extends new) (loaded : old.Loaded) (loaded' : new.Loaded)
    (kind : FieldKind) (name : String) : old.writesTo kind name <+: new.writesTo kind name := by
  cases kind with
  | static =>
    exact longer.filed_prefix loaded loaded' loaded.indexed.staticWrites
      loaded'.indexed.staticWrites name
  | object =>
    exact longer.filed_prefix loaded loaded' loaded.indexed.objectWrites
      loaded'.indexed.objectWrites name

theorem callsTo_prefix (longer : old.Extends new) (loaded : old.Loaded) (loaded' : new.Loaded)
    (name : String) : old.callsTo name <+: new.callsTo name :=
  longer.filed_prefix loaded loaded' loaded.indexed.callSites loaded'.indexed.callSites name

theorem callersOf_prefix (longer : old.Extends new) (loaded : old.Loaded) (loaded' : new.Loaded)
    {i : Instruction} (held : old.Holds i) : old.callersOf i <+: new.callersOf i := by
  unfold callersOf
  rw [longer.nameOf? loaded.ranged held]
  split
  · exact (longer.callsTo_prefix loaded loaded' _).filter _
  · exact List.nil_prefix

/-! ## Searches -/

theorem recentWrite (longer : old.Extends new) (loaded : old.Loaded) (loaded' : new.Loaded)
    {kind : FieldKind} {i d : Instruction} (held : old.Holds i)
    (found : (old.recentWrite kind i).value = some d) : (new.recentWrite kind i).value = some d := by
  unfold Store.recentWrite at found ⊢
  cases field : i.field? with
  | none => simp [field] at found
  | some name =>
    simp only [field, Scanned.value_bind, Scanned.value_pure, scan, Option.orElse_eq_orElse,
      Option.orElse_eq_or, Option.or_eq_some_iff, longer.visibleBefore loaded.ranged held] at found ⊢
    rcases found with near | ⟨none, first⟩
    · exact .inl near
    · -- the first write of the old store is still the first one
      obtain ⟨added, more⟩ := longer.writesTo_prefix loaded loaded' kind name
      exact .inr ⟨none, by rw [← more, List.head?_append, first, Option.some_or]⟩

theorem nearest (longer : old.Extends new) (ranged : old.Ranged) {i : Instruction}
    (held : old.Holds i) (r : Register) : new.nearest i r = old.nearest i r := by
  rw [Store.nearest, longer.visibleBefore ranged held]
  rfl

theorem isSome_definition (longer : old.Extends new) (loaded : old.Loaded) (loaded' : new.Loaded)
    {hops : Nat} {i : Instruction} (held : old.Holds i) {r : Register}
    (found : (old.definition hops i r).isSome = true) : (new.definition hops i r).isSome = true := by
  induction hops generalizing i r with
  | zero =>
    rw [definition, longer.nearest loaded.ranged held]
    exact found
  | succ hops ih =>
    rw [definition, Option.isSome_or, Bool.or_eq_true] at found ⊢
    rw [longer.nearest loaded.ranged held]
    refine found.imp_right fun far => ?_
    -- the call that answered is still there, and the method it stands in keeps its own answer
    obtain ⟨caller, member, answers⟩ := List.findSome?_isSome_iff.mp far
    have site := loaded.mem_callersOf.mp member
    refine List.findSome?_isSome_iff.mpr
      ⟨caller, (longer.callersOf_prefix loaded loaded' held).subset member, ?_⟩
    cases passes : caller.passes? r with
    | none => simp [passes] at answers
    | some s =>
      simp only [passes, Option.bind_some] at answers ⊢
      exact ih site.held answers

end Extends

/-! ## What stays as it was -/

/-- What look-ups and searches from an instruction keep when a store is extended. -/
structure StableAt (old new : Store) (x : Instruction) : Prop where
  lookup : new.at? x.addr = old.at? x.addr
  name : new.nameOf? x = old.nameOf? x
  before : new.before x.addr = old.before x.addr
  visible : new.visibleBefore x = old.visibleBefore x
  write : ∀ kind d, (old.recentWrite kind x).value = some d → (new.recentWrite kind x).value = some d
  invocation : ∀ d, (old.recentInvocation x).value = some d →
    (new.recentInvocation x).value = some d
  /-- A definition in the method itself is the answer, before and after. -/
  nearby : ∀ maxHops stage r d,
    (old.visibleBefore x).find? (fun j => r ∈ j.definedRegisters) = some d →
      old.recentLoad (maxHops - stage) x r = some d ∧ new.recentLoad (maxHops - stage) x r = some d
  /-- A definition at a call site may become another one, but there still is one. -/
  found : ∀ maxHops stage r, (old.recentLoad (maxHops - stage) x r).isSome = true →
    (new.recentLoad (maxHops - stage) x r).isSome = true

theorem recentLoad_of_nearest {store : Store} {i d : Instruction} {r : Register}
    (near : store.nearest i r = some d) (hops : Nat) : store.recentLoad hops i r = some d := by
  rw [recentLoad_eq_definition]
  cases hops <;> simp [definition, near]

theorem Extends.stableAt {old new : Store} (longer : old.Extends new) (loaded : old.Loaded)
    (loaded' : new.Loaded) {x : Instruction} (held : old.Holds x) : old.StableAt new x where
  lookup := (longer.at? held).trans held.symm
  name := longer.nameOf? loaded.ranged held
  before := longer.before loaded.ranged held
  visible := longer.visibleBefore loaded.ranged held
  write _ _ found := longer.recentWrite loaded loaded' held found
  invocation d found := by
    simp only [recentInvocation, scan, Scanned.value_bind, Scanned.value_pure,
      longer.visibleBefore loaded.ranged held] at found ⊢
    exact found
  nearby maxHops stage r d near := by
    rw [← nearest_eq] at near
    have near' : new.nearest x r = some d := (longer.nearest loaded.ranged held r).trans near
    exact ⟨recentLoad_of_nearest near _, recentLoad_of_nearest near' _⟩
  found maxHops stage r found := by
    rw [recentLoad_eq_definition] at found ⊢
    exact longer.isSome_definition loaded loaded' held found

/-- Loading one more listing leaves what was found from the instructions of a store, and adds to the
indexes only at their end. -/
theorem load_stable {store : Store} (loaded : store.Loaded) (listing : Listing) :
    (∀ x, store.Holds x → store.StableAt (store.load listing) x) ∧
      ∀ name, store.staticWritesTo name <+: (store.load listing).staticWritesTo name ∧
        store.objectWritesTo name <+: (store.load listing).objectWritesTo name ∧
        store.callsTo name <+: (store.load listing).callsTo name := by
  have longer := store.extends_load listing
  have loaded' : (store.load listing).Loaded := loaded.load listing
  exact ⟨fun x held => longer.stableAt loaded loaded' held, fun name =>
    ⟨longer.writesTo_prefix loaded loaded' .static name,
      longer.writesTo_prefix loaded loaded' .object name,
      longer.callsTo_prefix loaded loaded' name⟩⟩

/-! ## A call that comes to lead somewhere -/

/-- A caller for the method of `relayed` that nothing called. -/
def overtaking : Listing :=
  ⟨[⟨"Lb;->late()V",
    [⟨"const/4", [.reg ⟨.loc, 0⟩, .num "0x9"]⟩,
      ⟨"invoke-static", [.regList [⟨.loc, 0⟩], .method "La;->lost(I)V"]⟩]⟩], none⟩

def overtakingConstant : Instruction :=
  ⟨5, 4, "const/4", [.reg ⟨.loc, 0⟩, .num "0x9"]⟩

/-- The parameter that `relayed` traces to one constant is traced to another one afterwards, by way of
the earlier call; it does not lose its definition. -/
theorem load_stable_overtaken :
    relayed.Loaded ∧ relayed.Holds relayedUse ∧
      relayed.recentLoad (5 - 1) relayedUse ⟨.param, 0⟩ = some relayedConstant ∧
      (relayed.load overtaking).recentLoad (5 - 1) relayedUse ⟨.param, 0⟩ = some overtakingConstant ∧
      relayed.StableAt (relayed.load overtaking) relayedUse ∧
      relayed.callsTo "La;->lost(I)V" <+: (relayed.load overtaking).callsTo "La;->lost(I)V" := by
  have loaded : relayed.Loaded := .load .empty _
  have held : relayed.Holds relayedUse := by decide +kernel
  obtain ⟨stable, indexes⟩ := load_stable loaded overtaking
  exact ⟨loaded, held, by decide +kernel, by decide +kernel, stable relayedUse held,
    (indexes "La;->lost(I)V").2.2⟩

end Store

end Backflow
