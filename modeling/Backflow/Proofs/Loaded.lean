import Backflow.Definition

/-! # Loaded stores

A store is filled by loading listings one after the other.  All that the analysis needs of such
a store is that an instruction stands at the position its address names, so that an address
stands for one instruction.

* `Store.Loaded` are the stores that loading gives.
* `Store.Holds` says that an instruction is in a store, at its own address.
* Whatever a scan, an index or a search finds is held by the store; the lemmas are named
  `holds_of_...`.
-/

namespace Backflow

namespace Store

/-- The stores that are filled by loading listings, starting with the store without
instructions. -/
inductive Loaded : Store → Prop
  | empty : Loaded .empty
  | load {store : Store} (loaded : Loaded store) (listing : Listing) : Loaded (store.load listing)

/-- Every instruction stands at the position that its address names. -/
def Addressed (store : Store) : Prop :=
  ∀ address i, store.at? address = some i → i.addr = address

/-- The store has the instruction `i`, at the address of `i`. -/
def Holds (store : Store) (i : Instruction) : Prop :=
  store.at? i.addr = some i

instance (store : Store) (i : Instruction) : Decidable (store.Holds i) :=
  inferInstanceAs (Decidable (_ = _))

/-! ## Loading -/

@[simp] theorem instructions_file (store : Store) (i : Instruction) :
    (store.file i).instructions = store.instructions := by
  unfold file
  split
  · rfl
  · split
    · rfl
    · split <;> rfl

@[simp] theorem instructions_push (store : Store) (i : Instruction) :
    (store.push i).instructions = store.instructions.push i := by
  simp [push]

theorem addressed_empty : Addressed .empty := by
  intro address i found
  simp [at?, empty] at found

theorem Addressed.addEntry {store : Store} (addressed : store.Addressed) (method : Nat)
    (entry : Entry) : (store.addEntry method entry).Addressed := by
  intro address i found
  simp only [at?, Store.addEntry, instructions_push, Array.getElem?_push] at found
  split at found
  · -- the new instruction is given the number of those before it, which is where it stands
    rename_i last
    cases found
    exact last.symm
  · exact addressed address i found

theorem Addressed.addMethod {store : Store} (addressed : store.Addressed) (m : Method) :
    (store.addMethod m).Addressed := by
  have filled : ∀ (body : List Entry) (method : Nat) (start : Store), start.Addressed →
      (body.foldl (Store.addEntry method) start).Addressed := by
    intro body method
    induction body with
    | nil => exact fun _ h => h
    | cons entry body ih => exact fun start h => ih _ (h.addEntry method entry)
  exact filled m.body store.scopes.size store addressed

theorem Addressed.load {store : Store} (addressed : store.Addressed) (listing : Listing) :
    (store.load listing).Addressed := by
  have added : ∀ (methods : List Method) (start : Store), start.Addressed →
      (methods.foldl Store.addMethod start).Addressed := by
    intro methods
    induction methods with
    | nil => exact fun _ h => h
    | cons m methods ih => exact fun start h => ih _ (h.addMethod m)
  exact added listing.methods store addressed

theorem Loaded.addressed {store : Store} (loaded : store.Loaded) : store.Addressed := by
  induction loaded with
  | empty => exact addressed_empty
  | load _ listing ih => exact ih.load listing

/-! ## Instructions that are found -/

section Found

variable {store : Store} {i j : Instruction}

theorem Holds.eq (hi : store.Holds i) (hj : store.Holds j) (same : i.addr = j.addr) : i = j := by
  rw [Holds, same, hj] at hi
  exact (Option.some.inj hi).symm

theorem Addressed.holds_of_at? (addressed : store.Addressed) {address : Address}
    (found : store.at? address = some i) : store.Holds i := by
  have := addressed address i found
  subst this
  exact found

theorem Addressed.holds_of_mem (addressed : store.Addressed) (member : i ∈ store.instructions) :
    store.Holds i := by
  obtain ⟨address, bound, rfl⟩ := Array.mem_iff_getElem.mp member
  exact addressed.holds_of_at? (Array.getElem?_eq_getElem bound)

theorem Addressed.holds_of_mem_before (addressed : store.Addressed) {address : Address}
    (member : i ∈ store.before address) : store.Holds i := by
  unfold before at member
  split at member
  · split at member
    · rw [List.mem_reverse, Array.mem_toList_iff] at member
      obtain ⟨offset, bound, rfl⟩ := Array.mem_extract_iff_getElem.mp member
      exact addressed.holds_of_mem (Array.getElem_mem _)
    · cases member
  · cases member

end Found

end Store

theorem mem_of_mem_visibleFrom {i : Instruction} {seeking : Option String}
    {instructions : List Instruction} (member : i ∈ visibleFrom seeking instructions) :
    i ∈ instructions := by
  fun_induction visibleFrom seeking instructions with
  | case1 => cases member
  | case2 j rest name label ih => exact .tail _ (ih member)
  | case3 j rest label ih =>
    cases member with
    | head => exact .head _
    | tail _ member => exact .tail _ (ih member)
  | case4 j rest name jump ih =>
    cases member with
    | head => exact .head _
    | tail _ member => exact .tail _ (ih member)
  | case5 j rest name other ih => exact .tail _ (ih member)

namespace Store

section Found

variable {store : Store} {i j : Instruction}

theorem Addressed.holds_of_mem_visibleBefore (addressed : store.Addressed)
    (member : j ∈ store.visibleBefore i) : store.Holds j :=
  addressed.holds_of_mem_before (mem_of_mem_visibleFrom member)

theorem Addressed.holds_of_mem_filed (addressed : store.Addressed) {index : MemberIndex}
    {name : String} (member : j ∈ store.filed index name) : store.Holds j := by
  obtain ⟨address, _, found⟩ := List.mem_filterMap.mp member
  exact addressed.holds_of_at? found

theorem Addressed.holds_of_recentInvocation (addressed : store.Addressed)
    (found : (store.recentInvocation i).value = some j) : store.Holds j :=
  addressed.holds_of_mem_visibleBefore (List.mem_of_find?_eq_some found)

theorem Addressed.holds_of_recentWrite (addressed : store.Addressed) {kind : FieldKind}
    (found : (store.recentWrite kind i).value = some j) : store.Holds j := by
  unfold recentWrite at found
  split at found
  · cases found
  · simp only [Scanned.value_bind, Scanned.value_pure, Store.scan, Option.orElse_eq_orElse,
      Option.orElse_eq_or, Option.or_eq_some_iff] at found
    rcases found with nearest | ⟨_, first⟩
    · exact addressed.holds_of_mem_visibleBefore (List.mem_of_find?_eq_some nearest)
    · have member := List.mem_of_mem_head? first
      cases kind <;> exact addressed.holds_of_mem_filed member

end Found

end Store

end Backflow
