import Backflow.Proofs.Sources
import Mathlib.Data.List.Basic

/-! # How a loaded store is laid out

Loading gives the entries of a method consecutive addresses and files each of them in the index
of its family.  The searches rely on two things that follow:

* `Store.Ranged`: a method is a range of addresses, so a scan backward never leaves its method;
* `Store.Indexed`: under each name an index lists what a pass over the whole store would find.

The calls of a method are found through an index; `Loaded.mem_callersOf` says what they are without
it, and `Loaded.pairwise_callersOf` in which order they stand.
-/

namespace Backflow

/-! ## Entries -/

/-- The entries of a body as instructions of the method with the given number, from an address on. -/
def placed (start : Address) (method : Nat) (body : List Entry) : List Instruction :=
  body.mapIdx fun offset entry => ⟨start + offset, method, entry.mnemonic, entry.operands⟩

theorem placed_cons (start : Address) (method : Nat) (entry : Entry) (body : List Entry) :
    placed start method (entry :: body) =
      ⟨start, method, entry.mnemonic, entry.operands⟩ :: placed (start + 1) method body := by
  simp only [placed, List.mapIdx_cons, Nat.add_zero, Nat.add_assoc, Nat.add_comm 1]

theorem placed_append (start : Address) (method : Nat) (first second : List Entry) :
    placed start method (first ++ second) =
      placed start method first ++ placed (start + first.length) method second := by
  simp only [placed, List.mapIdx_append, Nat.add_assoc, Nat.add_comm first.length]

@[simp] theorem length_placed (start : Address) (method : Nat) (body : List Entry) :
    (placed start method body).length = body.length := by
  simp [placed]

theorem exists_of_mem_placed {start : Address} {method : Nat} {body : List Entry} {i : Instruction}
    (member : i ∈ placed start method body) :
    ∃ entry ∈ body, ∃ a, i = ⟨a, method, entry.mnemonic, entry.operands⟩ := by
  obtain ⟨offset, inside, same⟩ := List.mem_mapIdx.mp member
  exact ⟨body[offset], List.getElem_mem inside, _, same.symm⟩

namespace Store

/-- What adding a method preserves holds of every loaded store. -/
theorem Loaded.induction {motive : Store → Prop} (empty : motive .empty)
    (addMethod : ∀ store m, motive store → motive (store.addMethod m)) {store : Store}
    (loaded : store.Loaded) : motive store := by
  induction loaded with
  | empty => exact empty
  | load _ listing ih => exact List.foldlRecOn _ _ ih fun before held m _ => addMethod before m held

/-! ## Methods -/

@[simp] theorem scopes_push (store : Store) (i : Instruction) :
    (store.push i).scopes = store.scopes := by
  unfold push file
  split
  · rfl
  · split
    · rfl
    · split <;> rfl

theorem instructions_foldl_addEntry (method : Nat) (body : List Entry) (store : Store) :
    (body.foldl (addEntry method) store).instructions =
      store.instructions ++ (placed store.instructions.size method body).toArray := by
  induction body generalizing store with
  | nil => simp [placed]
  | cons entry body ih =>
    rw [List.foldl_cons, ih, placed_cons, addEntry, instructions_push, Array.size_push]
    apply Array.toList_inj.mp
    simp

theorem instructions_addMethod (store : Store) (m : Method) :
    (store.addMethod m).instructions =
      store.instructions ++ (placed store.instructions.size store.scopes.size m.body).toArray :=
  instructions_foldl_addEntry store.scopes.size m.body store

theorem scopes_foldl_addEntry (method : Nat) (body : List Entry) (store : Store) :
    (body.foldl (addEntry method) store).scopes = store.scopes := by
  induction body generalizing store with
  | nil => rfl
  | cons entry body ih => rw [List.foldl_cons, ih, addEntry, scopes_push]

theorem scopes_addMethod (store : Store) (m : Method) :
    (store.addMethod m).scopes = store.scopes.push
      ⟨m.name, store.instructions.size, (store.addMethod m).instructions.size⟩ := by
  simp only [addMethod, scopes_foldl_addEntry]

theorem addMethod_spec (store : Store) (m : Method) :
    ∃ added : Array Instruction,
      (store.addMethod m).instructions = store.instructions ++ added ∧
      (∀ i ∈ added, i.method = store.scopes.size) ∧
      (store.addMethod m).scopes = store.scopes.push
        ⟨m.name, store.instructions.size, store.instructions.size + added.size⟩ := by
  have instructions := instructions_addMethod store m
  refine ⟨_, instructions, fun i member => ?_, ?_⟩
  · obtain ⟨entry, _, a, rfl⟩ := exists_of_mem_placed (List.mem_toArray.mp member)
    rfl
  · rw [scopes_addMethod, instructions, Array.size_append]

/-- Every instruction lies in the range of its method, and in no range of another one. -/
structure Ranged (store : Store) : Prop where
  within : ∀ {m : Nat} {scope : Scope}, store.scopes[m]? = some scope →
    scope.stop ≤ store.instructions.size
  own : ∀ {a : Address} {i : Instruction}, store.at? a = some i →
    ∃ scope, store.scopes[i.method]? = some scope ∧ scope.start ≤ a ∧ a < scope.stop
  other : ∀ {m : Nat} {scope : Scope} {a : Address} {i : Instruction},
    store.scopes[m]? = some scope → store.at? a = some i → scope.start ≤ a → a < scope.stop →
      i.method = m

theorem Ranged.addMethod {store : Store} (ranged : store.Ranged) (m : Method) :
    (store.addMethod m).Ranged := by
  obtain ⟨added, instructions, methods, scopes⟩ := store.addMethod_spec m
  -- an instruction was there before, or it is of the new method and lies in the new range
  have found : ∀ {a i}, (store.addMethod m).at? a = some i →
      store.at? a = some i ∨ i.method = store.scopes.size ∧ store.instructions.size ≤ a ∧
        a < store.instructions.size + added.size := by
    intro a i found
    simp only [at?, instructions] at found
    have bound := (Array.getElem?_eq_some_iff.mp found).1
    rw [Array.size_append] at bound
    rw [Array.getElem?_append] at found
    split at found
    · exact .inl found
    · rename_i past
      exact .inr ⟨methods i (Array.mem_of_getElem? found), Nat.le_of_not_lt past, bound⟩
  refine ⟨fun {n scope} numbered => ?_, fun {a i} here => ?_,
    fun {n scope a i} numbered here low high => ?_⟩
  · rw [scopes, Array.getElem?_push] at numbered
    rw [instructions, Array.size_append]
    split at numbered
    · cases numbered
      exact Nat.le_refl _
    · exact Nat.le_add_right_of_le (ranged.within numbered)
  · rcases found here with old | ⟨method, low, high⟩
    · obtain ⟨scope, numbered, low, high⟩ := ranged.own old
      have earlier : i.method ≠ store.scopes.size :=
        Nat.ne_of_lt (Array.getElem?_eq_some_iff.mp numbered).1
      exact ⟨scope, by simpa [scopes, Array.getElem?_push, earlier] using numbered, low, high⟩
    · exact ⟨⟨m.name, store.instructions.size, store.instructions.size + added.size⟩,
        by simp [scopes, method], low, high⟩
  · rw [scopes, Array.getElem?_push] at numbered
    split at numbered
    · -- what was there before lies below the new range
      rename_i last
      cases numbered
      rcases found here with old | ⟨method, _, _⟩
      · exact absurd (Array.getElem?_eq_some_iff.mp old).1 (Nat.not_lt.mpr low)
      · exact method.trans last.symm
    · -- and what is new lies above the ranges that were there
      rcases found here with old | ⟨_, past, _⟩
      · exact ranged.other numbered old low high
      · exact absurd (Nat.lt_of_lt_of_le high (ranged.within numbered)) (Nat.not_lt.mpr past)

theorem Loaded.ranged {store : Store} (loaded : store.Loaded) : store.Ranged := by
  refine loaded.induction ⟨fun numbered => ?_, fun here => ?_, fun numbered => ?_⟩
    fun _ m ranged => ranged.addMethod m
  · simp [Store.empty] at numbered
  · simp [Store.empty, at?] at here
  · simp [Store.empty] at numbered

/-- What stands before an instruction is of its method and has a smaller address. -/
theorem Loaded.mem_before {store : Store} (loaded : store.Loaded) {i j : Instruction}
    (held : store.Holds i) (member : j ∈ store.before i.addr) :
    j.method = i.method ∧ j.addr < i.addr := by
  obtain ⟨scope, numbered, low, high⟩ := loaded.ranged.own held
  have present : store.at? i.addr = some i := held
  simp only [before, present, numbered, List.mem_reverse, Array.mem_toList_iff] at member
  obtain ⟨offset, bound, rfl⟩ := Array.mem_extract_iff_getElem.mp member
  have below := Nat.add_lt_of_lt_sub' bound
  have past : scope.start + offset < i.addr := Nat.lt_of_lt_of_le below (Nat.min_le_left _ _)
  have inside : scope.start + offset < store.instructions.size :=
    Nat.lt_of_lt_of_le below (Nat.min_le_right _ _)
  have here : store.at? (scope.start + offset) = some store.instructions[scope.start + offset] :=
    Array.getElem?_eq_getElem inside
  refine ⟨loaded.ranged.other numbered here (Nat.le_add_right _ _) (Nat.lt_trans past high), ?_⟩
  rw [loaded.addressed _ _ here]
  exact past

theorem Loaded.mem_visibleBefore {store : Store} (loaded : store.Loaded) {i j : Instruction}
    (held : store.Holds i) (member : j ∈ store.visibleBefore i) :
    j.method = i.method ∧ j.addr < i.addr :=
  loaded.mem_before held (mem_of_mem_visibleFrom member)

end Store

/-! ## Indexes -/

namespace MemberIndex

/-- Under each name stand the addresses of the instructions of a family that name it, in order. -/
def Lists (index : MemberIndex) (family : String) (instructions : Array Instruction) : Prop :=
  ∀ name, index.getD name #[] =
    (instructions.filter fun i => i.isOf family && i.member? == some name).map (·.addr)

theorem getD_file (index : MemberIndex) (i : Instruction) (name : String) :
    (index.file i).getD name #[] =
      if i.member? = some name then (index.getD name #[]).push i.addr else index.getD name #[] := by
  unfold file
  split
  · rename_i filed found
    by_cases here : filed = name
    · simp [found, here, Std.TreeMap.getD_eq_getD_getElem?]
    · simp [found, here, Std.TreeMap.getD_alter]
  · rename_i unfiled
    simp [unfiled]

theorem Lists.file {index : MemberIndex} {family : String} {instructions : Array Instruction}
    (lists : index.Lists family instructions) {i : Instruction} (of : i.isOf family = true) :
    (index.file i).Lists family (instructions.push i) := by
  intro name
  rw [getD_file, lists name, Array.filter_push]
  by_cases here : i.member? = some name <;> simp [of, here]

theorem Lists.skip {index : MemberIndex} {family : String} {instructions : Array Instruction}
    (lists : index.Lists family instructions) {i : Instruction} (other : i.isOf family = false) :
    index.Lists family (instructions.push i) := by
  intro name
  rw [lists name, Array.filter_push]
  simp [other]

end MemberIndex

namespace Store

structure Indexed (store : Store) : Prop where
  staticWrites : store.staticWrites.Lists "sput" store.instructions
  objectWrites : store.objectWrites.Lists "iput" store.instructions
  callSites : store.callSites.Lists "invoke" store.instructions

theorem Indexed.push {store : Store} (indexed : store.Indexed) (i : Instruction) :
    (store.push i).Indexed := by
  have apart : ∀ {first second}, i.isOf first = true → Instruction.Apart first second →
      i.isOf second = false := Instruction.not_isOf
  unfold Store.push file
  split
  · rename_i sput
    exact ⟨indexed.staticWrites.file sput,
      indexed.objectWrites.skip (apart sput (by decide +kernel)),
      indexed.callSites.skip (apart sput (by decide +kernel))⟩
  rename_i notStatic
  rw [Bool.not_eq_true] at notStatic
  split
  · rename_i iput
    exact ⟨indexed.staticWrites.skip notStatic, indexed.objectWrites.file iput,
      indexed.callSites.skip (apart iput (by decide +kernel))⟩
  rename_i notObject
  rw [Bool.not_eq_true] at notObject
  split
  · rename_i invoke
    exact ⟨indexed.staticWrites.skip notStatic, indexed.objectWrites.skip notObject,
      indexed.callSites.file invoke⟩
  · rename_i notCall
    rw [Bool.not_eq_true] at notCall
    exact ⟨indexed.staticWrites.skip notStatic, indexed.objectWrites.skip notObject,
      indexed.callSites.skip notCall⟩

theorem Loaded.indexed {store : Store} (loaded : store.Loaded) : store.Indexed := by
  refine loaded.induction ?_ fun before m indexed => ?_
  · constructor <;> intro name <;> simp [Store.empty]
  · -- the new range does not touch the indexes, so only the entries count
    have filled : (m.body.foldl (addEntry before.scopes.size) before).Indexed :=
      List.foldlRecOn _ _ indexed fun _ indexed entry _ => indexed.push _
    exact ⟨filled.staticWrites, filled.objectWrites, filled.callSites⟩

/-- What an index finds is what a pass over the store finds. -/
theorem Addressed.filed_eq_filter {store : Store} (addressed : store.Addressed)
    {index : MemberIndex} {family : String} (lists : index.Lists family store.instructions)
    (name : String) :
    store.filed index name = store.filter fun i => i.isOf family && i.member? == some name := by
  rw [filed, filter, lists name, Array.toList_map, Array.toList_filter, List.filterMap_map]
  -- an instruction is found again at its address
  have again : ∀ i ∈ store.instructions.toList.filter
      (fun i => i.isOf family && i.member? == some name), (store.at? ∘ (·.addr)) i = some i := by
    intro i member
    exact addressed.holds_of_mem (Array.mem_toList_iff.mp (List.mem_filter.mp member).1)
  rw [List.filterMap_congr again, List.filterMap_some]

theorem Addressed.pairwise_filter {store : Store} (addressed : store.Addressed)
    (test : Instruction → Bool) :
    (store.filter test).Pairwise fun i j => i.addr < j.addr := by
  refine List.Pairwise.filter _ (List.pairwise_iff_getElem.mpr fun a b ha hb below => ?_)
  have first := addressed a _ (Array.getElem?_eq_getElem (by simpa using ha))
  have second := addressed b _ (Array.getElem?_eq_getElem (by simpa using hb))
  simpa [first, second] using below

/-! ## Call sites -/

/-- A call of the method that encloses `i`, from another method. -/
structure CallSite (store : Store) (i caller : Instruction) : Prop where
  held : store.Holds caller
  invokes : caller.isOf "invoke" = true
  names : ∃ name, store.nameOf? i = some name ∧ caller.member? = some name
  elsewhere : caller.method ≠ i.method

theorem Loaded.callsTo_eq_filter {store : Store} (loaded : store.Loaded) (name : String) :
    store.callsTo name =
      store.filter fun i => i.isOf "invoke" && i.member? == some name :=
  loaded.addressed.filed_eq_filter loaded.indexed.callSites name

theorem Loaded.mem_callersOf {store : Store} (loaded : store.Loaded) {i caller : Instruction} :
    caller ∈ store.callersOf i ↔ store.CallSite i caller := by
  have stored : caller ∈ store.instructions ↔ store.Holds caller :=
    ⟨loaded.addressed.holds_of_mem, Array.mem_of_getElem?⟩
  unfold callersOf
  split
  · rename_i name named
    simp only [loaded.callsTo_eq_filter, filter, List.mem_filter, Array.mem_toList_iff, stored,
      Bool.and_eq_true, beq_iff_eq, bne_iff_ne]
    constructor
    · rintro ⟨⟨held, invokes, names⟩, elsewhere⟩
      exact ⟨held, invokes, ⟨name, named, names⟩, elsewhere⟩
    · rintro ⟨held, invokes, ⟨other, named', names⟩, elsewhere⟩
      cases named.symm.trans named'
      exact ⟨⟨held, invokes, names⟩, elsewhere⟩
  · rename_i unnamed
    constructor
    · intro member
      cases member
    · intro site
      obtain ⟨name, named, _⟩ := site.names
      simp [unnamed] at named

theorem Loaded.pairwise_callersOf {store : Store} (loaded : store.Loaded) (i : Instruction) :
    (store.callersOf i).Pairwise fun first second => first.addr < second.addr := by
  unfold callersOf
  split
  · rw [loaded.callsTo_eq_filter]
    exact (loaded.addressed.pairwise_filter _).filter _
  · exact .nil

end Store

end Backflow
