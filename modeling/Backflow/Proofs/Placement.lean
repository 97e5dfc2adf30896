import Backflow.Proofs.Layout

/-! # Where loading places instructions

A store is filled by any number of listings and files, and a file may turn out to be unreadable or
not to be a listing.  Whatever the order, the instructions, the ranges of the methods and the three
indexes stay in step, and what could not be loaded leaves no trace.

* `Loading` is one way to fill a store, `Store.fill` what becomes of the store.
* `Tiled` says that ranges follow each other without gaps.
* `Store.LaidOut` is all that look-ups rely on, said without indexes and ranges where it can be.

A look-up trusts the number of the method that an instruction carries, and cuts the range of that
method out of all instructions.  Neither is checked, so both have to be right in every store that a
run of loadings can lead to.
-/

namespace Backflow

/-! ## Members -/

/-- The last operand that is a field or a method has the given name. -/
def Instruction.Names (i : Instruction) (name : String) : Prop :=
  ∃ earlier operand later, i.operands = earlier ++ operand :: later ∧
    (operand = .field name ∨ operand = .method name) ∧
    ∀ other ∈ later, ∀ text, other ≠ .field text ∧ other ≠ .method text

theorem Instruction.member?_eq_some {i : Instruction} {name : String} :
    i.member? = some name ↔ i.Names name := by
  -- the operands are gone through from the last one, so the two parts of the list change places
  simp only [member?, List.findSome?_eq_some_iff, List.reverse_eq_append_iff, List.reverse_cons,
    List.append_assoc, List.singleton_append]
  constructor
  · rintro ⟨later, operand, earlier, split, named, others⟩
    refine ⟨earlier.reverse, operand, later.reverse, split, ?_, fun other member text => ?_⟩
    · cases operand <;> simp_all
    · have skipped := others other (List.mem_reverse.mp member)
      constructor <;> rintro rfl <;> cases skipped
  · rintro ⟨earlier, operand, later, split, named, others⟩
    refine ⟨later.reverse, operand, earlier.reverse, by simpa using split, ?_, fun other member => ?_⟩
    · rcases named with rfl | rfl <;> rfl
    · have unnamed := others other (List.mem_reverse.mp member)
      cases other with
      | field text => exact absurd rfl (unnamed text).1
      | method text => exact absurd rfl (unnamed text).2
      | _ => rfl

/-! ## Ranges -/

/-- The ranges lead from one address to another, each beginning where the one before it stops. -/
inductive Tiled : Address → List Scope → Address → Prop
  | nil {a : Address} : Tiled a [] a
  | cons {scope : Scope} {rest : List Scope} {b : Address} (ordered : scope.start ≤ scope.stop)
      (tail : Tiled scope.stop rest b) : Tiled scope.start (scope :: rest) b

theorem Tiled.concat {a b c : Address} {scopes : List Scope} (tiled : Tiled a scopes b) (name : String)
    (ordered : b ≤ c) : Tiled a (scopes ++ [⟨name, b, c⟩]) c := by
  induction tiled with
  | nil => exact @Tiled.cons ⟨name, _, c⟩ [] c ordered .nil
  | cons inner _ ih => exact .cons inner (ih ordered)

namespace Store

theorem Loaded.tiled {store : Store} (loaded : store.Loaded) :
    Tiled 0 store.scopes.toList store.instructions.size := by
  refine loaded.induction (motive := fun store => Tiled 0 store.scopes.toList store.instructions.size)
    Tiled.nil fun before m tiled => ?_
  obtain ⟨added, instructions, _, scopes⟩ := before.addMethod_spec m
  rw [scopes, instructions, Array.toList_push, Array.size_append]
  exact tiled.concat m.name (Nat.le_add_right _ _)

/-- An address lies in the range of a method exactly if the instruction there is of that method. -/
theorem Ranged.in_range_iff {store : Store} (ranged : store.Ranged) (a : Address) (m : Nat) :
    (∃ scope, store.scopes[m]? = some scope ∧ scope.start ≤ a ∧ a < scope.stop) ↔
      ∃ i, store.at? a = some i ∧ i.method = m := by
  constructor
  · rintro ⟨scope, numbered, low, high⟩
    have inside : a < store.instructions.size := Nat.lt_of_lt_of_le high (ranged.within numbered)
    have here : store.at? a = some store.instructions[a] := Array.getElem?_eq_getElem inside
    exact ⟨_, here, ranged.other numbered here low high⟩
  · rintro ⟨i, here, rfl⟩
    exact ranged.own here

/-! ## Scans -/

theorem before_sublist (store : Store) (a : Address) :
    (store.before a).Sublist store.instructions.toList.reverse := by
  unfold before
  split
  · split
    · apply List.Sublist.reverse
      rw [Array.toList_extract, List.extract_eq_take_drop]
      exact (List.take_sublist _ _).trans (List.drop_sublist _ _)
    · exact List.nil_sublist _
  · exact List.nil_sublist _

theorem Addressed.pairwise_before {store : Store} (addressed : store.Addressed) (a : Address) :
    (store.before a).Pairwise fun i j => j.addr < i.addr := by
  have all := addressed.pairwise_filter fun _ => true
  rw [filter, List.filter_true] at all
  exact (List.pairwise_reverse.mpr all).sublist (store.before_sublist a)

/-- A scan from an address finds what stands below it in the same method, and nothing from an
address without an instruction. -/
theorem Loaded.mem_before_iff {store : Store} (loaded : store.Loaded) (a : Address)
    (j : Instruction) :
    j ∈ store.before a ↔ j ∈ store.instructions ∧
      ∃ i, store.at? a = some i ∧ j.method = i.method ∧ j.addr < a := by
  constructor
  · intro member
    have stored : store.Holds j := loaded.addressed.holds_of_mem_before member
    cases here : store.at? a with
    | none => simp [before, here] at member
    | some i =>
      have held : store.Holds i := loaded.addressed.holds_of_at? here
      obtain rfl := loaded.addressed a i here
      exact ⟨Array.mem_of_getElem? stored, i, rfl, loaded.mem_before held member⟩
  · rintro ⟨stored, i, here, same, below⟩
    have held : store.at? j.addr = some j := loaded.addressed.holds_of_mem stored
    obtain ⟨scope, numbered, low, _⟩ := loaded.ranged.own held
    obtain ⟨inside, found⟩ := Array.getElem?_eq_some_iff.mp held
    rw [same] at numbered
    simp only [before, here, numbered, List.mem_reverse, Array.mem_toList_iff]
    have offset : j.addr - scope.start < min a store.instructions.size - scope.start :=
      Nat.sub_lt_sub_right low (Nat.lt_min.mpr ⟨below, inside⟩)
    exact Array.mem_extract_iff_getElem.mpr ⟨_, offset, by simpa [Nat.add_sub_of_le low] using found⟩

/-! ## Indexes -/

/-- All stored instructions of a family that name a member, by ascending address. -/
structure ListedUnder (store : Store) (family name : String) (found : List Instruction) : Prop where
  ascending : found.Pairwise fun i j => i.addr < j.addr
  exact : ∀ i, i ∈ found ↔ i ∈ store.instructions ∧ i.isOf family = true ∧ i.Names name

theorem Addressed.listedUnder {store : Store} (addressed : store.Addressed) {index : MemberIndex}
    {family : String} (lists : index.Lists family store.instructions) (name : String) :
    store.ListedUnder family name (store.filed index name) := by
  rw [addressed.filed_eq_filter lists]
  refine ⟨addressed.pairwise_filter _, fun i => ?_⟩
  simp [filter, ← Instruction.member?_eq_some]

/-! ## Whole runs -/

/-- What the look-ups of a store rely on. -/
structure LaidOut (store : Store) : Prop where
  addressed : ∀ a i, store.at? a = some i → i.addr = a
  /-- The ranges of the methods cover all addresses, in order and without gaps. -/
  tiled : Tiled 0 store.scopes.toList store.instructions.size
  /-- An instruction has the number of the one range that holds its address. -/
  numbered : ∀ a m, (∃ scope, store.scopes[m]? = some scope ∧ scope.start ≤ a ∧ a < scope.stop) ↔
    ∃ i, store.at? a = some i ∧ i.method = m
  /-- The range that a scan is cut from exists and reaches down from an address of the store. -/
  inBounds : ∀ a i, store.at? a = some i → ∃ scope, store.scopes[i.method]? = some scope ∧
    scope.start ≤ a ∧ a ≤ store.instructions.size
  descending : ∀ a, (store.before a).Pairwise fun i j => j.addr < i.addr
  before : ∀ a j, j ∈ store.before a ↔ j ∈ store.instructions ∧
    ∃ i, store.at? a = some i ∧ j.method = i.method ∧ j.addr < a
  staticWrites : ∀ name, store.ListedUnder "sput" name (store.staticWritesTo name)
  objectWrites : ∀ name, store.ListedUnder "iput" name (store.objectWritesTo name)
  calls : ∀ name, store.ListedUnder "invoke" name (store.callsTo name)

theorem Loaded.laidOut {store : Store} (loaded : store.Loaded) : store.LaidOut where
  addressed := loaded.addressed
  tiled := loaded.tiled
  numbered := loaded.ranged.in_range_iff
  inBounds a i here := by
    obtain ⟨scope, numbered, low, high⟩ := loaded.ranged.own here
    exact ⟨scope, numbered, low, Nat.le_of_lt (Array.getElem?_eq_some_iff.mp here).1⟩
  descending := loaded.addressed.pairwise_before
  before := loaded.mem_before_iff
  staticWrites := loaded.addressed.listedUnder loaded.indexed.staticWrites
  objectWrites := loaded.addressed.listedUnder loaded.indexed.objectWrites
  calls := loaded.addressed.listedUnder loaded.indexed.callSites

end Store

/-- One way to fill a store: a listing, or the content of a file, none if it cannot be opened. -/
inductive Loading where
  | given (listing : Listing)
  | file (content : Option ByteArray)

def Loading.listing? : Loading → Option Listing
  | .given listing => some listing
  | .file content => (Listing.ofFile content).toOption

namespace Store

/-- The store that a loading leaves, whether it succeeds or fails. -/
def fill (store : Store) : Loading → Store
  | .given listing => store.load listing
  | .file content =>
    match (loadFile content).run store with
    | .ok _ left | .error _ left => left

theorem fill_eq (store : Store) (loading : Loading) :
    store.fill loading = loading.listing?.elim store store.load := by
  cases loading with
  | given listing => rfl
  | file content =>
    simp only [fill, run_loadFile, Loading.listing?]
    cases Listing.ofFile content <;> rfl

/-- Failed loadings can be struck out of a run. -/
theorem foldl_fill (loadings : List Loading) (store : Store) :
    loadings.foldl fill store = (loadings.filterMap Loading.listing?).foldl load store := by
  induction loadings generalizing store with
  | nil => rfl
  | cons loading loadings ih =>
    rw [List.foldl_cons, fill_eq, ih, List.filterMap_cons]
    cases loading.listing? <;> rfl

theorem loaded_foldl_load (listings : List Listing) : (listings.foldl load .empty).Loaded :=
  List.foldlRecOn _ _ .empty fun _ loaded listing _ => loaded.load listing

/-- After any run of loadings the store is laid out in order, it is the store that the listings of
the run alone would give, and a file that cannot be loaded leaves it as it is. -/
theorem laidOut_foldl_fill (loadings : List Loading) :
    (loadings.foldl fill .empty).LaidOut ∧
      loadings.foldl fill .empty = (loadings.filterMap Loading.listing?).foldl load .empty ∧
      ∀ content error left, (loadFile content).run (loadings.foldl fill .empty) = .error error left →
        left = loadings.foldl fill .empty := by
  have struck := foldl_fill loadings .empty
  refine ⟨struck ▸ (loaded_foldl_load _).laidOut, struck, fun content error left failed => ?_⟩
  rw [run_loadFile] at failed
  split at failed <;> cases failed
  rfl

/-- A method without entries and one with a call, then three files: one cannot be opened, one is
loaded, and one has an instruction after the end of its only method. -/
def interrupted : List Loading :=
  [.given ⟨[⟨"La;->a()V", []⟩, ⟨"La;->b()V", [⟨"invoke-static", [.regList [], .method "La;->a()V"]⟩]⟩],
      none⟩,
    .file none, .file (some ".class Lb;\n.method b()V\nnop\nsput v0, Lb;->f:I".toUTF8),
    .file (some ".method c()V\n.end method\nnop".toUTF8)]

theorem laidOut_foldl_fill_interrupted :
    (interrupted.foldl fill .empty).LaidOut ∧
      (interrupted.foldl fill .empty).scopes =
        #[⟨"La;->a()V", 0, 0⟩, ⟨"La;->b()V", 0, 1⟩, ⟨"Lb;->b()V", 1, 3⟩] ∧
      (interrupted.foldl fill .empty).staticWritesTo "Lb;->f:I" =
        [⟨2, 2, "sput", [.reg ⟨.loc, 0⟩, .field "Lb;->f:I"]⟩] ∧
      ∃ left, (loadFile (some "nop".toUTF8)).run (interrupted.foldl fill .empty) =
          .error (.listing (.outsideMethod 1)) left ∧
        left = interrupted.foldl fill .empty := by
  have unread : Listing.ofFile (some "nop".toUTF8) = .error (.listing (.outsideMethod 1)) := by
    decide +kernel
  have failed : (loadFile (some "nop".toUTF8)).run (interrupted.foldl fill .empty) =
      .error (.listing (.outsideMethod 1)) (interrupted.foldl fill .empty) := by
    rw [run_loadFile, unread]
  obtain ⟨laidOut, _, same⟩ := laidOut_foldl_fill interrupted
  exact ⟨laidOut, by decide +kernel, by decide +kernel, _, failed, same _ _ _ failed⟩

end Store

end Backflow
