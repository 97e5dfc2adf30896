import Backflow.Proofs.Placement

/-! # Scans that are started again

A scan that has passed an instruction on is in the same mode as one that has not begun: whatever
label it was looking for, its jump has been found.  What it still passes on is therefore what a new
scan from that instruction passes on, provided that the store cuts the new scan off at the same end
of the method.

* `visibleFrom_resume` is about the mode, for a scan that starts in any mode.
* `Store.Loaded.before_split` is about the store: the instructions before `y` are the ones that stand
  behind `y` in the list of those before `x`.
-/

namespace Backflow

/-- Behind an instruction that is passed on a scan goes on as if it had started there. -/
theorem visibleFrom_resume {seeking : Option String} {instructions nearer further : List Instruction}
    {y : Instruction} (scan : visibleFrom seeking instructions = nearer ++ y :: further) :
    ∃ passed rest, instructions = passed ++ y :: rest ∧ further = visibleFrom none rest := by
  fun_induction visibleFrom seeking instructions generalizing nearer with
  | case1 => simp at scan
  | case2 i rest name label ih =>
    obtain ⟨passed, rest', rfl, same⟩ := ih scan
    exact ⟨i :: passed, rest', rfl, same⟩
  | case3 i rest label ih =>
    cases nearer with
    | nil =>
      cases scan
      exact ⟨[], rest, rfl, rfl⟩
    | cons j nearer =>
      obtain ⟨passed, rest', rfl, same⟩ := ih (List.cons.inj scan).2
      exact ⟨i :: passed, rest', rfl, same⟩
  | case4 i rest name jump ih =>
    cases nearer with
    | nil =>
      cases scan
      exact ⟨[], rest, rfl, rfl⟩
    | cons j nearer =>
      obtain ⟨passed, rest', rfl, same⟩ := ih (List.cons.inj scan).2
      exact ⟨i :: passed, rest', rfl, same⟩
  | case5 i rest name other ih =>
    obtain ⟨passed, rest', rfl, same⟩ := ih scan
    exact ⟨i :: passed, rest', rfl, same⟩

namespace Store

variable {store : Store} {x y : Instruction}

theorem Loaded.exists_before_eq (loaded : store.Loaded) (held : store.Holds x)
    (member : y ∈ store.before x.addr) :
    ∃ nearer, store.before x.addr = nearer ++ y :: store.before y.addr := by
  obtain ⟨method, below⟩ := loaded.mem_before held member
  have held' : store.at? y.addr = some y := loaded.addressed.holds_of_mem_before member
  have present : store.at? x.addr = some x := held
  obtain ⟨scope, numbered, low, _⟩ := loaded.ranged.own held'
  obtain ⟨inside, here⟩ := Array.getElem?_eq_some_iff.mp held'
  have numbered' : store.scopes[x.method]? = some scope := method ▸ numbered
  -- both lists are cut from the range of the one method
  refine ⟨(store.instructions.extract (y.addr + 1) x.addr).toList.reverse, ?_⟩
  have upTo : (store.instructions.extract scope.start y.addr).push y =
      store.instructions.extract scope.start (y.addr + 1) := by
    have pushed := Array.push_extract_getElem (i := scope.start) inside
    rwa [here, Nat.min_eq_left low] at pushed
  have cut : store.instructions.extract scope.start x.addr =
      (store.instructions.extract scope.start y.addr).push y ++
        store.instructions.extract (y.addr + 1) x.addr := by
    rw [upTo, Array.extract_append_extract, Nat.min_eq_left (Nat.le_succ_of_le low),
      Nat.max_eq_right below]
  simp [before, present, numbered', held', numbered, cut]

/-- What stands before `y` is what stands behind it in the list of those before `x`. -/
theorem Loaded.before_split (loaded : store.Loaded) (held : store.Holds x)
    {nearer further : List Instruction} (split : store.before x.addr = nearer ++ y :: further) :
    store.before y.addr = further := by
  have member : y ∈ store.before x.addr := by simp [split]
  obtain ⟨nearer', split'⟩ := loaded.exists_before_eq held member
  -- addresses fall, so the list has `y` at one place only
  have ordered := loaded.addressed.pairwise_before x.addr
  rw [split, List.pairwise_append, List.pairwise_cons] at ordered
  have notNearer : y ∉ nearer := fun again =>
    absurd (ordered.2.2 y again y (.head _)) (Nat.lt_irrefl _)
  have notFurther : y ∉ further := fun again => absurd (ordered.2.1.1 y again) (Nat.lt_irrefl _)
  rw [split, List.append_cons_inj_of_notMem notNearer notFurther] at split'
  exact split'.2.2.symm

/-- A scan from an instruction that a scan from `x` passes on gives what that scan passes on behind
it; so what it passes on can be seen from `x` too. -/
theorem Loaded.visibleBefore_restart (loaded : store.Loaded) (held : store.Holds x)
    (seen : y ∈ store.visibleBefore x) :
    (∃ nearer, store.visibleBefore x = nearer ++ y :: store.visibleBefore y) ∧
      (∀ nearer further, store.visibleBefore x = nearer ++ y :: further →
        store.visibleBefore y = further) ∧
      ∀ z ∈ store.visibleBefore y, z ∈ store.visibleBefore x := by
  have exact : ∀ nearer further, store.visibleBefore x = nearer ++ y :: further →
      store.visibleBefore y = further := by
    intro nearer further scan
    obtain ⟨passed, rest, split, resumed⟩ := visibleFrom_resume scan
    rw [visibleBefore, loaded.before_split held split, resumed]
    rfl
  obtain ⟨nearer, further, scan⟩ := List.append_of_mem seen
  obtain rfl := exact nearer further scan
  refine ⟨⟨nearer, scan⟩, exact, fun z member => ?_⟩
  rw [scan]
  exact List.mem_append_right _ (.tail _ member)

/-- Two branches that meet: the region in front of `:cond_1` holds the label of the other branch. -/
def branching : Listing :=
  ⟨[⟨"La;->first()V", [⟨"return-void", []⟩]⟩,
    ⟨"La;->second(I)I",
      [⟨"const/4", [.reg ⟨.loc, 0⟩, .num "0x1"]⟩,
        ⟨"if-eqz", [.reg ⟨.param, 0⟩, .label "cond_0"]⟩,
        ⟨":try_start_0", []⟩,
        ⟨"const/4", [.reg ⟨.loc, 0⟩, .num "0x2"]⟩,
        ⟨"goto", [.label "cond_1"]⟩,
        ⟨":cond_0", []⟩,
        ⟨"const/4", [.reg ⟨.loc, 0⟩, .num "0x3"]⟩,
        ⟨":cond_1", []⟩,
        ⟨"return", [.reg ⟨.loc, 0⟩]⟩]⟩], none⟩

/-- The scan from the return passes over `:cond_0` while it looks for the jump to `:cond_1`, and the
scan from that jump goes on alike. -/
theorem Loaded.visibleBefore_restart_branching :
    ∃ x y, (Store.empty.load branching).Holds x ∧ y ∈ (Store.empty.load branching).visibleBefore x ∧
      ((Store.empty.load branching).visibleBefore x).map (·.addr) = [5, 4, 2, 1] ∧
      y.addr = 5 ∧
      (∃ nearer, (Store.empty.load branching).visibleBefore x =
        nearer ++ y :: (Store.empty.load branching).visibleBefore y) ∧
      ((Store.empty.load branching).visibleBefore y).map (·.addr) = [4, 2, 1] := by
  have held : (Store.empty.load branching).Holds ⟨9, 1, "return", [.reg ⟨.loc, 0⟩]⟩ := by
    decide +kernel
  have seen : ⟨5, 1, "goto", [.label "cond_1"]⟩ ∈
      (Store.empty.load branching).visibleBefore ⟨9, 1, "return", [.reg ⟨.loc, 0⟩]⟩ := by
    decide +kernel
  have restarted := Loaded.visibleBefore_restart (.load .empty branching) held seen
  exact ⟨_, _, held, seen, by decide +kernel, rfl, restarted.1, by decide +kernel⟩

end Store

end Backflow
