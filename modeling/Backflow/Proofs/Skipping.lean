import Backflow.Scan

/-! # What a scan leaves out

A scan is a machine with two modes: it passes instructions on, or it looks for the jump to a
label and passes nothing on.  What comes out can be said without the machine.  The instructions
before a place fall into stretches, each of which ends with an instruction that is passed on, and
a rest; what is left out in a stretch or in the rest has one of two forms.

* `Skipped` are the two forms: guard labels only, or guard labels, one other label, and then
  instructions that do not jump to it.
* `Division` cuts a list of instructions into stretches and a rest.
* `Division.unique` says that there is only one way to do so, `Division.Regular.kept_eq` that the
  scan passes on the ends of the stretches.

A region that starts at one label swallows all other labels, guard labels included, so the second
form asks nothing of the instructions after the label but that they are no jumps to it.
-/

namespace Backflow

namespace Instruction

def IsGuard (i : Instruction) : Prop :=
  ∃ name, i.label? = some name ∧ isGuardLabel name = true

def JumpsTo (i : Instruction) (name : String) : Prop :=
  i.isLabel = false ∧ i.references name = true

/-- An instruction that is passed on, `sought` being the label whose jump is looked for. -/
def Resumes (i : Instruction) (sought : Option String) : Prop :=
  i.isLabel = false ∧ ∀ name, sought = some name → i.references name = true

theorem isLabel_eq_false {i : Instruction} : i.isLabel = false ↔ i.label? = none := by
  simp [isLabel]

end Instruction

/-- What a scan can leave out in one go.  The label whose jump it then looks for, if there is one,
is the first argument. -/
inductive Skipped : Option String → List Instruction → Prop
  | guards {guards : List Instruction} (marks : ∀ g ∈ guards, g.IsGuard) : Skipped none guards
  | region {guards inside : List Instruction} {label : Instruction} {name : String}
      (marks : ∀ g ∈ guards, g.IsGuard) (named : label.label? = some name)
      (plain : isGuardLabel name = false) (noJump : ∀ i ∈ inside, ¬ i.JumpsTo name) :
      Skipped (some name) (guards ++ label :: inside)

/-! ## One mode after the other -/

theorem visibleFrom_guards {guards : List Instruction} (marks : ∀ g ∈ guards, g.IsGuard)
    (rest : List Instruction) : visibleFrom none (guards ++ rest) = visibleFrom none rest := by
  induction guards with
  | nil => rfl
  | cons g guards ih =>
    obtain ⟨name, named, guard⟩ := marks g (.head _)
    simp only [List.cons_append, visibleFrom, named, guard, if_true]
    exact ih fun other member => marks other (.tail _ member)

theorem visibleFrom_inside {name : String} {inside : List Instruction}
    (noJump : ∀ i ∈ inside, ¬ i.JumpsTo name) (rest : List Instruction) :
    visibleFrom (some name) (inside ++ rest) = visibleFrom (some name) rest := by
  induction inside with
  | nil => rfl
  | cons i inside ih =>
    have passedOver : (!i.isLabel && i.references name) = false := by
      simpa [Instruction.JumpsTo] using noJump i (.head _)
    simp only [List.cons_append, visibleFrom, passedOver, Bool.false_eq_true, if_false]
    exact ih fun other member => noJump other (.tail _ member)

/-- What is left out changes nothing but the mode of the scan. -/
theorem Skipped.visibleFrom_append {sought : Option String} {skipped : List Instruction}
    (skips : Skipped sought skipped) (rest : List Instruction) :
    visibleFrom none (skipped ++ rest) = visibleFrom sought rest := by
  cases skips with
  | guards marks => exact visibleFrom_guards marks rest
  | region marks named plain noJump =>
    rw [List.append_assoc, visibleFrom_guards marks, List.cons_append, visibleFrom, named]
    simp only [plain, Bool.false_eq_true, if_false]
    exact visibleFrom_inside noJump rest

theorem Skipped.visibleFrom_eq_nil {sought : Option String} {skipped : List Instruction}
    (skips : Skipped sought skipped) : visibleFrom none skipped = [] := by
  rw [← List.append_nil skipped, skips.visibleFrom_append, visibleFrom]

theorem Instruction.Resumes.visibleFrom_cons {i : Instruction} {sought : Option String}
    (resumes : i.Resumes sought) (rest : List Instruction) :
    visibleFrom sought (i :: rest) = i :: visibleFrom none rest := by
  cases sought with
  | none => simp [visibleFrom, Instruction.isLabel_eq_false.mp resumes.1]
  | some name => simp [visibleFrom, resumes.1, resumes.2 name rfl]

/-- The next instruction is passed on, or it is left out together with those before it. -/
theorem Skipped.step {sought : Option String} {skipped : List Instruction}
    (skips : Skipped sought skipped) (i : Instruction) :
    i.Resumes sought ∨ ∃ sought', Skipped sought' (skipped ++ [i]) := by
  cases skips with
  | guards marks =>
    cases label : i.label? with
    | none => exact .inl ⟨Instruction.isLabel_eq_false.mpr label, fun _ same => nomatch same⟩
    | some name =>
      refine .inr ?_
      cases guard : isGuardLabel name with
      | true =>
        refine ⟨none, .guards fun g member => ?_⟩
        rcases List.mem_append.mp member with before | last
        · exact marks g before
        · exact List.mem_singleton.mp last ▸ ⟨name, label, guard⟩
      | false => exact ⟨some name, .region marks label guard (by simp)⟩
  | @region guards inside opening name marks named plain noJump =>
    by_cases jump : i.JumpsTo name
    · exact .inl ⟨jump.1, fun other same => Option.some.inj same ▸ jump.2⟩
    · refine .inr ⟨some name, ?_⟩
      rw [List.append_assoc, List.cons_append]
      refine .region marks named plain fun j member => ?_
      rcases List.mem_append.mp member with before | last
      · exact noJump j before
      · exact List.mem_singleton.mp last ▸ jump

/-! ## Divisions -/

/-- Instructions that are left out, and the one after them that is passed on. -/
structure Stretch where
  skipped : List Instruction
  kept : Instruction

/-- Stretches one after the other, and what is left out after the last of them. -/
structure Division where
  stretches : List Stretch
  rest : List Instruction

/-- The instruction at the end is passed on after what is left out before it. -/
def Stretch.Regular (stretch : Stretch) : Prop :=
  ∃ sought, Skipped sought stretch.skipped ∧ stretch.kept.Resumes sought

namespace Division

def whole (division : Division) : List Instruction :=
  division.stretches.flatMap (fun stretch => stretch.skipped ++ [stretch.kept]) ++ division.rest

def kept (division : Division) : List Instruction :=
  division.stretches.map Stretch.kept

/-- All that is left out has one of the two forms, and each stretch ends where it should. -/
structure Regular (division : Division) : Prop where
  stretches : ∀ stretch ∈ division.stretches, stretch.Regular
  rest : ∃ sought, Skipped sought division.rest

theorem whole_cons (stretch : Stretch) (stretches : List Stretch) (rest : List Instruction) :
    whole ⟨stretch :: stretches, rest⟩ =
      stretch.skipped ++ stretch.kept :: whole ⟨stretches, rest⟩ := by
  simp [whole]

theorem Regular.cons {stretch : Stretch} {division : Division} (first : stretch.Regular)
    (further : division.Regular) :
    Regular ⟨stretch :: division.stretches, division.rest⟩ :=
  ⟨List.forall_mem_cons.mpr ⟨first, further.stretches⟩, further.rest⟩

theorem Regular.tail {stretch : Stretch} {stretches : List Stretch} {rest : List Instruction}
    (regular : Regular ⟨stretch :: stretches, rest⟩) : Regular ⟨stretches, rest⟩ :=
  ⟨(List.forall_mem_cons.mp regular.stretches).2, regular.rest⟩

theorem kept_sublist (division : Division) : division.kept.Sublist division.whole := by
  obtain ⟨stretches, rest⟩ := division
  induction stretches with
  | nil => exact List.nil_sublist _
  | cons stretch stretches ih =>
    rw [whole_cons]
    exact (List.Sublist.cons_cons _ ih).trans (List.sublist_append_right _ _)

end Division

/-! ## Every list has one division -/

theorem Stretch.Regular.visibleFrom_append {stretch : Stretch} (regular : stretch.Regular)
    (rest : List Instruction) :
    visibleFrom none (stretch.skipped ++ stretch.kept :: rest) =
      stretch.kept :: visibleFrom none rest := by
  obtain ⟨sought, skips, resumes⟩ := regular
  rw [skips.visibleFrom_append, resumes.visibleFrom_cons]

/-- A scan does not run past the end of a stretch. -/
theorem Stretch.Regular.not_skipped {stretch : Stretch} (regular : stretch.Regular)
    (more : List Instruction) (sought : Option String) :
    ¬ Skipped sought (stretch.skipped ++ stretch.kept :: more) := by
  intro skips
  have nothing := skips.visibleFrom_eq_nil
  rw [regular.visibleFrom_append] at nothing
  cases nothing

theorem Stretch.Regular.length_le {first second : Stretch} (one : first.Regular)
    (two : second.Regular) {rest rest' : List Instruction}
    (same : first.skipped ++ first.kept :: rest = second.skipped ++ second.kept :: rest') :
    second.skipped.length ≤ first.skipped.length := by
  rcases List.append_eq_append_iff.mp same with ⟨more, longer, tail⟩ | ⟨more, longer, _⟩
  · cases more with
    | nil => simp [longer]
    | cons i more =>
      -- the end of the first stretch would be left out in the second one
      obtain ⟨sought, skips, _⟩ := two
      rw [List.cons_append, List.cons.injEq] at tail
      rw [longer, ← tail.1] at skips
      exact absurd skips (one.not_skipped more sought)
  · simp [longer]

theorem Stretch.Regular.split_unique {first second : Stretch} (one : first.Regular)
    (two : second.Regular) {rest rest' : List Instruction}
    (same : first.skipped ++ first.kept :: rest = second.skipped ++ second.kept :: rest') :
    first = second ∧ rest = rest' := by
  have lengths : first.skipped.length = second.skipped.length :=
    Nat.le_antisymm (two.length_le one same.symm) (one.length_le two same)
  obtain ⟨skipped, tail⟩ := List.append_inj same lengths
  obtain ⟨kept, further⟩ := List.cons.inj tail
  cases first
  cases second
  exact ⟨congr (congrArg Stretch.mk skipped) kept, further⟩

namespace Division

/-- The scan passes on the ends of the stretches. -/
theorem Regular.kept_eq {division : Division} (regular : division.Regular) :
    division.kept = visible division.whole := by
  obtain ⟨stretches, rest⟩ := division
  induction stretches with
  | nil =>
    obtain ⟨sought, skips⟩ := regular.rest
    exact skips.visibleFrom_eq_nil.symm
  | cons stretch stretches ih =>
    rw [visible, whole_cons, (regular.stretches stretch (.head _)).visibleFrom_append]
    exact congrArg (stretch.kept :: ·) (ih regular.tail)

theorem unique {first second : Division} (one : first.Regular) (two : second.Regular)
    (same : first.whole = second.whole) : first = second := by
  have kept : first.kept = second.kept := by rw [one.kept_eq, two.kept_eq, same]
  obtain ⟨stretches, rest⟩ := first
  obtain ⟨stretches', rest'⟩ := second
  induction stretches generalizing stretches' with
  | nil =>
    obtain rfl : stretches' = [] := List.map_eq_nil_iff.mp kept.symm
    exact congrArg (Division.mk []) same
  | cons stretch stretches ih =>
    cases stretches' with
    | nil => cases kept
    | cons stretch' stretches' =>
      rw [whole_cons, whole_cons] at same
      obtain ⟨rfl, further⟩ := (one.stretches stretch (.head _)).split_unique
        (two.stretches stretch' (.head _)) same
      cases ih one.tail stretches' two.tail further (List.cons.inj kept).2
      rfl

/-- A scan that has left out `skipped` can go on to the end of any list. -/
theorem exists_regular {sought : Option String} {skipped : List Instruction}
    (skips : Skipped sought skipped) (rest : List Instruction) :
    ∃ division : Division, division.Regular ∧ division.whole = skipped ++ rest := by
  induction rest generalizing sought skipped with
  | nil => exact ⟨⟨[], skipped⟩, ⟨by simp, sought, skips⟩, by simp [whole]⟩
  | cons i rest ih =>
    rcases skips.step i with resumes | ⟨sought', longer⟩
    · obtain ⟨division, regular, whole⟩ := ih (.guards (by simp) : Skipped none [])
      refine ⟨⟨⟨skipped, i⟩ :: division.stretches, division.rest⟩,
        .cons ⟨sought, skips, resumes⟩ regular, ?_⟩
      rw [whole_cons, whole, List.nil_append]
    · obtain ⟨division, regular, whole⟩ := ih longer
      exact ⟨division, regular, by rw [whole, List.append_assoc]; rfl⟩

end Division

/-- What a scan from `i` passes on is a subsequence, without labels, of the instructions before
`i`: the ends of the stretches of their only regular division. -/
theorem Store.visibleBefore_division (store : Store) (i : Instruction) :
    (store.visibleBefore i).Sublist (store.before i.addr) ∧
      (∀ j ∈ store.visibleBefore i, j.isLabel = false) ∧
      ∃ division : Division, division.Regular ∧ division.whole = store.before i.addr ∧
        division.kept = store.visibleBefore i ∧
        ∀ other : Division, other.Regular → other.whole = store.before i.addr →
          other = division := by
  obtain ⟨division, regular, whole⟩ :=
    Division.exists_regular (.guards (by simp) : Skipped none []) (store.before i.addr)
  rw [List.nil_append] at whole
  have kept : division.kept = store.visibleBefore i := by rw [regular.kept_eq, whole]; rfl
  refine ⟨kept ▸ whole ▸ division.kept_sublist, fun j member => ?_, division, regular, whole, kept,
    fun other regular' whole' => Division.unique regular' regular (whole'.trans whole.symm)⟩
  rw [← kept] at member
  obtain ⟨stretch, listed, rfl⟩ := List.mem_map.mp member
  obtain ⟨sought, _, resumes⟩ := regular.stretches stretch listed
  exact resumes.1

end Backflow
