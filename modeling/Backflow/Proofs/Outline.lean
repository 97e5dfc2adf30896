import Backflow.Graph.Render
import Backflow.Proofs.Walk
import Backflow.Proofs.Writing

/-! # What the text of a graph tells

A graph is written line by line, and the text of an instruction may be anything on one line, also
something that looks like an input.  What belongs to what is told by the first column of a line and by
nothing else.

* `Outline` is a graph as far as it can be told from its text: addresses, texts of instructions, and for
  each input its register and what explains it, if anything does.  A leaf has the outline of an
  internal node without inputs.
* `Shallow` lines are written further to the left, so that the lines of a node end in front of them.
* `Branches.linesAt_unique` reads the inputs of a node off a list of lines that goes on with shallow
  ones; `Node.render_eq_iff` says that graphs have the same text exactly if they have the same
  outline.
-/

namespace Backflow

open Backflow.Text

/-! ## Outlines -/

mutual

/-- A graph as far as its text tells. -/
inductive Outline where
  | node (addr : Address) (text : String) (branches : Branches)

/-- The inputs of a node, in register order. -/
inductive Branches where
  | nil
  | unresolved (register : Register) (rest : Branches)
  | resolved (register : Register) (tree : Outline) (rest : Branches)

end

mutual

def Node.outline : Node → Outline
  | .leaf i => .node i.addr i.render .nil
  | .internal i inputs => .node i.addr i.render inputs.outline

def Inputs.outline : Inputs → Branches
  | .nil => .nil
  | .unresolved r rest => .unresolved r rest.outline
  | .resolved r node rest => .resolved r node.outline rest.outline

end

/-- What stands in front of an input. -/
def edge (depth : Nat) (r : Register) : String :=
  indentation depth ++ r.render ++ " <- "

def headline (addr : Address) (text : String) : String :=
  Address.render addr ++ ": " ++ text

mutual

/-- The lines of an outline at the given depth, `lead` being what stands in front of the first one. -/
def Outline.linesAt (tree : Outline) (lead : String) (depth : Nat) : List String :=
  match tree with
  | .node addr text branches => (lead ++ headline addr text) :: branches.linesAt (depth + 1)

def Branches.linesAt (branches : Branches) (depth : Nat) : List String :=
  match branches with
  | .nil => []
  | .unresolved r rest => (edge depth r ++ "?") :: rest.linesAt depth
  | .resolved r tree rest => tree.linesAt (edge depth r) depth ++ rest.linesAt depth

end

mutual

/-- The lines of a graph are those of its outline. -/
theorem Node.linesAt_outline (node : Node) (lead : String) (depth : Nat) :
    node.linesAt lead depth = node.outline.linesAt lead depth := by
  match node with
  | .leaf i => rfl
  | .internal i inputs =>
    rw [Node.linesAt, Node.outline, Outline.linesAt, inputs.linesAt_outline]
    rfl

theorem Inputs.linesAt_outline (inputs : Inputs) (depth : Nat) :
    inputs.linesAt depth = inputs.outline.linesAt depth := by
  match inputs with
  | .nil => rfl
  | .unresolved r rest =>
    have mark : " <- ?" = " <- " ++ "?" := by decide
    rw [Inputs.linesAt, Inputs.outline, Branches.linesAt, rest.linesAt_outline, mark, edge,
      ← String.append_assoc]
  | .resolved r node rest =>
    rw [Inputs.linesAt, Inputs.outline, Branches.linesAt, node.linesAt_outline, rest.linesAt_outline,
      edge]

end

/-! ## Addresses and registers on a line -/

theorem Address.toList_render (addr : Address) :
    (Address.render addr).toList =
      List.replicate (4 - (Nat.toDigits 10 addr).length) '0' ++ Nat.toDigits 10 addr := by
  simp [Address.render, padded, List.leftpad]

theorem Address.isDigit_of_mem_render {addr : Address} {c : Char}
    (member : c ∈ (Address.render addr).toList) : c.isDigit = true := by
  rw [toList_render, List.mem_append] at member
  rcases member with zero | digit
  · rw [List.eq_of_mem_replicate zero]
    decide
  · exact Nat.isDigit_of_mem_toDigits (by decide) (by decide) digit

/-- The zeros in front do not count. -/
theorem Address.ofDigitChars_render (addr : Address) :
    Nat.ofDigitChars 10 (Address.render addr).toList 0 = addr := by
  have zeros : ∀ n, Nat.ofDigitChars 10 (List.replicate n '0') 0 = 0 := by
    intro n
    induction n with
    | zero => rfl
    | succ n ih => rw [List.replicate_succ, Nat.ofDigitChars_cons]; exact ih
  rw [toList_render, Nat.ofDigitChars_append, zeros]
  exact Nat.ofDigitChars_toDigits (by decide) (by decide)

theorem toList_headline (addr : Address) (text : String) :
    (headline addr text).toList = (Address.render addr).toList ++ ':' :: ' ' :: text.toList := by
  simp [headline]

theorem headline_injective {addr addr' : Address} {text text' : String}
    (same : headline addr text = headline addr' text') : addr = addr' ∧ text = text' := by
  have chars := congrArg String.toList same
  rw [toList_headline, toList_headline] at chars
  obtain ⟨number, rest⟩ := run_unique (fun _ => Address.isDigit_of_mem_render)
    (endsRun_cons (by decide) _) (fun _ => Address.isDigit_of_mem_render)
    (endsRun_cons (by decide) _) chars
  constructor
  · rw [← Address.ofDigitChars_render addr, number, Address.ofDigitChars_render]
  · exact String.toList_inj.mp (List.cons.inj (List.cons.inj rest).2).2

theorem headline_ne_mark (addr : Address) (text : String) : headline addr text ≠ "?" := by
  intro same
  have colon : ':' ∈ (headline addr text).toList := by simp [toList_headline]
  rw [same] at colon
  exact absurd colon (by decide)

theorem toList_edge (depth : Nat) (r : Register) (text : String) :
    (edge depth r ++ text).toList =
      List.replicate (2 * depth) ' ' ++ (r.render.toList ++ ' ' :: '<' :: '-' :: ' ' :: text.toList) := by
  simp [edge, indentation]

theorem edge_injective {depth : Nat} {r s : Register} {text text' : String}
    (same : edge depth r ++ text = edge depth s ++ text') : r = s ∧ text = text' := by
  have inside : ∀ (r : Register), ∀ c ∈ r.render.toList, (c != ' ') = true := by
    intro r c member
    refine bne_iff_ne.mpr fun space => ?_
    subst space
    simpa using Register.eq_or_of_mem_render member
  have chars := congrArg String.toList same
  rw [toList_edge, toList_edge] at chars
  obtain ⟨name, rest⟩ := run_unique (inside r) (endsRun_cons (by decide) _) (inside s)
    (endsRun_cons (by decide) _) (List.append_cancel_left chars)
  constructor
  · have read := Register.ofChars?_render r
    rw [name, Register.ofChars?_render s] at read
    exact (Option.some.inj read).symm
  · simpa [String.toList_inj] using rest

/-! ## Columns -/

/-- The number of spaces in front of a line. -/
def columns (line : String) : Nat :=
  (line.toList.takeWhile (· == ' ')).length

theorem columns_edge (depth : Nat) (r : Register) (text : String) :
    columns (edge depth r ++ text) = 2 * depth := by
  have ends : EndsRun (· == ' ') (r.render.toList ++ ' ' :: '<' :: '-' :: ' ' :: text.toList) := by
    rw [Register.toList_render]
    refine endsRun_cons ?_ _
    cases r.kind <;> decide
  rw [columns, toList_edge, takeWhile_run (by simp) ends, List.length_replicate]

/-- The first of the lines, if there is one, is further to the left than the inputs at the given
depth. -/
def Shallow (depth : Nat) (lines : List String) : Prop :=
  ∀ line, lines.head? = some line → columns line < 2 * depth

theorem shallow_edge (depth : Nat) (r : Register) (text : String) (rest : List String) :
    Shallow (depth + 1) ((edge depth r ++ text) :: rest) := by
  intro line found
  cases found
  rw [columns_edge]
  omega

theorem not_shallow_edge {depth : Nat} {r : Register} {text : String} {rest : List String} :
    ¬ Shallow depth ((edge depth r ++ text) :: rest) := by
  intro shallow
  have left := shallow _ rfl
  rw [columns_edge] at left
  omega

/-- The first line of an outline cannot be taken for an input that nothing is known about. -/
theorem Outline.linesAt_eq_cons (tree : Outline) (lead : String) (depth : Nat) :
    ∃ text more, tree.linesAt lead depth = (lead ++ text) :: more ∧ text ≠ "?" := by
  cases tree with
  | node addr text branches => exact ⟨_, _, rfl, headline_ne_mark addr text⟩

theorem Branches.shallow_linesAt {depth : Nat} {rest : List String} (branches : Branches)
    (shallow : Shallow depth rest) : Shallow (depth + 1) (branches.linesAt depth ++ rest) := by
  cases branches with
  | nil =>
    intro line found
    have left := shallow line found
    omega
  | unresolved r others => exact shallow_edge depth r _ _
  | resolved r tree others =>
    obtain ⟨text, more, lines, _⟩ := tree.linesAt_eq_cons (edge depth r) depth
    rw [linesAt, lines]
    exact shallow_edge depth r _ _

/-- No input begins where shallow lines do. -/
theorem Branches.eq_nil_of_shallow {depth : Nat} {lines rest : List String} {branches : Branches}
    (shallow : Shallow depth lines) (same : lines = branches.linesAt depth ++ rest) :
    branches = .nil := by
  subst same
  cases branches with
  | nil => rfl
  | unresolved r others => exact absurd shallow not_shallow_edge
  | resolved r tree others =>
    obtain ⟨text, more, lines, _⟩ := tree.linesAt_eq_cons (edge depth r) depth
    rw [linesAt, lines] at shallow
    exact absurd shallow not_shallow_edge

/-! ## Reading an outline off its lines -/

theorem unresolved_ne_resolved {depth : Nat} {r s : Register} {tree : Outline}
    {more rest : List String} :
    (edge depth r ++ "?") :: more ≠ tree.linesAt (edge depth s) depth ++ rest := by
  intro same
  obtain ⟨text, _, lines, noMark⟩ := tree.linesAt_eq_cons (edge depth s) depth
  rw [lines] at same
  exact noMark (edge_injective (List.cons.inj same).1).2.symm

theorem register_unique {depth : Nat} {r s : Register} {tree tree' : Outline} {rest rest' : List String}
    (same : tree.linesAt (edge depth r) depth ++ rest = tree'.linesAt (edge depth s) depth ++ rest') :
    r = s := by
  obtain ⟨text, _, lines, _⟩ := tree.linesAt_eq_cons (edge depth r) depth
  obtain ⟨text', _, lines', _⟩ := tree'.linesAt_eq_cons (edge depth s) depth
  rw [lines, lines'] at same
  exact (edge_injective (List.cons.inj same).1).1

mutual

/-- The lines of a node end where shallow lines begin, so they tell the outline and what comes behind
it. -/
theorem Outline.linesAt_unique (tree tree' : Outline) {lead : String} {depth : Nat}
    {rest rest' : List String} (shallow : Shallow (depth + 1) rest)
    (shallow' : Shallow (depth + 1) rest')
    (same : tree.linesAt lead depth ++ rest = tree'.linesAt lead depth ++ rest') :
    tree = tree' ∧ rest = rest' := by
  match tree, tree' with
  | .node addr text branches, .node addr' text' branches' =>
    obtain ⟨first, later⟩ := List.cons.inj same
    obtain ⟨rfl, rfl⟩ := headline_injective ((String.append_right_inj lead).mp first)
    obtain ⟨rfl, further⟩ := branches.linesAt_unique branches' shallow shallow' later
    exact ⟨rfl, further⟩

theorem Branches.linesAt_unique (branches branches' : Branches) {depth : Nat}
    {rest rest' : List String} (shallow : Shallow depth rest) (shallow' : Shallow depth rest')
    (same : branches.linesAt depth ++ rest = branches'.linesAt depth ++ rest') :
    branches = branches' ∧ rest = rest' := by
  match branches with
  | .nil =>
    obtain rfl := Branches.eq_nil_of_shallow shallow same
    exact ⟨rfl, same⟩
  | .unresolved r others =>
    match branches' with
    | .nil => cases Branches.eq_nil_of_shallow shallow' same.symm
    | .unresolved s others' =>
      obtain ⟨first, later⟩ := List.cons.inj same
      obtain ⟨rfl, _⟩ := edge_injective first
      obtain ⟨rfl, further⟩ := others.linesAt_unique others' shallow shallow' later
      exact ⟨rfl, further⟩
    | .resolved s tree' others' =>
      rw [Branches.linesAt, Branches.linesAt, List.append_assoc] at same
      exact absurd same unresolved_ne_resolved
  | .resolved r tree others =>
    match branches' with
    | .nil => cases Branches.eq_nil_of_shallow shallow' same.symm
    | .unresolved s others' =>
      rw [Branches.linesAt, Branches.linesAt, List.append_assoc] at same
      exact absurd same.symm unresolved_ne_resolved
    | .resolved s tree' others' =>
      rw [Branches.linesAt, Branches.linesAt, List.append_assoc, List.append_assoc] at same
      obtain rfl := register_unique same
      -- the lines of the other inputs are shallow for the inputs of this one
      obtain ⟨rfl, later⟩ := tree.linesAt_unique tree' (others.shallow_linesAt shallow)
        (others'.shallow_linesAt shallow') same
      obtain ⟨rfl, further⟩ := others.linesAt_unique others' shallow shallow' later
      exact ⟨rfl, further⟩

end

/-! ## Texts of graphs -/

theorem newline_notMem_renderAt {lead : String} (noFeed : '\n' ∉ lead.toList) {i : Instruction}
    (oneLine : '\n' ∉ i.render.toList) : '\n' ∉ (lead ++ i.renderAt).toList := by
  have digits : '\n' ∉ (Address.render i.addr).toList := fun member =>
    absurd (Address.isDigit_of_mem_render member) (by decide)
  simp [Instruction.renderAt, noFeed, digits, oneLine]

theorem newline_notMem_edge (depth : Nat) (r : Register) : '\n' ∉ (edge depth r).toList := by
  have name : '\n' ∉ r.render.toList := fun member => by
    simpa using Register.eq_or_of_mem_render member
  simp [edge, indentation, name]

mutual

theorem Node.newline_notMem_linesAt (node : Node) {lead : String} {depth : Nat}
    (noFeed : '\n' ∉ lead.toList) (oneLine : ∀ part ∈ node.parts, '\n' ∉ part.instr.render.toList) :
    ∀ line ∈ node.linesAt lead depth, '\n' ∉ line.toList := by
  match node with
  | .leaf i =>
    have first := newline_notMem_renderAt noFeed (oneLine (.leaf i) (.head _))
    exact List.forall_mem_singleton.mpr first
  | .internal i inputs =>
    have first := newline_notMem_renderAt noFeed (oneLine (.internal i inputs) (.head _))
    refine List.forall_mem_cons.mpr ⟨first, ?_⟩
    exact inputs.newline_notMem_linesAt fun part member => oneLine part (.tail _ member)

theorem Inputs.newline_notMem_linesAt (inputs : Inputs) {depth : Nat}
    (oneLine : ∀ part ∈ inputs.parts, '\n' ∉ part.instr.render.toList) :
    ∀ line ∈ inputs.linesAt depth, '\n' ∉ line.toList := by
  match inputs with
  | .nil => exact fun line member => absurd member List.not_mem_nil
  | .unresolved r rest =>
    have noFeed := newline_notMem_edge depth r
    refine List.forall_mem_cons.mpr ⟨by simpa [edge] using noFeed, ?_⟩
    exact rest.newline_notMem_linesAt oneLine
  | .resolved r node rest =>
    refine List.forall_mem_append.mpr ⟨?_, ?_⟩
    · exact node.newline_notMem_linesAt (newline_notMem_edge depth r) fun part member =>
        oneLine part (List.mem_append_left _ member)
    · exact rest.newline_notMem_linesAt fun part member =>
        oneLine part (List.mem_append_right _ member)

end

namespace Node

theorem newline_notMem_lines {node : Node}
    (oneLine : ∀ part, node.Reaches part → '\n' ∉ part.instr.render.toList) :
    ∀ line ∈ node.lines, '\n' ∉ line.toList :=
  node.newline_notMem_linesAt (by simp) fun part member => oneLine part (mem_parts.mp member)

theorem lines_eq_iff {first second : Node} :
    first.lines = second.lines ↔ first.outline = second.outline := by
  have none : Shallow 1 [] := fun line found => by cases found
  rw [lines, lines, linesAt_outline, linesAt_outline]
  constructor
  · intro same
    have whole := congrArg (· ++ []) same
    exact (first.outline.linesAt_unique second.outline none none whole).1
  · intro same
    rw [same]

/-- Graphs whose instructions are written on one line each have the same text exactly if they have
the same outline: the same address and instruction at every place, the same input registers in the
same order, and the same inputs without an explanation. -/
theorem render_eq_iff {first second : Node}
    (oneLine : ∀ part, first.Reaches part → '\n' ∉ part.instr.render.toList)
    (oneLine' : ∀ part, second.Reaches part → '\n' ∉ part.instr.render.toList) :
    first.render = second.render ↔ first.outline = second.outline := by
  rw [← lines_eq_iff]
  constructor
  · exact unlines_injective (newline_notMem_lines oneLine) (newline_notMem_lines oneLine')
  · intro same
    rw [render, same, render]

/-- A node whose instruction looks like an input, with a leaf and an unknown input. -/
def disguised : Node :=
  .internal ⟨2, 0, "v1 <- ?", []⟩
    (.resolved ⟨.loc, 0⟩ (.leaf ⟨1, 0, "const/4", [.reg ⟨.loc, 0⟩, .num "0x1"]⟩)
      (.unresolved ⟨.loc, 1⟩ .nil))

/-- The same text, with other operands and an internal node in place of the leaf. -/
def lookalike : Node :=
  .internal ⟨2, 7, "v1", [.type "<- ?"]⟩
    (.resolved ⟨.loc, 0⟩ (.internal ⟨1, 0, "const/4 v0,", [.num "0x1"]⟩ .nil)
      (.unresolved ⟨.loc, 1⟩ .nil))

/-- Neither the operands nor the leaf can be told from the text. -/
theorem render_eq_iff_disguised :
    (∀ part, disguised.Reaches part → '\n' ∉ part.instr.render.toList) ∧
      (∀ part, lookalike.Reaches part → '\n' ∉ part.instr.render.toList) ∧ disguised ≠ lookalike ∧
      disguised.render = "0002: v1 <- ?\n  v0 <- 0001: const/4 v0, 0x1\n  v1 <- ?\n" ∧
      disguised.render = lookalike.render ∧ disguised.outline = lookalike.outline := by
  have one : ∀ part ∈ disguised.parts, '\n' ∉ part.instr.render.toList := by decide +kernel
  have two : ∀ part ∈ lookalike.parts, '\n' ∉ part.instr.render.toList := by decide +kernel
  have oneLine : ∀ part, disguised.Reaches part → '\n' ∉ part.instr.render.toList :=
    fun part reaches => one part (mem_parts.mpr reaches)
  have oneLine' : ∀ part, lookalike.Reaches part → '\n' ∉ part.instr.render.toList :=
    fun part reaches => two part (mem_parts.mpr reaches)
  have same : disguised.render = lookalike.render := by decide +kernel
  exact ⟨oneLine, oneLine', by decide +kernel, by decide +kernel, same,
    (render_eq_iff oneLine oneLine').mp same⟩

end Node

end Backflow
