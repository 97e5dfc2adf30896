import Backflow.Argument
import Backflow.Proofs.Layout
import Backflow.Proofs.Writing
import Backflow.Proofs.Unfolding
import Mathlib.Data.List.Forall2

/-! # A string constant from the listing to the answer

A literal is written in a listing, read as an operand, placed in a store, found by a backward scan,
made a leaf of a graph and given back as the constant of an argument.  On all this way its text stays
as it is: escapes are kept, and nothing inside of it is taken for a comment or a separator.

* `Listing.instruction?_literal` is the line that loads the literal.
* `Store.before_addMethod` says what a scan finds before an instruction of a loaded method.
* `Store.explain_leafInput` is the graph of an instruction that reads one register, defined by a leaf.
* `Store.constantArgument_literal` puts them together.
-/

namespace Backflow

/-! ## The line of a literal -/

namespace Operand

open Backflow.Text

theorem readList?_literal {content : List Char} (escaped : Escaped content) :
    readList? ('v' :: '0' :: ',' :: ' ' :: '"' :: (content ++ ['"'])) =
      some [.reg ⟨.loc, 0⟩, .str (String.ofList content)] := by
  have written : ∀ operand ∈ [reg ⟨.loc, 0⟩, str (String.ofList content)], operand.Written := by
    simpa [Written] using escaped.quotable
  have read := readList?_render written
  have index : Nat.toDigits 10 0 = ['0'] := by decide
  simpa [renderList, render, Register.render, RegisterKind.letter, index] using read

end Operand

namespace Listing

open Backflow.Text

/-- The line that loads a literal reads as that literal, whatever stands inside of it. -/
theorem instruction?_literal {indent : String} (gaps : ∀ c ∈ indent.toList, isGap c = true)
    {literal : String} (escaped : Escaped literal.toList) :
    instruction? (indent ++ "const-string v0, \"" ++ literal ++ "\"").toList =
      some ⟨"const-string", [.reg ⟨.loc, 0⟩, .str literal]⟩ := by
  have blank : isBlank ' ' = true := by decide
  have word : ∀ c ∈ "const-string".toList, isBlank c = false := isBlank_of_any (by decide)
  have quote : ∀ c ∈ ['"'], isBlank c = false := isBlank_of_any (by decide)
  have plain : ∀ c ∈ "const-string v0, ".toList, c ≠ '#' ∧ c ≠ '"' := by simp
  have text : (indent ++ "const-string v0, \"" ++ literal ++ "\"").toList =
      indent.toList ++ ("const-string v0, ".toList ++ '"' :: (literal.toList ++ ['"'])) := by simp
  have uncut : uncommented ("const-string v0, ".toList ++ '"' :: (literal.toList ++ ['"'])) =
      "const-string v0, ".toList ++ '"' :: (literal.toList ++ ['"']) := by
    rw [uncommented, uncommentedFrom_plain plain]
    have inside := uncommentedFrom_quotable escaped.quotable []
    simp [uncommentedFrom, Quoting.next, inside]
  have whole : trim ("const-string v0, ".toList ++ '"' :: (literal.toList ++ ['"'])) =
      "const-string".toList ++ ' ' :: ("v0, \"".toList ++ (literal.toList ++ ['"'])) := by
    have ends := trim_of_ends (c := 'c') (by decide) ("onst-string v0, \"".toList ++ literal.toList)
      (List.cons_ne_nil _ _) quote
    simpa using ends
  have rest : trim ("v0, \"".toList ++ (literal.toList ++ ['"'])) =
      'v' :: '0' :: ',' :: ' ' :: '"' :: (literal.toList ++ ['"']) := by
    have ends := trim_of_ends (c := 'v') (by decide) ("0, \"".toList ++ literal.toList)
      (List.cons_ne_nil _ _) quote
    simpa using ends
  have said : Line.ofText (trim (uncommented
      (indent ++ "const-string v0, \"" ++ literal ++ "\"").toList)) =
        .entry ⟨"const-string", [.reg ⟨.loc, 0⟩, .str literal]⟩ := by
    rw [text, trim_uncommented_indented gaps, uncut, whole, Line.ofText, cutAtBlank_word word blank,
      rest, Operand.readList?_literal escaped]
    simp [Line.ofOperands]
  rw [instruction?, said]
  simp

theorem instruction?_call {indent : String} (gaps : ∀ c ∈ indent.toList, isGap c = true) :
    instruction? (indent ++ "invoke-static \x7bv0\x7d, Lx;->m(Ljava/lang/String;)V").toList =
      some ⟨"invoke-static", [.regList [⟨.loc, 0⟩], .method "Lx;->m(Ljava/lang/String;)V"]⟩ := by
  have said : Line.ofText (trim (uncommented
      "invoke-static \x7bv0\x7d, Lx;->m(Ljava/lang/String;)V".toList)) =
        .entry ⟨"invoke-static", [.regList [⟨.loc, 0⟩], .method "Lx;->m(Ljava/lang/String;)V"]⟩ := by
    decide +kernel
  rw [instruction?, String.toList_append, trim_uncommented_indented gaps, said]
  rfl

end Listing

/-! ## The method in the store -/

def Entry.definedRegisters (entry : Entry) : List Register :=
  (Instruction.mk 0 0 entry.mnemonic entry.operands).definedRegisters

theorem visible_eq_self {instructions : List Instruction}
    (unlabelled : ∀ i ∈ instructions, i.label? = none) : visible instructions = instructions := by
  unfold visible
  induction instructions with
  | nil => rfl
  | cons i rest ih =>
    simp [visibleFrom, unlabelled i (.head _), ih fun j member => unlabelled j (.tail _ member)]

namespace Store

theorem at?_addMethod (store : Store) (m : Method) (offset : Nat) :
    (store.addMethod m).at? (store.instructions.size + offset) =
      (placed store.instructions.size store.scopes.size m.body)[offset]? := by
  rw [at?, instructions_addMethod, Array.getElem?_append_right (Nat.le_add_right _ _),
    Nat.add_sub_cancel_left, List.getElem?_toArray]

theorem before_addMethod (store : Store) (m : Method) (offset : Nat) (inside : offset < m.body.length) :
    (store.addMethod m).before (store.instructions.size + offset) =
      ((placed store.instructions.size store.scopes.size m.body).take offset).reverse := by
  have scopes : (store.addMethod m).scopes[store.scopes.size]? =
      some ⟨m.name, store.instructions.size, (store.addMethod m).instructions.size⟩ := by
    rw [scopes_addMethod, Array.getElem?_push_size]
  have found : (store.addMethod m).at? (store.instructions.size + offset) =
      some ⟨store.instructions.size + offset, store.scopes.size, m.body[offset].mnemonic,
        m.body[offset].operands⟩ := by
    rw [at?_addMethod]
    simp [placed, inside]
  simp only [before, found, scopes]
  simp [instructions_addMethod]

/-! ## The graph and the answer -/

variable {store : Store} {limits : Limits} {i leaf : Instruction} {r : Register}

theorem size_leafInput (i leaf : Instruction) (r : Register) :
    (Node.internal i (.resolved r (.leaf leaf) .nil)).size ≤ 2 := by
  refine (Node.size_le _).trans ?_
  simp only [Node.addresses, Node.parts, Inputs.parts, List.append_nil, List.map_cons, List.map_nil]
  exact (List.toFinset_card_le _).trans (by simp)

/-- An instruction that reads one register, defined by a leaf, has that leaf for its only input. -/
theorem explain_leafInput (deep : 0 < limits.maxStage) (room : 2 ≤ limits.maxGraphSize)
    (notLeaf : i.isAnyOf leafFamilies = false) (notMoved : i.isOf "move-result" = false)
    (planned : i.inputPlan? = some (.each [r]))
    (found : store.recentLoad limits.maxHops i r = some leaf)
    (isLeaf : leaf.isAnyOf leafFamilies = true) :
    store.explain limits i = some (.internal i (.resolved r (.leaf leaf) .nil)) := by
  obtain ⟨depth, stage⟩ := Nat.exists_eq_add_one_of_ne_zero (Nat.ne_of_gt deep)
  have loads : (store.recentLoads limits.maxHops i [r]).value = [(r, some leaf)] := by
    rw [recentLoads_value_eq_recentLoad, List.map_singleton, found]
  have inner : ∀ query : Query, query.memo[leaf.addr]? = none →
      store.explainWithin limits (depth + 1) (some leaf) query =
        (query.log (.entered leaf.addr)).settle leaf.addr (some (.leaf leaf)) := by
    intro query unmet
    rw [explainWithin, unmet]
    simp [explainEntered, isLeaf]
  have fresh : ∀ a : Address, Query.empty.memo[a]? = none := fun a => by simp [Query.empty]
  rw [explain, explainIn, stage, explainWithin, fresh i.addr]
  simp only [explainEntered, notLeaf, notMoved, planned, Bool.false_eq_true, if_false, explainInputs,
    loads, explainLoads]
  rw [inner _ (by simpa using fresh leaf.addr)]
  -- no size is recorded yet, so the two addresses of the node are counted
  rw [Query.settleNode_of_fits]
  · rfl
  · simp only [Query.count, Query.sizes_settle, Query.sizes_log, Query.sizes_logScans, Query.empty,
      Std.TreeMap.getElem?_emptyc, Option.getD_none]
    exact (size_leafInput i leaf r).trans room

theorem constantArgument_of_explain {index : Nat} {value : String}
    (argument : i.argumentRegister index = .ok r)
    (graph : store.explain limits i = some (.internal i (.resolved r (.leaf leaf) .nil)))
    (literal : leaf.constant? = some value) :
    store.constantArgument limits i index = .ok value := by
  rw [explain] at graph
  simp [constantArgument, argumentGraph, argumentGraphIn, argument, Except.map, graph,
    ArgumentGraph.constant, Node.input?, Node.inputs?, Inputs.get?, literal]

def literalEntry (literal : String) : Entry :=
  ⟨"const-string", [.reg ⟨.loc, 0⟩, .str literal]⟩

def literalCall : Entry :=
  ⟨"invoke-static", [.regList [⟨.loc, 0⟩], .method "Lx;->m(Ljava/lang/String;)V"]⟩

theorem nearest_literal (store : Store) (name literal : String) {entries : List Entry}
    (unlabelled : ∀ e ∈ entries, ∃ c rest, e.mnemonic.toList = c :: rest ∧ c ≠ ':')
    (kept : ∀ e ∈ entries, ⟨.loc, 0⟩ ∉ e.definedRegisters) :
    (store.addMethod ⟨name, literalEntry literal :: (entries ++ [literalCall])⟩).nearest
        ⟨store.instructions.size + (entries.length + 1), store.scopes.size, literalCall.mnemonic,
          literalCall.operands⟩ ⟨.loc, 0⟩ =
      some ⟨store.instructions.size, store.scopes.size, (literalEntry literal).mnemonic,
        (literalEntry literal).operands⟩ := by
  have before := store.before_addMethod ⟨name, literalEntry literal :: (entries ++ [literalCall])⟩
    (entries.length + 1) (by simp)
  rw [placed_cons, placed_append, List.take_succ_cons, List.take_left' (length_placed _ _ _),
    List.reverse_cons] at before
  have load : "const-string".startsWith "const" = true := by decide +kernel
  rw [nearest, visibleBefore, before, visible_eq_self, List.find?_append]
  · have none : (placed (store.instructions.size + 1) store.scopes.size entries).reverse.find?
        (·.defines ⟨.loc, 0⟩) = none := by
      refine List.find?_eq_none.mpr fun i member => ?_
      obtain ⟨e, listed, a, rfl⟩ := exists_of_mem_placed (List.mem_reverse.mp member)
      exact fun writes => kept e listed (Written.contains_iff.mp writes)
    rw [none, Option.none_or]
    refine List.find?_cons_of_pos ?_
    simp [literalEntry, Instruction.defines, Instruction.written, Instruction.isAnyOf,
      Instruction.isOf, definingFamilies, load, Written.contains, Operand.denotes]
  · intro i member
    rw [List.mem_append, List.mem_reverse, List.mem_singleton] at member
    rcases member with member | rfl
    · obtain ⟨e, listed, a, rfl⟩ := exists_of_mem_placed member
      obtain ⟨c, rest, spelled, noColon⟩ := unlabelled e listed
      simp [Instruction.label?, spelled, noColon]
    · simp [Instruction.label?, literalEntry]

/-- The constant passed by the call is the literal, whatever instructions stand in between. -/
theorem constantArgument_addMethod (store : Store) (name literal : String) {entries : List Entry}
    (unlabelled : ∀ e ∈ entries, ∃ c rest, e.mnemonic.toList = c :: rest ∧ c ≠ ':')
    (kept : ∀ e ∈ entries, ⟨.loc, 0⟩ ∉ e.definedRegisters) :
    (store.addMethod ⟨name, literalEntry literal :: (entries ++ [literalCall])⟩).constantArgument {}
        ⟨store.instructions.size + (entries.length + 1), store.scopes.size, literalCall.mnemonic,
          literalCall.operands⟩ 0 = .ok literal := by
  have load : "const-string".startsWith "const" = true := by decide +kernel
  have nearest := nearest_literal store name literal unlabelled kept
  have found := recentLoad_eq_definition
    (store.addMethod ⟨name, literalEntry literal :: (entries ++ [literalCall])⟩) 5
    ⟨store.instructions.size + (entries.length + 1), store.scopes.size, literalCall.mnemonic,
      literalCall.operands⟩ ⟨.loc, 0⟩
  rw [definition, nearest, Option.some_or] at found
  refine constantArgument_of_explain ?_ (explain_leafInput (by decide) (by decide) ?_ ?_ ?_ found ?_) ?_
  · have static : "invoke-static".startsWith "invoke-static" = true := by decide +kernel
    simp [Instruction.argumentRegister, Instruction.argumentOffset, Instruction.isOf, literalCall,
      static, Operand.registers?]
  -- what kind of instruction it is depends on neither its address nor its method
  · change (Instruction.mk 0 0 literalCall.mnemonic literalCall.operands).isAnyOf leafFamilies = false
    decide +kernel
  · change (Instruction.mk 0 0 literalCall.mnemonic literalCall.operands).isOf "move-result" = false
    decide +kernel
  · change (Instruction.mk 0 0 literalCall.mnemonic literalCall.operands).inputPlan? =
      some (.each [⟨.loc, 0⟩])
    decide +kernel
  · simp [Instruction.isAnyOf, Instruction.isOf, leafFamilies, literalEntry, load]
  · simp [Instruction.constant?, Instruction.isOf, literalEntry, load, Operand.value]

theorem exists_entries {lines : List String}
    (body : ∀ line ∈ lines, '\n' ∉ line.toList ∧ ∃ entry, Listing.instruction? line.toList = some entry ∧
      ⟨.loc, 0⟩ ∉ entry.definedRegisters) :
    ∃ entries : List Entry,
      List.Forall₂ (fun line entry => Listing.instruction? line.toList = some entry) lines entries ∧
      (∀ e ∈ entries, ∃ c rest, e.mnemonic.toList = c :: rest ∧ c ≠ ':') ∧
      ∀ e ∈ entries, ⟨.loc, 0⟩ ∉ e.definedRegisters := by
  induction lines with
  | nil => exact ⟨[], .nil, by simp, by simp⟩
  | cons line rest ih =>
    obtain ⟨_, entry, read, kept⟩ := body line (.head _)
    obtain ⟨entries, reads, unlabelled, others⟩ := ih fun other member => body other (.tail _ member)
    obtain ⟨_, _, c, letters, spelled, _, noColon⟩ := Listing.ofText_of_instruction? read
    refine ⟨entry :: entries, .cons read reads, ?_, ?_⟩
    · exact List.forall_mem_cons.mpr ⟨⟨c, letters, spelled, noColon⟩, unlabelled⟩
    · exact List.forall_mem_cons.mpr ⟨kept, others⟩

/-- A string constant survives from the text of a listing to the answer.  The listing has one method:
it loads the literal into a register, goes on with instructions that do not write this register, and
passes it to a static call. -/
theorem constantArgument_literal (store : Store) {header : List String}
    (headed : ∀ line ∈ header, '\n' ∉ line.toList ∧ Listing.isHeader line.toList = true)
    {signature indent literal : String} (isSignature : Listing.IsSignature signature)
    (gaps : ∀ c ∈ indent.toList, Text.isGap c = true) (escaped : Escaped literal.toList)
    {lines : List String}
    (body : ∀ line ∈ lines, '\n' ∉ line.toList ∧ ∃ entry, Listing.instruction? line.toList = some entry ∧
      ⟨.loc, 0⟩ ∉ entry.definedRegisters) :
    ∃ listing, Listing.parse (Text.unlines (header ++
        [".method static " ++ signature, indent ++ "const-string v0, \"" ++ literal ++ "\""] ++ lines ++
          [indent ++ "invoke-static \x7bv0\x7d, Lx;->m(Ljava/lang/String;)V", ".end method"])) =
        .ok listing ∧
      ∃ call, (store.load listing).at? (store.instructions.size + (lines.length + 1)) = some call ∧
        call.mnemonic = "invoke-static" ∧
        call.operands = [.regList [⟨.loc, 0⟩], .method "Lx;->m(Ljava/lang/String;)V"] ∧
        (store.load listing).constantArgument {} call 0 = .ok literal := by
  obtain ⟨entries, reads, unlabelled, kept⟩ := exists_entries body
  have indented : '\n' ∉ indent.toList := fun member => by simpa [Text.isGap] using gaps _ member
  have unbroken := escaped.newline_notMem
  have oneLine : ∀ line ∈ (indent ++ "const-string v0, \"" ++ literal ++ "\"") :: (lines ++
      [indent ++ "invoke-static \x7bv0\x7d, Lx;->m(Ljava/lang/String;)V"]), '\n' ∉ line.toList := by
    intro line member
    simp only [List.mem_cons, List.mem_append, List.not_mem_nil, or_false] at member
    rcases member with rfl | member | rfl
    · simp [indented, unbroken]
    · exact (body line member).1
    · simp [indented]
  have all : List.Forall₂ (fun line entry => Listing.instruction? line.toList = some entry)
      ((indent ++ "const-string v0, \"" ++ literal ++ "\"") :: (lines ++
        [indent ++ "invoke-static \x7bv0\x7d, Lx;->m(Ljava/lang/String;)V"]))
      (literalEntry literal :: (entries ++ [literalCall])) :=
    .cons (Listing.instruction?_literal gaps escaped)
      (List.rel_append reads (.cons (Listing.instruction?_call gaps) .nil))
  obtain ⟨name, parsed⟩ := Listing.parse_method headed isSignature oneLine all
  refine ⟨_, by simpa using parsed, ?_⟩
  have count : lines.length = entries.length := reads.length_eq
  have call : (store.addMethod ⟨name, literalEntry literal :: (entries ++ [literalCall])⟩).at?
      (store.instructions.size + (entries.length + 1)) =
        some ⟨store.instructions.size + (entries.length + 1), store.scopes.size, literalCall.mnemonic,
          literalCall.operands⟩ := by
    rw [at?_addMethod, placed_cons, placed_append, List.getElem?_cons_succ,
      List.getElem?_append_right (by simp)]
    simp [placed, Nat.add_assoc, Nat.add_comm 1]
  exact ⟨_, count ▸ call, rfl, rfl,
    constantArgument_addMethod store name literal unlabelled kept⟩

/-- Quotes and backslashes that are escaped, a number sign, a comma, braces and blanks inside of the
literal; a comment and a copy of the register after it. -/
theorem constantArgument_literal_marks :
    Escaped "a\\\" # , \x7bv0\x7d \\\\ ".toList ∧
      ∃ listing, Listing.parse (Text.unlines
          [".class public Lb;", ".super Ljava/lang/Object;", "", ".method static m()V", "    const-string v0, \"a\\\" # , \x7bv0\x7d \\\\ \"",
            "    move-object v1, v0 # \"copy", "\tnop",
            "    invoke-static \x7bv0\x7d, Lx;->m(Ljava/lang/String;)V", ".end method"]) = .ok listing ∧
        ∃ call, (chained.load listing).at? 8 = some call ∧
          (chained.load listing).constantArgument {} call 0 =
            .ok "a\\\" # , \x7bv0\x7d \\\\ " := by
  have escaped : Escaped "a\\\" # , \x7bv0\x7d \\\\ ".toList := by decide
  have headed : ∀ line ∈ [".class public Lb;", ".super Ljava/lang/Object;", ""],
      '\n' ∉ line.toList ∧ Listing.isHeader line.toList = true := by decide +kernel
  have signature : Listing.IsSignature "m()V" := by decide
  have gaps : ∀ c ∈ "    ".toList, Text.isGap c = true := List.all_eq_true.mp (by decide)
  have body : ∀ line ∈ ["    move-object v1, v0 # \"copy", "\tnop"], '\n' ∉ line.toList ∧
      ∃ entry, Listing.instruction? line.toList = some entry ∧
        ⟨.loc, 0⟩ ∉ entry.definedRegisters := by
    refine List.forall_mem_cons.mpr ⟨⟨by decide, ?_⟩, List.forall_mem_singleton.mpr ⟨by decide, ?_⟩⟩
    · exact ⟨⟨"move-object", [.reg ⟨.loc, 1⟩, .reg ⟨.loc, 0⟩]⟩, by decide +kernel, by decide +kernel⟩
    · exact ⟨⟨"nop", []⟩, by decide +kernel, by decide +kernel⟩
  obtain ⟨listing, parsed, call, found, _, _, answer⟩ :=
    constantArgument_literal chained headed signature gaps escaped body
  have start : chained.instructions.size = 5 := by decide +kernel
  rw [start] at found
  exact ⟨escaped, listing, parsed, call, found, answer⟩

end Store

end Backflow
