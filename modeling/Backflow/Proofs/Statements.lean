import Backflow.Listing.Reader
import Mathlib.Data.List.Basic

/-! # What the lines of a text say

A line counts for nothing when it is blank or stands in a block that is skipped, and whether it does
depends on all lines before it.  What the remaining lines say is taken one by one.

* `BodyLine` are the texts that read as an entry.
* `heard?` is what a line says when a block is being skipped or not, `blockAfter` the block that is
  skipped after it; `said` and `blockAtEnd` are the same for several lines.
* `Reading.step_eq` describes a step by these two.
* `kept` are the entries of the body lines that end up in a method.

A method directive forgets the method that is still open, so an entry is kept only if the next
directive about methods is the end of one (`Listing.parse_bodies`).
-/

namespace Backflow.Listing

open Backflow.Text

/-! ## One line -/

def Line.block? : Line → Option Block
  | .blockStart block => some block
  | _ => none

def Line.entry? : Line → Option Entry
  | .entry e => some e
  | _ => none

/-- A trimmed text with an entry on it: a label, a range with its handler, or an instruction. -/
inductive BodyLine (text : List Char) : Entry → Prop
  -- what follows a label is not read
  | label {name : String} (word : (cutAtBlank text).1 = name.toList)
      (colon : name.toList.head? = some ':') : BodyLine text ⟨name, []⟩
  | handler {directive : String} {operands : List Operand}
      (word : (cutAtBlank text).1 = directive.toList)
      (catches : directive = ".catch" ∨ directive = ".catchall")
      (read : Operand.readHandler? (trim (cutAtBlank text).2) = some operands) :
      BodyLine text ⟨directive, operands⟩
  | instruction {mnemonic : String} {operands : List Operand}
      (word : (cutAtBlank text).1 = mnemonic.toList)
      (noDirective : mnemonic.toList.head? ≠ some '.') (noLabel : mnemonic.toList.head? ≠ some ':')
      (read : Operand.readList? (trim (cutAtBlank text).2) = some operands) :
      BodyLine text ⟨mnemonic, operands⟩

theorem Line.ofOperands_eq_entry_iff {mnemonic : String} {operands : Option (List Operand)}
    {entry : Entry} :
    Line.ofOperands mnemonic operands = .entry entry ↔
      ∃ list, operands = some list ∧ entry = ⟨mnemonic, list⟩ := by
  cases operands <;> simp [ofOperands, eq_comm]

theorem Line.ofDirective_eq_entry_iff {directive : String} {rest : List Char} {entry : Entry} :
    Line.ofDirective directive rest = .entry entry ↔
      (directive = ".catch" ∨ directive = ".catchall") ∧
        ∃ list, Operand.readHandler? rest = some list ∧ entry = ⟨directive, list⟩ := by
  constructor
  · intro said
    simp only [ofDirective] at said
    split at said
    · cases said
    split at said
    · split at said <;> cases said
    split at said
    · split at said <;> cases said
    split at said
    · rename_i catches
      exact ⟨catches, ofOperands_eq_entry_iff.mp said⟩
    · split at said <;> cases said
  · rintro ⟨rfl | rfl, read⟩ <;>
      simpa [ofDirective] using ofOperands_eq_entry_iff.mpr read

/-- The lines that read as an entry are the body lines. -/
theorem Line.ofText_eq_entry_iff {text : List Char} {entry : Entry} :
    Line.ofText text = .entry entry ↔ BodyLine text entry := by
  constructor
  · intro said
    simp only [ofText] at said
    split at said
    · obtain ⟨catches, list, read, rfl⟩ := ofDirective_eq_entry_iff.mp said
      exact .handler String.toList_ofList.symm catches read
    · rename_i name word
      cases said
      exact .label String.toList_ofList.symm (by simp [word])
    · rename_i noDot noColon
      obtain ⟨list, read, rfl⟩ := ofOperands_eq_entry_iff.mp said
      refine .instruction String.toList_ofList.symm ?_ ?_ read <;> rw [String.toList_ofList]
      · intro dot
        obtain ⟨rest, word⟩ := List.head?_eq_some_iff.mp dot
        exact noDot rest word
      · intro colon
        obtain ⟨rest, word⟩ := List.head?_eq_some_iff.mp colon
        exact noColon rest word
  · intro body
    cases body with
    | @label name word colon =>
      obtain ⟨rest, spelled⟩ := List.head?_eq_some_iff.mp colon
      simp only [ofText, word, spelled]
      rw [← spelled, String.ofList_toList]
    | @handler directive operands word catches read =>
      have said := ofDirective_eq_entry_iff.mpr ⟨catches, operands, read, rfl⟩
      have dot : ∃ rest, directive.toList = '.' :: rest := by
        rcases catches with rfl | rfl <;> exact ⟨_, rfl⟩
      obtain ⟨rest, spelled⟩ := dot
      simp only [ofText, word, spelled]
      rw [← spelled, String.ofList_toList, said]
    | @instruction mnemonic operands word noDirective noLabel read =>
      simp only [ofText, word, String.ofList_toList]
      split
      · rename_i spelled
        exact absurd (congrArg List.head? spelled) noDirective
      · rename_i spelled
        exact absurd (congrArg List.head? spelled) noLabel
      · rw [read]
        rfl

/-- What a line says: nothing if it is blank or `block` is being skipped. -/
def heard? (block : Option Block) (raw : List Char) : Option Line :=
  if block.isSome ∨ trim (uncommented raw) = [] then none
  else some (Line.ofText (trim (uncommented raw)))

/-- The block that is being skipped after a line. -/
def blockAfter (block : Option Block) (raw : List Char) : Option Block :=
  match block with
  | some skipped => if skipped.endsAt (trim (uncommented raw)) then none else some skipped
  | none => (heard? none raw).bind Line.block?

/-! ## Several lines -/

/-- What the lines say that stand outside of skipped blocks, in order. -/
def said (block : Option Block) : List (List Char) → List Line
  | [] => []
  | raw :: rest => (heard? block raw).toList ++ said (blockAfter block raw) rest

/-- What the lines of a text say that stand outside of skipped blocks, in order. -/
def statements (text : String) : List Line :=
  said none (lines text.toList)

def blockAtEnd (text : String) : Option Block :=
  (lines text.toList).foldl blockAfter none

/-! ## Steps of the reader -/

theorem Block.endsAt_nil (block : Block) : block.endsAt [] = false := by
  cases block <;> decide

namespace Reading

variable {reading next : Reading} {raw : List Char}

theorem step_eq (reading : Reading) (raw : List Char) :
    reading.step raw = match heard? reading.block raw with
      | some line => take { reading with line := reading.line + 1 } raw line
      | none => .ok { reading with
          line := reading.line + 1, block := blockAfter reading.block raw } := by
  obtain ⟨line, className, current, block, methods⟩ := reading
  by_cases blank : trim (uncommented raw) = []
  · cases block with
    | none => simp [step, takeText, heard?, blockAfter, blank]
    | some skipped => simp [step, takeText, heard?, blockAfter, blank, Block.endsAt_nil]
  · cases block with
    | none => simp [step, takeText, heard?, blank]
    | some skipped =>
      by_cases closing : skipped.endsAt (trim (uncommented raw)) = true <;>
        simp [step, takeText, heard?, blockAfter, blank, closing]

theorem step_of_heard {line : Line} (heard : heard? reading.block raw = some line) :
    reading.step raw = take { reading with line := reading.line + 1 } raw line := by
  rw [step_eq, heard]

theorem step_of_unheard (unheard : heard? reading.block raw = none) :
    reading.step raw = .ok { reading with
      line := reading.line + 1, block := blockAfter reading.block raw } := by
  rw [step_eq, unheard]

theorem outside_of_heard {block : Option Block} {line : Line} (heard : heard? block raw = some line) :
    block = none := by
  cases block with
  | none => rfl
  | some skipped => simp [heard?] at heard

theorem take_spec {line : Line} (taken : reading.take raw line = .ok next) :
    next.line = reading.line ∧ next.block = line.block?.or reading.block := by
  cases line with
  | classDecl name => cases taken; exact ⟨rfl, rfl⟩
  | methodDecl signature => cases taken; exact ⟨rfl, rfl⟩
  | methodEnd =>
    simp only [take, close] at taken
    split at taken <;> cases taken
    exact ⟨rfl, rfl⟩
  | blockStart block => cases taken; exact ⟨rfl, rfl⟩
  | entry entry =>
    simp only [take, push] at taken
    split at taken <;> cases taken
    exact ⟨rfl, rfl⟩
  | ignored => cases taken; exact ⟨rfl, rfl⟩
  | malformed => cases taken

theorem step_spec (stepped : reading.step raw = .ok next) :
    next.line = reading.line + 1 ∧ next.block = blockAfter reading.block raw := by
  cases heard : heard? reading.block raw with
  | none =>
    rw [step_of_unheard heard] at stepped
    cases stepped
    exact ⟨rfl, rfl⟩
  | some line =>
    have outside := outside_of_heard heard
    rw [step_of_heard heard] at stepped
    obtain ⟨number, block⟩ := take_spec stepped
    refine ⟨number, ?_⟩
    rw [outside] at heard
    simp [block, outside, blockAfter, heard]

theorem foldlM_step_cons {rest : List (List Char)} :
    (raw :: rest).foldlM step reading = .ok next ↔
      ∃ middle, reading.step raw = .ok middle ∧ rest.foldlM step middle = .ok next := by
  rw [List.foldlM_cons]
  cases reading.step raw <;> simp [bind, Except.bind]

/-! ## Bodies -/

def closedEntries (reading : Reading) : List Entry :=
  reading.methods.toList.flatMap (·.body)

def openEntries (reading : Reading) : List Entry :=
  (reading.current.map fun m => m.body.toList).getD []

theorem finish_entries (reading : Reading) :
    reading.finish.methods.flatMap (·.body) = reading.closedEntries ++ reading.openEntries := by
  unfold finish closedEntries openEntries
  cases reading.current <;> simp [OpenMethod.close]

end Reading

/-- Holds when an open method is ended, by a directive or by the end of the text, before another one
is declared. -/
def endsFirst : List Line → Bool
  | [] => true
  | .methodEnd :: _ => true
  | .methodDecl _ :: _ => false
  | _ :: rest => endsFirst rest

/-- The entries of body lines whose method is ended before another one is declared. -/
def kept : List Line → List Entry
  | [] => []
  | .entry entry :: rest => if endsFirst rest then entry :: kept rest else kept rest
  | _ :: rest => kept rest

namespace Reading

variable {reading next : Reading} {raw : List Char}

/-- What is in the methods at the end, as far as it is decided: closed methods, the open one if it
will be ended, and what is still to come. -/
def entriesBefore (reading : Reading) (rest : List Line) : List Entry :=
  reading.closedEntries ++ (if endsFirst rest then reading.openEntries else []) ++ kept rest

theorem entriesBefore_start (rest : List Line) : start.entriesBefore rest = kept rest := by
  unfold entriesBefore
  split <;> rfl

theorem entriesBefore_of_take {line : Line} (rest : List Line)
    (taken : reading.take raw line = .ok next) :
    next.entriesBefore rest = reading.entriesBefore (line :: rest) := by
  cases line with
  | classDecl name => cases taken; rfl
  | methodDecl signature =>
    -- the method that was open is forgotten
    cases taken
    simp [entriesBefore, closedEntries, openEntries, endsFirst, kept]
  | methodEnd =>
    simp only [take, close] at taken
    split at taken
    · rename_i m current
      cases taken
      simp [entriesBefore, closedEntries, openEntries, endsFirst, kept, current, OpenMethod.close]
    · cases taken
  | blockStart block => cases taken; rfl
  | entry entry =>
    simp only [take, push] at taken
    split at taken
    · rename_i m current
      cases taken
      by_cases ends : endsFirst rest = true <;>
        simp [entriesBefore, closedEntries, openEntries, endsFirst, kept, current, ends]
    · cases taken
  | ignored => cases taken; rfl
  | malformed => cases taken

theorem entriesBefore_of_foldlM {texts : List (List Char)}
    (read : texts.foldlM step reading = .ok next) :
    next.finish.methods.flatMap (·.body) = reading.entriesBefore (said reading.block texts) := by
  induction texts generalizing reading with
  | nil =>
    cases read
    simp [finish_entries, entriesBefore, said, endsFirst, kept]
  | cons raw rest ih =>
    obtain ⟨middle, stepped, read⟩ := foldlM_step_cons.mp read
    rw [ih read, said, (step_spec stepped).2]
    cases heard : heard? reading.block raw with
    | none =>
      rw [step_of_unheard heard] at stepped
      cases stepped
      rfl
    | some line =>
      rw [step_of_heard heard] at stepped
      have taken := entriesBefore_of_take (said (blockAfter reading.block raw) rest) stepped
      exact taken

end Reading

/-! ## Lines that are lost -/

/-- Between a body line and a later method directive the end of a method is declared. -/
def EndsBetween (statements : List Line) : Prop :=
  ∀ before entry between signature after,
    statements = before ++ .entry entry :: (between ++ .methodDecl signature :: after) →
      .methodEnd ∈ between

theorem endsFirst_cons {line : Line} (noEnd : line ≠ .methodEnd)
    (noDecl : ∀ signature, line ≠ .methodDecl signature) (rest : List Line) :
    endsFirst (line :: rest) = endsFirst rest := by
  cases line with
  | methodEnd => exact absurd rfl noEnd
  | methodDecl signature => exact absurd rfl (noDecl signature)
  | _ => rfl

theorem endsFirst_iff {rest : List Line} :
    endsFirst rest = true ↔ ∀ between signature after,
      rest = between ++ .methodDecl signature :: after → .methodEnd ∈ between := by
  induction rest with
  | nil => simp [endsFirst]
  | cons line rest ih =>
    by_cases ending : line = .methodEnd
    · subst ending
      refine ⟨fun _ between signature after split => ?_, fun _ => rfl⟩
      cases between with
      | nil => cases split
      | cons head tail =>
        cases split
        exact .head _
    by_cases declaring : ∃ signature, line = .methodDecl signature
    · obtain ⟨signature, rfl⟩ := declaring
      refine ⟨(by cases ·), fun all => ?_⟩
      exact absurd (all [] signature rest rfl) List.not_mem_nil
    · rw [endsFirst_cons ending (not_exists.mp declaring), ih]
      constructor
      · intro all between signature after split
        cases between with
        | nil =>
          cases split
          exact absurd ⟨signature, rfl⟩ declaring
        | cons head tail =>
          cases split
          exact .tail _ (all tail signature after rfl)
      · intro all between signature after split
        have member := all (line :: between) signature after (by rw [split]; rfl)
        simpa [Ne.symm ending] using member

theorem endsBetween_cons {line : Line} {rest : List Line} :
    EndsBetween (line :: rest) ↔
      (∀ entry, line = .entry entry → endsFirst rest = true) ∧ EndsBetween rest := by
  constructor
  · intro ends
    constructor
    · rintro entry rfl
      exact endsFirst_iff.mpr fun between signature after split =>
        ends [] entry between signature after (by rw [split]; rfl)
    · intro before entry between signature after split
      exact ends (line :: before) entry between signature after (by rw [split]; rfl)
  · rintro ⟨first, others⟩ before entry between signature after split
    cases before with
    | nil =>
      cases split
      exact endsFirst_iff.mp (first entry rfl) between signature after rfl
    | cons head tail =>
      cases split
      exact others tail entry between signature after rfl

theorem length_kept_le (statements : List Line) :
    (kept statements).length ≤ (statements.filterMap Line.entry?).length := by
  induction statements with
  | nil => simp [kept]
  | cons line rest ih =>
    cases line with
    | entry entry =>
      by_cases ends : endsFirst rest = true <;> simp [kept, ends, Line.entry?] <;> omega
    | _ => simpa [kept, List.filterMap_cons, Line.entry?] using ih

/-- No entry is lost exactly if no method is declared while one with entries is open. -/
theorem kept_eq_iff (statements : List Line) :
    kept statements = statements.filterMap Line.entry? ↔ EndsBetween statements := by
  induction statements with
  | nil => simp [kept, EndsBetween]
  | cons line rest ih =>
    rw [endsBetween_cons, ← ih]
    cases line with
    | entry entry =>
      by_cases ends : endsFirst rest = true
      · simp [kept, ends, Line.entry?]
      · -- one entry less than there are lines
        have short := length_kept_le rest
        have differ : kept rest ≠ entry :: rest.filterMap Line.entry? := by
          intro same
          rw [same, List.length_cons] at short
          omega
        simp [kept, ends, Line.entry?, differ]
    | _ => simp [kept, List.filterMap_cons, Line.entry?]

theorem exists_reading {text : String} {listing : Listing} (parsed : parse text = .ok listing) :
    ∃ reading, (lines text.toList).foldlM Reading.step Reading.start = .ok reading ∧
      reading.finish = listing := by
  unfold parse at parsed
  cases read : (lines text.toList).foldlM Reading.step Reading.start with
  | error error =>
    rw [read] at parsed
    cases parsed
  | ok reading =>
    rw [read] at parsed
    cases parsed
    exact ⟨reading, rfl, rfl⟩

/-- The bodies of a listing hold, in order, the entries of the body lines of its text, each of them
once, as long as the method that a line stands in is ended before another one is declared.  Nothing
is missing exactly if this is so for all of them. -/
theorem parse_bodies {text : String} {listing : Listing} (parsed : parse text = .ok listing) :
    listing.methods.flatMap (·.body) = kept (statements text) ∧
      (listing.methods.flatMap (·.body) = (statements text).filterMap Line.entry? ↔
        EndsBetween (statements text)) := by
  obtain ⟨reading, read, rfl⟩ := exists_reading parsed
  have bodies : reading.finish.methods.flatMap (·.body) = kept (statements text) :=
    (Reading.entriesBefore_of_foldlM read).trans (Reading.entriesBefore_start _)
  exact ⟨bodies, bodies ▸ kept_eq_iff (statements text)⟩

/-- A switch table inside of a method that only the end of the text closes. -/
def switched : String :=
  ".method m()V\n:a\n.packed-switch 0x0\n:b\n.end packed-switch\nnop # one"

/-- The label in the table is not a body line; the other two lines are kept. -/
theorem parse_bodies_switched :
    ∃ listing, parse switched = .ok listing ∧
      listing.methods.flatMap (·.body) = [⟨":a", []⟩, ⟨"nop", []⟩] ∧
      listing.methods.flatMap (·.body) = (statements switched).filterMap Line.entry? ∧
      EndsBetween (statements switched) := by
  have parsed : parse switched =
      .ok ⟨[⟨"->m()V", [⟨":a", []⟩, ⟨"nop", []⟩]⟩], some "->m()V"⟩ := by decide +kernel
  have said : statements switched = [.methodDecl "m()V", .entry ⟨":a", []⟩,
      .blockStart .packedSwitch, .entry ⟨"nop", []⟩] := by decide +kernel
  obtain ⟨bodies, complete⟩ := parse_bodies parsed
  have all : kept (statements switched) = (statements switched).filterMap Line.entry? := by
    rw [said]
    rfl
  exact ⟨_, parsed, rfl, bodies.trans all, complete.mp (bodies.trans all)⟩

/-- A method that is declared while another one is open. -/
def abandoned : String :=
  ".class La;\n.method a()V\nnop\n.method b()V\nreturn-void\n.end method\n"

/-- The first method of `abandoned` is missing, with the body line in it. -/
theorem parse_bodies_abandoned :
    ∃ listing, parse abandoned = .ok listing ∧
      listing.methods.flatMap (·.body) ≠ (statements abandoned).filterMap Line.entry? := by
  have parsed : parse abandoned = .ok ⟨[⟨"La;->b()V", [⟨"return-void", []⟩]⟩], none⟩ := by
    decide +kernel
  have said : statements abandoned = [.classDecl "La;", .methodDecl "a()V", .entry ⟨"nop", []⟩,
      .methodDecl "b()V", .entry ⟨"return-void", []⟩, .methodEnd] := by decide +kernel
  refine ⟨_, parsed, ?_⟩
  rw [said]
  decide

end Backflow.Listing
