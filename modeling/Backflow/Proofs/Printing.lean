import Backflow.Instruction
import Backflow.Proofs.Statements
import Backflow.Proofs.Writing

/-! # Printed instructions

An entry of a listing is printed as its mnemonic and its operands, and the printed line is read as the
same entry.  That the operands come back is one half of it (`Operand.readList?_render`).  The other
half is that nothing of the line is taken for a comment: a stray quote in a mnemonic or a token puts
the rest of the line inside of a literal for the scanner of comments, and a `#` there is no comment as
long as the quotes before it are counted as they were.

* `Quoting.after` is the place at the end of a text, `Clean` says that no comment starts in it.
* Printing drops and adds blanks only next to a blank, a comma or an end, where they make no
  difference but to a backslash in front of them.  `Quoting.settled` forgets that difference.
* `readOperand?_clean` carries this over one operand, `readList?_clean` over a list.
* `Printable` is what the printed line of an entry needs; `printable_of_line` gives it for what a line
  reads as, and `Printable.ofText_printed` is what follows from it.
* `parse_printed` is about every entry of a listing.
-/

namespace Backflow.Listing

open Backflow.Text

/-! ## Places -/

/-- Where the character behind a text stands. -/
def Quoting.after (place : Quoting) (text : List Char) : Quoting :=
  text.foldl Quoting.next place

/-- The place behind a character that is neither a quote nor a backslash. -/
def Quoting.settled : Quoting → Quoting
  | .escape => .inside
  | place => place

/-- No comment starts in a text that starts at the given place. -/
def Clean (place : Quoting) (text : List Char) : Prop :=
  uncommentedFrom place text = text

/-- A character that starts no comment and neither opens, closes nor escapes anything. -/
def Inert (c : Char) : Prop :=
  c ≠ '#' ∧ c ≠ '"' ∧ c ≠ '\\'

instance (c : Char) : Decidable (Inert c) :=
  inferInstanceAs (Decidable (_ ∧ _))

@[simp] theorem Quoting.after_nil (place : Quoting) : place.after [] = place := rfl

@[simp] theorem Quoting.after_cons (place : Quoting) (c : Char) (text : List Char) :
    place.after (c :: text) = (place.next c).after text := rfl

@[simp] theorem Quoting.after_append (place : Quoting) (first second : List Char) :
    place.after (first ++ second) = (place.after first).after second :=
  List.foldl_append

@[simp] theorem Quoting.settled_settled (place : Quoting) : place.settled.settled = place.settled := by
  cases place <;> rfl

theorem Quoting.next_inert {c : Char} (inert : Inert c) (place : Quoting) :
    place.next c = place.settled := by
  cases place <;> simp [next, settled, inert.2.1, inert.2.2]

theorem Quoting.settled_after {text : List Char} (inert : ∀ c ∈ text, Inert c) (place : Quoting) :
    (place.after text).settled = place.settled := by
  induction text generalizing place with
  | nil => rfl
  | cons c text ih =>
    rw [after_cons, ih fun d member => inert d (.tail _ member), next_inert (inert c (.head _)),
      settled_settled]

theorem Quoting.after_settled {text : List Char} (inert : ∀ c ∈ text, Inert c) (place : Quoting) :
    place.settled.after text = place.settled := by
  induction text with
  | nil => rfl
  | cons c text ih =>
    rw [after_cons, next_inert (inert c (.head _)), settled_settled,
      ih fun d member => inert d (.tail _ member)]

/-! ## Texts without comments -/

theorem clean_cons {place : Quoting} {c : Char} {text : List Char} :
    Clean place (c :: text) ↔ ¬(place = .outside ∧ c = '#') ∧ Clean (place.next c) text := by
  by_cases comment : place = .outside ∧ c = '#' <;> simp [Clean, uncommentedFrom, comment]

theorem clean_append {place : Quoting} {first second : List Char} :
    Clean place (first ++ second) ↔ Clean place first ∧ Clean (place.after first) second := by
  induction first generalizing place with
  | nil => simp [Clean, uncommentedFrom]
  | cons c first ih => rw [List.cons_append, clean_cons, clean_cons, ih, and_assoc, Quoting.after_cons]

theorem clean_inert {text : List Char} (inert : ∀ c ∈ text, Inert c) (place : Quoting) :
    Clean place text :=
  uncommentedFrom_of_notMem (fun comment => (inert _ comment).1 rfl) place

theorem clean_uncommentedFrom (place : Quoting) (text : List Char) :
    Clean place (uncommentedFrom place text) := by
  induction text generalizing place with
  | nil => rfl
  | cons c text ih =>
    unfold uncommentedFrom
    split
    · rfl
    · rename_i noComment
      exact clean_cons.mpr ⟨noComment, ih (place.next c)⟩

theorem uncommentedFrom_append {place : Quoting} {first : List Char} (clean : Clean place first)
    (second : List Char) :
    uncommentedFrom place (first ++ second) =
      first ++ uncommentedFrom (place.after first) second := by
  induction first generalizing place with
  | nil => rfl
  | cons c first ih =>
    obtain ⟨noComment, later⟩ := clean_cons.mp clean
    simp [uncommentedFrom, noComment, ih later]

/-- Behind an inert character only what is settled counts. -/
theorem clean_inert_cons {c : Char} (inert : Inert c) {place : Quoting} {text : List Char} :
    Clean place (c :: text) ↔ Clean place.settled text := by
  rw [clean_cons, Quoting.next_inert inert]
  simp [inert.1]

theorem clean_inert_append {gap : List Char} (inert : ∀ c ∈ gap, Inert c) {place : Quoting}
    {text : List Char} : Clean place.settled (gap ++ text) ↔ Clean place.settled text := by
  rw [clean_append, Quoting.after_settled inert]
  simp [clean_inert inert]

theorem inert_of_isBlank {c : Char} (blank : isBlank c = true) : Inert c := by
  refine ⟨?_, ?_, ?_⟩ <;> rintro rfl <;> revert blank <;> decide

theorem inert_of_isPlain {c : Char} (plain : Operand.isPlain c = true) : Inert c := by
  refine ⟨?_, ?_, ?_⟩ <;> rintro rfl <;> revert plain <;> decide

/-- Blanks at the ends of a text can be left out, if it does not start behind a backslash. -/
theorem Clean.trim {place : Quoting} {text : List Char} (clean : Clean place.settled text) :
    Clean place.settled (trim text) := by
  obtain ⟨before, after, split, blank, _⟩ := exists_trim text
  rw [split, clean_inert_append fun c member => inert_of_isBlank (blank c member),
    clean_append] at clean
  exact clean.1

/-! ## One operand -/

open Operand

/-- A group is printed with plain characters, since it is read from what is printed. -/
theorem isPlain_group {operand : Operand} (group : operand.IsGroup) {c : Char}
    (member : c ∈ operand.render.toList) : isPlain c = true := by
  have read : readGroup? (operand.render.toList ++ []) = some (operand, []) := by
    rcases group with ⟨first, last, rfl⟩ | ⟨registers, rfl⟩
    · exact readGroup?_range first last []
    · exact readGroup?_list registers []
  obtain ⟨_, passed, split, plain⟩ := readGroup?_spec read
  rw [List.append_nil, List.append_nil] at split
  exact plain c (split ▸ member)

theorem isPlain_register {r : Register} {c : Char} (member : c ∈ r.render.toList) :
    isPlain c = true := by
  rcases Register.eq_or_of_mem_render member with rfl | rfl | digit
  · decide
  · decide
  · simp [isPlain, digit]

theorem isPlain_of_readDecimal? {largest n : Nat} {text : List Char}
    (read : readDecimal? largest text = some n) {c : Char} (member : c ∈ text) : isPlain c = true := by
  have plain : c.isDigit = true → isPlain c = true := by simp +contextual [isPlain]
  unfold readDecimal? at read
  split at read
  · simp at read
    cases member with
    | head => decide
    | tail _ member => exact plain (read.1.2 c member)
  · simp at read
    exact plain (read.1.2 c member)

theorem ofChars?_of_classify {token : List Char} {r : Register} (named : classify token = .reg r) :
    Register.ofChars? token = some r := by
  unfold classify at named
  split at named
  · cases named
  · split at named
    · rename_i found
      cases named
      exact found
    · -- what is no register is a member, a number or a type
      unfold classifyReference at named
      split at named
      · split at named <;> cases named
      · split at named
        · split at named <;> cases named
        · cases named

theorem isPlain_of_ofIndexText? {kind : RegisterKind} {digits : List Char} {r : Register}
    (read : Register.ofIndexText? kind digits = some r) : ∀ c ∈ digits, isPlain c = true := by
  obtain ⟨n, read, _⟩ := Option.map_eq_some_iff.mp read
  exact fun c member => isPlain_of_readDecimal? read member

/-- A token that names a register has plain characters only. -/
theorem isPlain_of_classify {token : List Char} {r : Register} (named : classify token = .reg r) :
    ∀ c ∈ token, isPlain c = true := by
  have found := ofChars?_of_classify named
  unfold Register.ofChars? at found
  split at found
  · exact List.forall_mem_cons.mpr ⟨by decide, isPlain_of_ofIndexText? found⟩
  · exact List.forall_mem_cons.mpr ⟨by decide, isPlain_of_ofIndexText? found⟩
  · cases found

/-- What is printed for an operand has no comment if what it was read from has none, and it leads to
the same place. -/
theorem readOperand?_clean {text rest : List Char} {operand : Operand}
    (read : readOperand? text = some (operand, rest)) {place : Quoting}
    (clean : Clean place.settled text) :
    ∃ passed, text = passed ++ rest ∧ Clean place.settled operand.render.toList ∧
      (place.settled.after operand.render.toList).settled = (place.settled.after passed).settled := by
  rcases readOperand?_cases read with group | literal | bare
  · obtain ⟨isGroup, passed, split, plain⟩ := readGroup?_spec group
    have printed : ∀ c ∈ operand.render.toList, Inert c := fun c member =>
      inert_of_isPlain (isPlain_group isGroup member)
    have inert : ∀ c ∈ passed, Inert c := fun c member => inert_of_isPlain (plain c member)
    exact ⟨passed, split, clean_inert printed _,
      by rw [Quoting.settled_after printed, Quoting.settled_after inert]⟩
  · -- a literal is printed as it stands
    obtain ⟨content, _, _, split⟩ := readQuoted?_spec literal
    exact ⟨_, split, (clean_append.mp (split ▸ clean)).1, rfl⟩
  · obtain ⟨token, isBare, rfl, spelled, rfl⟩ := isBare_of_readBare? bare
    have split : text = text.takeWhile (· != ',') ++ text.dropWhile (· != ',') :=
      List.takeWhile_append_dropWhile.symm
    refine ⟨_, split, ?_⟩
    rw [split, clean_append] at clean
    -- the blanks around the token are gone, and the place behind it is the same but for a backslash
    have tokenClean : Clean place.settled token := spelled ▸ clean.1.trim
    have tokenPlace : (place.settled.after token).settled =
        (place.settled.after (text.takeWhile (· != ','))).settled := by
      obtain ⟨before, after, blanks, blank, blank'⟩ := exists_trim (text.takeWhile (· != ','))
      rw [blanks, ← spelled, Quoting.after_append, Quoting.after_append,
        Quoting.after_settled fun c member => inert_of_isBlank (blank c member),
        Quoting.settled_after fun c member => inert_of_isBlank (blank' c member)]
    rcases render_classify token with ⟨r, named⟩ | same
    · -- a register may be spelled in another way, but neither spelling has a quote in it
      have printed : ∀ c ∈ r.render.toList, Inert c := fun c member =>
        inert_of_isPlain (isPlain_register member)
      have inert : ∀ c ∈ token, Inert c := fun c member =>
        inert_of_isPlain (isPlain_of_classify named c member)
      rw [named, ← tokenPlace, Quoting.settled_after inert]
      exact ⟨clean_inert printed _, Quoting.settled_after printed _⟩
    · rw [same]
      exact ⟨tokenClean, tokenPlace⟩

/-! ## Lists of operands -/

theorem inert_skipGap (text : List Char) :
    ∃ gap, text = gap ++ skipGap text ∧ ∀ c ∈ gap, Inert c := by
  obtain ⟨gap, split, plain⟩ := passesPlain_skipGap text
  exact ⟨gap, split, fun c member => inert_of_isPlain (plain c member)⟩

/-- The same for the operands behind the first one.  The printed list may start at another place than
the list that was read, as long as the comma makes up for the difference. -/
theorem readMoreOperands?_clean {text : List Char} {operands : List Operand}
    (read : readMoreOperands? text = some operands) {place printed : Quoting}
    (same : printed.settled = place.settled) (clean : Clean place text) :
    Clean printed (operands.flatMap fun o => ',' :: ' ' :: o.render.toList) := by
  have comma : Inert ',' := by decide
  have space : Inert ' ' := by decide
  fun_induction readMoreOperands? text generalizing operands place printed with
  | case1 =>
    cases read
    exact clean_inert (by simp) _
  | case2 text rest gap first rest' found ih =>
    obtain ⟨others, more, rfl⟩ := Option.map_eq_some_iff.mp read
    obtain ⟨before, split, inert⟩ := inert_skipGap text
    obtain ⟨between, split', inert'⟩ := inert_skipGap rest
    -- the comma settles the place, so the next operand starts where it started before
    rw [split, gap, split', clean_append, clean_inert_cons comma, Quoting.settled_after inert,
      clean_inert_append inert'] at clean
    obtain ⟨passed, passes, firstClean, samePlace⟩ := readOperand?_clean found clean.2
    rw [passes, clean_append] at clean
    have othersClean := ih more samePlace clean.2.2
    rw [List.flatMap_cons, List.cons_append, List.cons_append, clean_inert_cons comma,
      clean_inert_cons space, Quoting.settled_settled, same, clean_append]
    exact ⟨firstClean, othersClean⟩
  | case3 => cases read
  | case4 => cases read

theorem readList?_clean {text : List Char} {operands : List Operand}
    (read : readList? text = some operands) {place : Quoting} (clean : Clean place.settled text) :
    Clean place.settled (renderList operands).toList := by
  unfold readList? at read
  split at read
  · rename_i first rest found
    obtain ⟨others, more, rfl⟩ := Option.map_eq_some_iff.mp read
    obtain ⟨passed, passes, firstClean, samePlace⟩ := readOperand?_clean found clean
    rw [passes, clean_append] at clean
    rw [toList_renderList_cons, clean_append]
    exact ⟨firstClean, readMoreOperands?_clean more samePlace clean.2⟩
  · split at read <;> cases read
    rfl

/-! ## Characters -/

/-- An operand is printed with plain characters and those that it was read from. -/
theorem mem_of_mem_render {text rest : List Char} {operand : Operand}
    (read : readOperand? text = some (operand, rest)) {c : Char}
    (member : c ∈ operand.render.toList) : isPlain c = true ∨ c ∈ text := by
  rcases readOperand?_cases read with group | literal | bare
  · exact .inl (isPlain_group (readGroup?_spec group).1 member)
  · obtain ⟨content, _, _, split⟩ := readQuoted?_spec literal
    exact .inr (split ▸ List.mem_append_left rest member)
  · obtain ⟨token, _, rfl, spelled, _⟩ := isBare_of_readBare? bare
    rcases render_classify token with ⟨r, named⟩ | same
    · exact .inl (isPlain_register (r := r) (by simpa [named, render] using member))
    · rw [same, spelled] at member
      exact .inr (List.takeWhile_subset _ (trim_subset _ member))

theorem mem_of_mem_renderList {text : List Char} {operands : List Operand}
    (read : readList? text = some operands) {c : Char}
    (member : c ∈ (renderList operands).toList) : isPlain c = true ∨ c ∈ text := by
  have one : ∀ operand ∈ operands, c ∈ operand.render.toList → isPlain c = true ∨ c ∈ text := by
    intro operand listed inside
    obtain ⟨part, rest, suffix, found⟩ := exists_of_readList? read listed
    exact (mem_of_mem_render found inside).imp_right (suffix.subset ·)
  cases operands with
  | nil => cases member
  | cons operand operands =>
    rw [toList_renderList_cons, List.mem_append, List.mem_flatMap] at member
    rcases member with inside | ⟨other, listed, separated⟩
    · exact one operand (.head _) inside
    · simp only [List.mem_cons] at separated
      rcases separated with rfl | rfl | inside
      · exact .inl (by decide)
      · exact .inl (by decide)
      · exact one other (.tail _ listed) inside

theorem uncommentedFrom_subset (place : Quoting) (text : List Char) :
    uncommentedFrom place text ⊆ text := by
  induction text generalizing place with
  | nil => exact List.Subset.refl _
  | cons c text ih =>
    unfold uncommentedFrom
    split
    · exact List.nil_subset _
    · exact List.cons_subset_cons c (ih (place.next c))

/-! ## Lines -/

def printed (entry : Entry) : List Char :=
  entry.mnemonic.toList ++ (Instruction.renderOperands entry.operands).toList

/-- An entry that its printed line reads as. -/
structure Printable (entry : Entry) : Prop where
  nonempty : entry.mnemonic.toList ≠ []
  oneWord : ∀ c ∈ entry.mnemonic.toList, isBlank c = false
  noDirective : entry.mnemonic.toList.head? ≠ some '.'
  label : entry.mnemonic.toList.head? = some ':' → entry.operands = []
  written : ∀ operand ∈ entry.operands, operand.Written
  clean : Clean .outside (printed entry)
  oneLine : '\n' ∉ printed entry

theorem toList_render (address : Address) (method : Nat) (entry : Entry) :
    (Instruction.mk address method entry.mnemonic entry.operands).render.toList = printed entry :=
  String.toList_append

theorem printed_nil (mnemonic : String) : printed ⟨mnemonic, []⟩ = mnemonic.toList := by
  simp [printed, Instruction.renderOperands]

theorem printed_cons (mnemonic : String) (operand : Operand) (operands : List Operand) :
    printed ⟨mnemonic, operand :: operands⟩ =
      mnemonic.toList ++ ' ' :: (renderList (operand :: operands)).toList := by
  simp [printed, Instruction.renderOperands, renderList]

theorem firm_renderList {operand : Operand} {operands : List Operand}
    (written : ∀ o ∈ operand :: operands, o.Written) :
    Firm (renderList (operand :: operands)).toList := by
  rw [toList_renderList_cons]
  induction operands generalizing operand with
  | nil => simpa using firm_render (written operand (.head _))
  | cons next operands ih =>
    have first := firm_render (written operand (.head _))
    exact first.append [',', ' '] (ih fun o listed => written o (.tail _ listed))

theorem trim_renderList {operands : List Operand} (written : ∀ o ∈ operands, o.Written) :
    trim (renderList operands).toList = (renderList operands).toList := by
  cases operands with
  | nil => rfl
  | cons operand operands => exact (firm_renderList written).trim_eq

namespace Printable

variable {entry : Entry}

theorem firm (printable : Printable entry) : Firm (printed entry) := by
  obtain ⟨mnemonic, operands⟩ := entry
  have word := firm_of_forall printable.nonempty printable.oneWord
  cases operands with
  | nil => exact printed_nil mnemonic ▸ word
  | cons operand operands =>
    rw [printed_cons]
    exact word.append [' '] (firm_renderList printable.written)

theorem cutAtBlank_printed (printable : Printable entry) :
    cutAtBlank (printed entry) = (entry.mnemonic.toList, (renderList entry.operands).toList) := by
  obtain ⟨mnemonic, operands⟩ := entry
  cases operands with
  | nil =>
    have whole : ∀ c ∈ mnemonic.toList, (!isBlank c) = true := fun c member => by
      simp [printable.oneWord c member]
    have cut := takeWhile_run whole (endsRun_nil _)
    have none := dropWhile_run whole (endsRun_nil _)
    rw [List.append_nil] at cut none
    rw [printed_nil, cutAtBlank, cut, none]
    rfl
  | cons operand operands => exact printed_cons .. ▸ cutAtBlank_word printable.oneWord (by decide) _

theorem ofText_printed (printable : Printable entry) : Line.ofText (printed entry) = .entry entry := by
  have read := readList?_render printable.written
  simp only [Line.ofText, printable.cutAtBlank_printed, trim_renderList printable.written, read]
  split
  · rename_i spelled
    exact absurd (by rw [spelled]; rfl) printable.noDirective
  · rename_i spelled
    have none := printable.label (by rw [spelled]; rfl)
    rw [String.ofList_toList, ← none]
  · rw [String.ofList_toList]
    rfl

theorem trim_uncommented_printed (printable : Printable entry) :
    trim (uncommented (printed entry)) = printed entry := by
  rw [uncommented, printable.clean, printable.firm.trim_eq]

end Printable

/-! ## Where an entry comes from -/

theorem newline_notMem_of_mem_linesFrom {current text line : List Char} (oneLine : '\n' ∉ current)
    (member : line ∈ linesFrom current text) : '\n' ∉ line := by
  induction text generalizing current with
  | nil =>
    simp only [linesFrom] at member
    split at member
    · cases member
    · rw [List.mem_singleton.mp member]
      simpa using oneLine
  | cons c text ih =>
    simp only [linesFrom] at member
    split at member
    · rcases List.mem_cons.mp member with rfl | later
      · -- the line under way, without a carriage return at its end
        have closed := closeLine_cases current.reverse
        rw [List.reverse_reverse] at closed
        intro inside
        rcases closed with same | ended
        · exact oneLine (by simpa [same] using inside)
        · exact oneLine (List.mem_reverse.mp (ended ▸ List.mem_append_left _ inside))
      · exact ih List.not_mem_nil later
    · rename_i other
      exact ih (by simp [Ne.symm other, oneLine]) member

theorem mem_of_mem_kept {statements : List Line} {entry : Entry} (member : entry ∈ kept statements) :
    .entry entry ∈ statements := by
  fun_induction kept statements with
  | case1 => cases member
  | case2 first rest _ ih =>
    rcases List.mem_cons.mp member with rfl | later
    · exact .head _
    · exact .tail _ (ih later)
  | case3 first rest _ ih => exact .tail _ (ih member)
  | case4 first rest _ ih => exact .tail _ (ih member)

theorem exists_of_mem_said {block : Option Block} {raws : List (List Char)} {line : Line}
    (member : line ∈ said block raws) :
    ∃ raw ∈ raws, trim (uncommented raw) ≠ [] ∧ Line.ofText (trim (uncommented raw)) = line := by
  induction raws generalizing block with
  | nil => cases member
  | cons raw raws ih =>
    rw [said, List.mem_append, Option.mem_toList] at member
    rcases member with heard | later
    · have spoken : ¬(block.isSome = true ∨ trim (uncommented raw) = []) := fun silent => by
        simp [heard?, silent] at heard
      rw [heard?, if_neg spoken] at heard
      exact ⟨raw, .head _, fun blank => spoken (.inr blank), Option.some.inj heard⟩
    · obtain ⟨other, listed, found⟩ := ih later
      exact ⟨other, .tail _ listed, found⟩

/-- Every entry of a listing is what one of the lines of its text reads as. -/
theorem exists_line {text : String} {listing : Listing} (parsed : parse text = .ok listing)
    {m : Method} (isMethod : m ∈ listing.methods) {entry : Entry} (member : entry ∈ m.body) :
    ∃ raw, '\n' ∉ raw ∧ trim (uncommented raw) ≠ [] ∧
      Line.ofText (trim (uncommented raw)) = .entry entry := by
  obtain ⟨reading, read, rfl⟩ := exists_reading parsed
  have listed : entry ∈ kept (said none (lines text.toList)) := by
    have entries := Reading.entriesBefore_of_foldlM read
    rw [Reading.entriesBefore_start] at entries
    exact entries ▸ List.mem_flatMap.mpr ⟨m, isMethod, member⟩
  obtain ⟨raw, found, spoken, reads⟩ := exists_of_mem_said (mem_of_mem_kept listed)
  exact ⟨raw, newline_notMem_of_mem_linesFrom List.not_mem_nil found, spoken, reads⟩

/-- The first word of a line that reads as an entry is its mnemonic.  The rest of the line is its
operands, except behind a label, which has none. -/
theorem ofText_entry {text : List Char} {entry : Entry} (said : Line.ofText text = .entry entry)
    (noDirective : entry.mnemonic.toList.head? ≠ some '.') :
    entry.mnemonic.toList = (cutAtBlank text).1 ∧
      (entry.operands = [] ∨ entry.mnemonic.toList.head? ≠ some ':' ∧
        readList? (trim (cutAtBlank text).2) = some entry.operands) := by
  cases Line.ofText_eq_entry_iff.mp said with
  | label word colon => exact ⟨word.symm, .inl rfl⟩
  | handler word catches read =>
    refine absurd ?_ noDirective
    rcases catches with rfl | rfl <;> simp
  | instruction word _ noLabel read => exact ⟨word.symm, .inr ⟨noLabel, read⟩⟩

/-- Cutting a line at its first blank leaves no comment in either part. -/
theorem Clean.cutAtBlank {place : Quoting} {text : List Char} (clean : Clean place text) :
    Clean place (cutAtBlank text).1 ∧
      Clean (place.after (cutAtBlank text).1).settled (cutAtBlank text).2 := by
  have split : text.takeWhile (!isBlank ·) ++ text.dropWhile (!isBlank ·) = text :=
    List.takeWhile_append_dropWhile
  have stops := endsRun_dropWhile (!isBlank ·) text
  rw [← split, clean_append] at clean
  refine ⟨clean.1, ?_⟩
  simp only [Text.cutAtBlank]
  cases rest : text.dropWhile (!isBlank ·) with
  | nil => exact clean_inert (by simp) _
  | cons blank later =>
    rw [rest] at clean stops
    have inert : Inert blank := inert_of_isBlank (by simpa using stops blank rfl)
    exact (clean_inert_cons inert).mp clean.2

/-- What a line of a text reads as can be printed, directives apart. -/
theorem printable_of_line {raw : List Char} {entry : Entry} (oneLine : '\n' ∉ raw)
    (nonempty : trim (uncommented raw) ≠ [])
    (said : Line.ofText (trim (uncommented raw)) = .entry entry)
    (noDirective : entry.mnemonic.toList.head? ≠ some '.') : Printable entry := by
  obtain ⟨mnemonic, operands⟩ := entry
  obtain ⟨word, others⟩ := ofText_entry said noDirective
  have firm := firm_trim nonempty
  have clean : Clean Quoting.outside.settled (trim (uncommented raw)) :=
    (clean_uncommentedFrom Quoting.outside.settled raw).trim
  have noNewline : '\n' ∉ trim (uncommented raw) := fun inside =>
    oneLine (uncommentedFrom_subset _ _ (trim_subset _ inside))
  -- from here on only the text between the blanks and the comment matters
  generalize trim (uncommented raw) = line at word others firm clean noNewline
  obtain ⟨wordClean, restClean⟩ := clean.cutAtBlank
  rw [← word] at wordClean restClean
  have oneWord : ∀ c ∈ mnemonic.toList, isBlank c = false := by
    intro c member
    have kept : (!isBlank c) = true := List.all_eq_true.mp List.all_takeWhile c (word ▸ member)
    simpa using kept
  have wordOneLine : '\n' ∉ mnemonic.toList := fun inside => by
    simpa using (oneWord _ inside).symm.trans (by decide : isBlank '\n' = true)
  refine ⟨fun empty => ?_, oneWord, noDirective, fun colon => ?_, ?_, ?_, ?_⟩
  · -- a line does not start with a blank
    obtain ⟨c, line, rfl⟩ := List.exists_cons_of_ne_nil firm.nonempty
    have start := firm.first c rfl
    rw [empty, cutAtBlank, List.takeWhile_cons_of_pos (by simp [start])] at word
    cases word
  · exact others.resolve_right fun instruction => instruction.1 colon
  · rcases others with rfl | ⟨_, read⟩
    · exact fun _ listed => absurd listed List.not_mem_nil
    · exact written_of_readList? read
  · cases operands with
    | nil => exact printed_nil mnemonic ▸ wordClean
    | cons operand operands =>
      obtain ⟨_, read⟩ := others.resolve_left (List.cons_ne_nil _ _)
      rw [printed_cons, clean_append, clean_inert_cons (by decide)]
      exact ⟨wordClean, readList?_clean read restClean.trim⟩
  · cases operands with
    | nil => exact printed_nil mnemonic ▸ wordOneLine
    | cons operand operands =>
      obtain ⟨_, read⟩ := others.resolve_left (List.cons_ne_nil _ _)
      rw [printed_cons]
      intro inside
      -- a line feed would be in the mnemonic or in what the operands were read from
      rcases List.mem_append.mp inside with inside | inside
      · exact wordOneLine inside
      · rcases mem_of_mem_renderList read (List.mem_of_ne_of_mem (by decide) inside) with plain | inside
        · revert plain
          decide
        · exact noNewline (List.dropWhile_subset _ (List.drop_subset _ _ (trim_subset _ inside)))

/-! ## Comments behind a printed line -/

def isToken : Operand → Bool
  | .regRange _ _ | .regList _ | .str _ => false
  | _ => true

/-- Every quote in the printed line opens or closes a literal. -/
def OnlyLiteralQuotes (entry : Entry) : Prop :=
  '"' ∉ entry.mnemonic.toList ∧
    ∀ operand ∈ entry.operands, isToken operand = true → '"' ∉ operand.render.toList

instance (entry : Entry) : Decidable (OnlyLiteralQuotes entry) :=
  inferInstanceAs (Decidable (_ ∧ _))

theorem Quoting.after_outside {text : List Char} (noQuote : '"' ∉ text) :
    Quoting.outside.after text = .outside := by
  induction text with
  | nil => rfl
  | cons c text ih =>
    have other : c ≠ '"' := fun same => noQuote (same ▸ .head _)
    rw [after_cons, next, if_neg other, ih fun member => noQuote (.tail _ member)]

theorem Quoting.after_inside {content : List Char} (quotable : Quotable content) :
    Quoting.inside.after content = .inside := by
  induction quotable with
  | nil => rfl
  | plain noBackslash noQuote _ ih => simp [next, noBackslash, noQuote, ih]
  | pair _ ih => simp [next, ih]

theorem after_render {operand : Operand} (written : operand.Written)
    (noQuote : isToken operand = true → '"' ∉ operand.render.toList) :
    Quoting.outside.after operand.render.toList = .outside := by
  have group : operand.IsGroup → Quoting.outside.after operand.render.toList = .outside :=
    fun isGroup => Quoting.after_outside fun quote => by
      simpa [isPlain] using isPlain_group isGroup quote
  cases operand with
  | regRange first last => exact group (.inl ⟨first, last, rfl⟩)
  | regList registers => exact group (.inr ⟨registers, rfl⟩)
  | str content =>
    have inside := Quoting.after_inside (show Quotable content.toList from written)
    simp [render, Quoting.next, inside]
  | _ => exact Quoting.after_outside (noQuote rfl)

theorem after_operands {operands : List Operand} (written : ∀ o ∈ operands, o.Written)
    (noQuote : ∀ o ∈ operands, isToken o = true → '"' ∉ o.render.toList) :
    Quoting.outside.after (operands.flatMap fun o => ',' :: ' ' :: o.render.toList) = .outside := by
  induction operands with
  | nil => rfl
  | cons operand operands ih =>
    have first := after_render (written operand (.head _)) (noQuote operand (.head _))
    have others := ih (fun o listed => written o (.tail _ listed))
      fun o listed => noQuote o (.tail _ listed)
    simpa [Quoting.next, first] using others

/-- No literal is open at the end of a printed line. -/
theorem Printable.after_printed {entry : Entry} (printable : Printable entry)
    (onlyLiterals : OnlyLiteralQuotes entry) : Quoting.outside.after (printed entry) = .outside := by
  obtain ⟨mnemonic, operands⟩ := entry
  have word : Quoting.outside.after mnemonic.toList = .outside := Quoting.after_outside onlyLiterals.1
  cases operands with
  | nil => exact printed_nil mnemonic ▸ word
  | cons operand operands =>
    obtain ⟨written, writtenOthers⟩ := List.forall_mem_cons.mp printable.written
    obtain ⟨noQuote, noQuoteOthers⟩ := List.forall_mem_cons.mp onlyLiterals.2
    rw [printed_cons, toList_renderList_cons, Quoting.after_append, word, Quoting.after_cons,
      Quoting.after_append]
    change (Quoting.outside.after operand.render.toList).after _ = _
    rw [after_render written noQuote, after_operands writtenOthers noQuoteOthers]

theorem Printable.uncommented_printed {entry : Entry} (printable : Printable entry)
    (onlyLiterals : OnlyLiteralQuotes entry) (comment : List Char) :
    uncommented (printed entry ++ '#' :: comment) = uncommented (printed entry) := by
  rw [uncommented, uncommentedFrom_append printable.clean, printable.after_printed onlyLiterals,
    uncommented, printable.clean, uncommentedFrom]
  simp

/-! ## A method with one line -/

theorem parse_body_line {declaration line signature : String} {entry : Entry}
    (oneLine : '\n' ∉ declaration.toList)
    (declares : Line.ofText (trim (uncommented declaration.toList)) = .methodDecl signature)
    (oneLine' : '\n' ∉ line.toList) (nonempty : trim (uncommented line.toList) ≠ [])
    (said : Line.ofText (trim (uncommented line.toList)) = .entry entry) :
    parse (unlines [declaration, line, ".end method"]) =
      .ok ⟨[⟨"->" ++ signature, [entry]⟩], none⟩ := by
  have cut : ∀ l ∈ [declaration, line, ".end method"], '\n' ∉ l.toList := by
    simp [oneLine, oneLine']
  have opened : Reading.start.step (closeLine declaration.toList.reverse) =
      .ok ⟨1, "", some ⟨"->" ++ signature, #[]⟩, none, #[]⟩ := by
    rw [Reading.start, Reading.step_declaration declares]
    simp
  rw [parse, lines_unlines cut]
  simp only [List.map_cons, List.map_nil, List.foldlM_cons, List.foldlM_nil, bind, Except.bind, opened,
    Reading.step_entry nonempty said, Reading.step_methodEnd]
  rfl

/-- A printed instruction of a listing is read as it was, in a method of its own.  Behind it a comment
can follow, unless a quote in the line belongs to no literal. -/
theorem parse_printed {text : String} {listing : Listing} (parsed : parse text = .ok listing)
    {m : Method} (isMethod : m ∈ listing.methods) {entry : Entry} (member : entry ∈ m.body)
    (noDirective : entry.mnemonic.toList.head? ≠ some '.') (address : Address) (method : Nat)
    {declaration signature : String} (oneLine : '\n' ∉ declaration.toList)
    (declares : Line.ofText (trim (uncommented declaration.toList)) = .methodDecl signature) :
    let line := (Instruction.mk address method entry.mnemonic entry.operands).render
    let expected : Listing := ⟨[⟨"->" ++ signature, [entry]⟩], none⟩
    parse (unlines [declaration, line, ".end method"]) = .ok expected ∧
      (OnlyLiteralQuotes entry → ∀ comment : String, '\n' ∉ comment.toList →
        parse (unlines [declaration, line ++ "#" ++ comment, ".end method"]) = .ok expected) := by
  intro line expected
  obtain ⟨raw, rawOneLine, nonempty, said⟩ := exists_line parsed isMethod member
  have printable := printable_of_line rawOneLine nonempty said noDirective
  have spelled : line.toList = printed entry := toList_render address method entry
  have whole := printable.trim_uncommented_printed
  refine ⟨?_, fun onlyLiterals comment commentOneLine => ?_⟩
  · refine parse_body_line oneLine declares (spelled ▸ printable.oneLine) ?_ ?_
    · rw [spelled, whole]
      exact printable.firm.nonempty
    · rw [spelled, whole, printable.ofText_printed]
  · have commented : (line ++ "#" ++ comment).toList = printed entry ++ '#' :: comment.toList := by
      simp [spelled]
    have cut := printable.uncommented_printed onlyLiterals comment.toList
    refine parse_body_line oneLine declares ?_ ?_ ?_
    · rw [commented]
      simp [printable.oneLine, commentOneLine]
    · rw [commented, cut, whole]
      exact printable.firm.nonempty
    · rw [commented, cut, whole, printable.ofText_printed]

/-- A listing with a comment behind a literal, and with a quote that belongs to no literal in front of
a `#`. -/
def quoted : String :=
  ".class La;\n.method m()V\n\tconst-string\tv007 , \"a \\\" # b\" # c\r\nodd\"  \x7b v0 ..v01\x7d,L#;\n"

def quotedLiteral : Entry :=
  ⟨"const-string", [.reg ⟨.loc, 7⟩, .str "a \\\" # b"]⟩

def quotedMnemonic : Entry :=
  ⟨"odd\"", [.regRange ⟨.loc, 0⟩ ⟨.loc, 1⟩, .type "L#;"]⟩

/-- Both entries of `quoted` are read back, the first one also with a comment. -/
theorem parse_printed_quoted :
    parse quoted = .ok ⟨[⟨"La;->m()V", [quotedLiteral, quotedMnemonic]⟩], some "La;->m()V"⟩ ∧
      OnlyLiteralQuotes quotedLiteral ∧ ¬OnlyLiteralQuotes quotedMnemonic ∧
      parse (unlines [".method n()V", "const-string v7, \"a \\\" # b\"# \" c", ".end method"]) =
        .ok ⟨[⟨"->n()V", [quotedLiteral]⟩], none⟩ ∧
      parse (unlines [".method n()V", "odd\" \x7bv0 .. v1\x7d, L#;", ".end method"]) =
        .ok ⟨[⟨"->n()V", [quotedMnemonic]⟩], none⟩ := by
  have parsed : parse quoted =
      .ok ⟨[⟨"La;->m()V", [quotedLiteral, quotedMnemonic]⟩], some "La;->m()V"⟩ := by decide +kernel
  have declares : Line.ofText (trim (uncommented ".method n()V".toList)) = .methodDecl "n()V" := by
    decide +kernel
  have onlyLiterals : OnlyLiteralQuotes quotedLiteral := by decide +kernel
  have first : (Instruction.mk 0 0 quotedLiteral.mnemonic quotedLiteral.operands).render ++ "#" ++
      " \" c" = "const-string v7, \"a \\\" # b\"# \" c" := by decide +kernel
  have second : (Instruction.mk 1 0 quotedMnemonic.mnemonic quotedMnemonic.operands).render =
      "odd\" \x7bv0 .. v1\x7d, L#;" := by decide +kernel
  refine ⟨parsed, onlyLiterals, by decide +kernel, ?_, ?_⟩
  · rw [← first]
    exact (parse_printed parsed (.head _) (.head _) (by decide) 0 0 (by decide) declares).2 onlyLiterals
      " \" c" (by decide)
  · rw [← second]
    exact (parse_printed parsed (.head _) (.tail _ (.head _)) (by decide) 1 0 (by decide) declares).1

end Backflow.Listing
