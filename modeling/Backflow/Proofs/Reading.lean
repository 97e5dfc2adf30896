import Backflow.Listing.Reader
import Mathlib.Data.List.Basic

/-! # What the lines of a listing read as

A text is cut into lines, a line is freed of its comment and of the blanks around it, and its first
word says what it is.  The content of a string literal must come through all of this unchanged:
quotes are counted once when the comment is cut off and once more when the operands are read, and
the two have to agree on where the literal ends.

* `Text.lines_unlines`: the lines of a text made of lines.
* `Quotable` is the content of a literal, `Escaped` the same on one line; `uncommentedFrom_quotable` and
  `readQuotedContent?_quotable` say that either pass goes exactly to its closing quote.
* `Listing.instruction?` is the instruction on a line of a body, and `Listing.parse_method` says what
  a method made of such lines reads as.
-/

namespace Backflow

namespace Text

/-! ## Lines -/

theorem toList_unlines (ls : List String) :
    (unlines ls).toList = ls.flatMap fun l => l.toList ++ ['\n'] := by
  have appended : ∀ text : String, (ls.foldl (fun text l => text ++ l ++ "\n") text).toList =
      text.toList ++ ls.flatMap fun l => l.toList ++ ['\n'] := by
    induction ls with
    | nil => simp
    | cons l rest ih => simp [ih]
  exact appended ""

theorem linesFrom_line {line : List Char} (oneLine : '\n' ∉ line) (current rest : List Char) :
    linesFrom current (line ++ '\n' :: rest) =
      closeLine (line.reverse ++ current) :: linesFrom [] rest := by
  induction line generalizing current with
  | nil => simp [linesFrom]
  | cons c line ih =>
    have other : c ≠ '\n' := fun same => oneLine (same ▸ .head _)
    have later : '\n' ∉ line := fun member => oneLine (.tail _ member)
    simp [linesFrom, other, ih later]

/-- A text made of lines has these lines, a carriage return at their end apart. -/
theorem lines_unlines {ls : List String} (oneLine : ∀ l ∈ ls, '\n' ∉ l.toList) :
    lines (unlines ls).toList = ls.map fun l => closeLine l.toList.reverse := by
  rw [lines, toList_unlines]
  induction ls with
  | nil => rfl
  | cons l rest ih =>
    rw [List.flatMap_cons, List.append_assoc, List.singleton_append,
      linesFrom_line (oneLine l (.head _)), ih fun other member => oneLine other (.tail _ member)]
    simp

theorem closeLine_cases (line : List Char) :
    closeLine line.reverse = line ∨ line = closeLine line.reverse ++ ['\r'] := by
  cases reversed : line.reverse with
  | nil => exact .inl (by simpa [closeLine] using (List.reverse_eq_nil_iff.mp reversed).symm)
  | cons c earlier =>
    have whole : line = earlier.reverse ++ [c] := by
      rw [← List.reverse_reverse line, reversed, List.reverse_cons]
    by_cases here : c = '\r'
    · subst here
      exact .inr whole
    · refine .inl ?_
      rw [whole]
      simp [closeLine, here]

/-! ## Runs of characters -/

/-- A text at whose start a run of characters of the given kind is over. -/
def EndsRun (kind : Char → Bool) (text : List Char) : Prop :=
  ∀ c, text.head? = some c → kind c = false

theorem endsRun_nil (kind : Char → Bool) : EndsRun kind [] :=
  fun _ found => nomatch found

theorem endsRun_cons {kind : Char → Bool} {c : Char} (other : kind c = false) (rest : List Char) :
    EndsRun kind (c :: rest) := by
  intro d found
  cases found
  exact other

theorem takeWhile_run {kind : Char → Bool} {run rest : List Char}
    (inside : ∀ c ∈ run, kind c = true) (ends : EndsRun kind rest) :
    (run ++ rest).takeWhile kind = run := by
  rw [List.takeWhile_append_of_pos inside]
  cases rest with
  | nil => simp
  | cons c rest => simp [ends c rfl]

theorem dropWhile_run {kind : Char → Bool} {run rest : List Char}
    (inside : ∀ c ∈ run, kind c = true) (ends : EndsRun kind rest) :
    (run ++ rest).dropWhile kind = rest := by
  rw [List.dropWhile_append_of_pos inside]
  cases rest with
  | nil => rfl
  | cons c rest => simp [ends c rfl]

/-- A text is cut in one way only into a run and what comes after it. -/
theorem run_unique {kind : Char → Bool} {run run' rest rest' : List Char}
    (inside : ∀ c ∈ run, kind c = true) (ends : EndsRun kind rest)
    (inside' : ∀ c ∈ run', kind c = true) (ends' : EndsRun kind rest')
    (same : run ++ rest = run' ++ rest') : run = run' ∧ rest = rest' := by
  constructor
  · rw [← takeWhile_run inside ends, same, takeWhile_run inside' ends']
  · rw [← dropWhile_run inside ends, same, dropWhile_run inside' ends']

/-- A text made of lines tells its lines. -/
theorem unlines_injective {ls ms : List String} (oneLine : ∀ l ∈ ls, '\n' ∉ l.toList)
    (oneLine' : ∀ m ∈ ms, '\n' ∉ m.toList) (same : unlines ls = unlines ms) : ls = ms := by
  have inside : ∀ {line : String}, '\n' ∉ line.toList → ∀ c ∈ line.toList, (c != '\n') = true :=
    fun notMem c member => bne_iff_ne.mpr fun newline => notMem (newline ▸ member)
  have ends : ∀ rest, EndsRun (· != '\n') ('\n' :: rest) := endsRun_cons (by decide)
  have chars := congrArg String.toList same
  rw [toList_unlines, toList_unlines] at chars
  clear same
  induction ls generalizing ms with
  | nil =>
    cases ms with
    | nil => rfl
    | cons m ms => simp at chars
  | cons l ls ih =>
    cases ms with
    | nil => simp at chars
    | cons m ms =>
      simp only [List.flatMap_cons, List.append_assoc, List.singleton_append] at chars
      obtain ⟨first, later⟩ := run_unique (inside (oneLine l (.head _))) (ends _)
        (inside (oneLine' m (.head _))) (ends _) chars
      have others := ih (fun line member => oneLine line (.tail _ member))
        (fun line member => oneLine' line (.tail _ member)) (List.cons.inj later).2
      rw [String.toList_inj.mp first, others]

/-! ## Blanks -/

theorem isBlank_of_isGap {c : Char} (gap : isGap c = true) : isBlank c = true := by
  rcases (by simpa [isGap] using gap : c = ' ' ∨ c = '\t') with rfl | rfl <;> decide

theorem trim_blanks_append {blanks : List Char} (all : ∀ c ∈ blanks, isBlank c = true)
    (text : List Char) : trim (blanks ++ text) = trim text := by
  rw [trim, trimStart, List.dropWhile_append_of_pos all]
  rfl

theorem trim_concat_blank {c : Char} (blank : isBlank c = true) (text : List Char) :
    trim (text ++ [c]) = trim text := by
  unfold trim trimStart
  rw [List.dropWhile_append]
  split
  · rename_i none
    rw [List.isEmpty_iff.mp none, List.dropWhile_cons_of_pos blank]
    rfl
  · simp [trimEnd, blank]

theorem trim_eq_self {text : List Char} (first : ∀ c, text.head? = some c → isBlank c = false)
    (last : ∀ c, text.getLast? = some c → isBlank c = false) : trim text = text := by
  have kept : ∀ {other : List Char}, (∀ c, other.head? = some c → isBlank c = false) →
      other.dropWhile isBlank = other := by
    intro other first
    cases other with
    | nil => rfl
    | cons c rest => exact List.dropWhile_cons_of_neg (by simp [first c rfl])
  rw [trim, trimStart, kept first, trimEnd, kept, List.reverse_reverse]
  intro c found
  exact last c (by rwa [List.head?_reverse] at found)

theorem trim_of_ends {c : Char} (first : isBlank c = false) (middle : List Char) {word : List Char}
    (nonempty : word ≠ []) (last : ∀ d ∈ word, isBlank d = false) :
    trim (c :: (middle ++ word)) = c :: (middle ++ word) := by
  refine trim_eq_self (fun d found => Option.some.inj found ▸ first) fun d found => ?_
  rw [← List.cons_append, List.getLast?_append_of_ne_nil _ nonempty] at found
  exact last d (List.mem_of_getLast? found)

/-- A text that trimming leaves as it is, and that is not empty. -/
structure Firm (text : List Char) : Prop where
  nonempty : text ≠ []
  first : EndsRun isBlank text
  last : EndsRun isBlank text.reverse

theorem Firm.trim_eq {text : List Char} (firm : Firm text) : trim text = text :=
  trim_eq_self firm.first fun c found => firm.last c (by rwa [List.head?_reverse])

theorem Firm.append {first second : List Char} (one : Firm first) (middle : List Char)
    (two : Firm second) : Firm (first ++ (middle ++ second)) where
  nonempty := by simp [one.nonempty]
  first := fun c found => one.first c (by rwa [List.head?_append_of_ne_nil _ one.nonempty] at found)
  last := fun c found => two.last c (by
    rwa [List.reverse_append, List.reverse_append, List.append_assoc,
      List.head?_append_of_ne_nil _ (by simpa using two.nonempty)] at found)

theorem firm_of_forall {text : List Char} (nonempty : text ≠ [])
    (none : ∀ c ∈ text, isBlank c = false) : Firm text where
  nonempty := nonempty
  first := fun c found => none c (List.mem_of_head? found)
  last := fun c found => none c (List.mem_reverse.mp (List.mem_of_head? found))

theorem firm_singleton {c : Char} (solid : isBlank c = false) : Firm [c] :=
  firm_of_forall (List.cons_ne_nil c []) (List.forall_mem_singleton.mpr solid)

theorem endsRun_dropWhile (kind : Char → Bool) (text : List Char) :
    EndsRun kind (text.dropWhile kind) := by
  intro c found
  have stopped := List.head?_dropWhile_not kind text
  rwa [found] at stopped

theorem trimEnd_append (text : List Char) :
    trimEnd text ++ (text.reverse.takeWhile isBlank).reverse = text := by
  rw [trimEnd, ← List.reverse_append, List.takeWhile_append_dropWhile, List.reverse_reverse]

/-- Trimming takes blanks off both sides. -/
theorem exists_trim (text : List Char) :
    ∃ before after, text = before ++ (trim text ++ after) ∧ (∀ c ∈ before, isBlank c = true) ∧
      ∀ c ∈ after, isBlank c = true := by
  refine ⟨text.takeWhile isBlank, ((trimStart text).reverse.takeWhile isBlank).reverse, ?_,
    List.all_eq_true.mp List.all_takeWhile,
    fun c member => List.all_eq_true.mp List.all_takeWhile c (List.mem_reverse.mp member)⟩
  rw [trim, trimEnd_append, trimStart, List.takeWhile_append_dropWhile]

theorem trim_subset (text : List Char) : trim text ⊆ text := by
  obtain ⟨before, after, split, _⟩ := exists_trim text
  nth_rewrite 2 [split]
  exact List.subset_append_of_subset_right _ (List.subset_append_left _ _)

theorem firm_trim {text : List Char} (some : trim text ≠ []) : Firm (trim text) where
  nonempty := some
  first := by
    intro c found
    have start := endsRun_dropWhile isBlank text
    change EndsRun isBlank (trimStart text) at start
    rw [← trimEnd_append (trimStart text)] at start
    exact start c ((List.head?_append_of_ne_nil (trim text) some).trans found)
  last := by
    rw [trim, trimEnd, List.reverse_reverse]
    exact endsRun_dropWhile isBlank _

/-! ## Words -/

theorem isBlank_of_any {word : List Char} (none : word.any isBlank = false) :
    ∀ c ∈ word, isBlank c = false := by
  simpa using none

theorem cutAtBlank_word {word : List Char} (whole : ∀ c ∈ word, isBlank c = false) {c : Char}
    (blank : isBlank c = true) (rest : List Char) : cutAtBlank (word ++ c :: rest) = (word, rest) := by
  have kept : ∀ c ∈ word, (!isBlank c) = true := fun c member => by simp [whole c member]
  rw [cutAtBlank, List.takeWhile_append_of_pos kept, List.dropWhile_append_of_pos kept]
  simp [blank]

theorem wordsFrom_word {word : List Char} (whole : ∀ c ∈ word, isBlank c = false)
    (current : List Char) :
    wordsFrom current word =
      if current.reverse ++ word = [] then [] else [current.reverse ++ word] := by
  induction word generalizing current with
  | nil => simp [wordsFrom]
  | cons c rest ih =>
    rw [wordsFrom, if_neg (by simp [whole c (.head _)]), ih fun d member => whole d (.tail _ member)]
    simp

theorem wordsFrom_blank {c : Char} (blank : isBlank c = true) (current rest : List Char) :
    ∃ before, wordsFrom current (c :: rest) = before ++ wordsFrom [] rest := by
  rw [wordsFrom, if_pos blank]
  split
  · exact ⟨[], rfl⟩
  · exact ⟨[current.reverse], rfl⟩

/-- The last word of a text that ends in a blank and a word. -/
theorem getLast?_words {word : List Char} (whole : ∀ c ∈ word, isBlank c = false) (some : word ≠ [])
    {c : Char} (blank : isBlank c = true) (text : List Char) :
    (words (text ++ c :: word)).getLast? = Option.some word := by
  have later : ∀ current, ∃ before, wordsFrom current (text ++ c :: word) = before ++ [word] := by
    induction text with
    | nil =>
      intro current
      obtain ⟨before, split⟩ := wordsFrom_blank blank current word
      exact ⟨before, by simpa [wordsFrom_word whole, some] using split⟩
    | cons d text ih =>
      intro current
      by_cases blank' : isBlank d = true
      · obtain ⟨before, split⟩ := wordsFrom_blank blank' current (text ++ c :: word)
        obtain ⟨between, found⟩ := ih []
        exact ⟨before ++ between, by rw [List.cons_append, split, found, List.append_assoc]⟩
      · rw [List.cons_append, wordsFrom, if_neg blank']
        exact ih (d :: current)
  obtain ⟨before, found⟩ := later []
  rw [words, found, List.getLast?_concat]

end Text

/-- The content of a string literal: characters other than the quote and the backslash, and backslashes
with the character after them. -/
inductive Quotable : List Char → Prop
  | nil : Quotable []
  | plain {c : Char} {rest : List Char} (noBackslash : c ≠ '\\') (noQuote : c ≠ '"')
      (tail : Quotable rest) : Quotable (c :: rest)
  | pair {c : Char} {rest : List Char} (tail : Quotable rest) : Quotable ('\\' :: c :: rest)

/-- The content of a string literal on one line: characters other than the quote and the backslash,
and backslashes with the character after them. -/
inductive Escaped : List Char → Prop
  | nil : Escaped []
  | plain {c : Char} {rest : List Char} (noBackslash : c ≠ '\\') (noQuote : c ≠ '"')
      (oneLine : c ≠ '\n') (tail : Escaped rest) : Escaped (c :: rest)
  | pair {c : Char} {rest : List Char} (oneLine : c ≠ '\n') (tail : Escaped rest) :
      Escaped ('\\' :: c :: rest)

/-- Decides whether a text is the content of a literal on one line. -/
def isEscaped : List Char → Bool
  | [] => true
  | ['\\'] => false
  | '\\' :: c :: rest => c != '\n' && isEscaped rest
  | c :: rest => c != '"' && c != '\n' && isEscaped rest

theorem isEscaped_iff {content : List Char} : isEscaped content = true ↔ Escaped content := by
  constructor
  · intro accepted
    fun_induction isEscaped content with
    | case1 => exact .nil
    | case2 => cases accepted
    | case3 c rest ih =>
      simp only [Bool.and_eq_true, bne_iff_ne] at accepted
      exact .pair accepted.1 (ih accepted.2)
    | case4 c rest lone pair ih =>
      simp only [Bool.and_eq_true, bne_iff_ne] at accepted
      obtain ⟨⟨noQuote, oneLine⟩, accepted⟩ := accepted
      refine .plain (fun same => ?_) noQuote oneLine (ih accepted)
      -- a backslash is the last character or has one after it
      cases rest with
      | nil => exact lone same rfl
      | cons d rest => exact pair d rest same rfl
  · intro escaped
    induction escaped with
    | nil => rfl
    | plain noBackslash noQuote oneLine _ ih => simp [isEscaped, noBackslash, noQuote, oneLine, ih]
    | pair oneLine _ ih => simp [isEscaped, oneLine, ih]

instance (content : List Char) : Decidable (Escaped content) :=
  decidable_of_iff _ isEscaped_iff

theorem Escaped.newline_notMem {content : List Char} (escaped : Escaped content) :
    '\n' ∉ content := by
  induction escaped with
  | nil => exact List.not_mem_nil
  | plain _ _ oneLine _ ih => simpa [Ne.symm oneLine] using ih
  | pair oneLine _ ih => simpa [Ne.symm oneLine] using ih

theorem Escaped.quotable {content : List Char} (escaped : Escaped content) : Quotable content := by
  induction escaped with
  | nil => exact .nil
  | plain noBackslash noQuote _ _ ih => exact .plain noBackslash noQuote ih
  | pair _ _ ih => exact .pair ih

/-- A literal is read up to its closing quote. -/
theorem Operand.readQuotedContent?_quotable {content : List Char} (quotable : Quotable content)
    (rest : List Char) : readQuotedContent? (content ++ '"' :: rest) = some (content, rest) := by
  induction quotable with
  | nil => rfl
  | @plain c tail noBackslash noQuote _ ih =>
    rw [List.cons_append, readQuotedContent?.eq_5 _ _ noQuote, ih]
    · rfl
    · exact fun same _ => noBackslash same
    · exact fun d _ same => absurd same noBackslash
  | pair _ ih => simp [readQuotedContent?, ih]

namespace Listing

open Backflow.Text

/-! ## Comments -/

theorem uncommentedFrom_of_notMem {text : List Char} (noComment : '#' ∉ text) (place : Quoting) :
    uncommentedFrom place text = text := by
  induction text generalizing place with
  | nil => rfl
  | cons c rest ih =>
    have other : c ≠ '#' := fun same => noComment (same ▸ .head _)
    simp [uncommentedFrom, other, ih fun member => noComment (.tail _ member)]

theorem uncommentedFrom_plain {text : List Char} (plain : ∀ c ∈ text, c ≠ '#' ∧ c ≠ '"')
    (rest : List Char) :
    uncommentedFrom .outside (text ++ rest) = text ++ uncommentedFrom .outside rest := by
  induction text with
  | nil => rfl
  | cons c text ih =>
    obtain ⟨noComment, noQuote⟩ := plain c (.head _)
    simp [uncommentedFrom, Quoting.next, noComment, noQuote,
      ih fun d member => plain d (.tail _ member)]

/-- No comment starts inside a literal, whatever stands there. -/
theorem uncommentedFrom_quotable {content : List Char} (quotable : Quotable content)
    (rest : List Char) :
    uncommentedFrom .inside (content ++ '"' :: rest) =
      content ++ '"' :: uncommentedFrom .outside rest := by
  induction quotable with
  | nil => simp [uncommentedFrom, Quoting.next]
  | plain noBackslash noQuote _ ih =>
    simp [uncommentedFrom, Quoting.next, noBackslash, noQuote, ih]
  | pair _ ih => simp [uncommentedFrom, Quoting.next, ih]

theorem uncommentedFrom_concat (place : Quoting) (text : List Char) (c : Char) :
    uncommentedFrom place (text ++ [c]) = uncommentedFrom place text ∨
      uncommentedFrom place (text ++ [c]) = uncommentedFrom place text ++ [c] := by
  induction text generalizing place with
  | nil =>
    by_cases comment : place = .outside ∧ c = '#'
    · exact .inl (by simp [uncommentedFrom, comment])
    · exact .inr (by simp [uncommentedFrom, comment])
  | cons d text ih =>
    by_cases comment : place = .outside ∧ d = '#'
    · exact .inl (by simp [uncommentedFrom, comment])
    · simp only [List.cons_append, uncommentedFrom, if_neg comment]
      exact (ih (place.next d)).imp (congrArg (d :: ·)) (congrArg (d :: ·))

/-- A carriage return at the end of a line makes no difference. -/
theorem trim_uncommented_closeLine (line : List Char) :
    trim (uncommented (closeLine line.reverse)) = trim (uncommented line) := by
  rcases closeLine_cases line with same | ended
  · rw [same]
  · have blank : isBlank '\r' = true := by decide
    nth_rewrite 2 [ended]
    rcases uncommentedFrom_concat .outside (closeLine line.reverse) '\r' with same | more
    · rw [uncommented, uncommented, same]
    · rw [uncommented, uncommented, more, trim_concat_blank blank]

theorem trim_uncommented_blanks {blanks : List Char} (all : ∀ c ∈ blanks, isBlank c = true)
    (line : List Char) : trim (uncommented (blanks ++ line)) = trim (uncommented line) := by
  have plain : ∀ c ∈ blanks, c ≠ '#' ∧ c ≠ '"' := by
    intro c member
    constructor <;> rintro rfl <;> exact absurd (all _ member) (by decide)
  rw [uncommented, uncommentedFrom_plain plain, trim_blanks_append all]
  rfl

theorem trim_uncommented_indented {indent : List Char} (gaps : ∀ c ∈ indent, isGap c = true)
    (line : List Char) : trim (uncommented (indent ++ line)) = trim (uncommented line) :=
  trim_uncommented_blanks (fun c member => isBlank_of_isGap (gaps c member)) line

/-! ## Lines of a listing -/

/-- Holds for a line that stands before the methods of a class: a blank one, a class declaration or a
directive that is ignored. -/
def isHeader (line : List Char) : Bool :=
  (trim (uncommented line)).isEmpty ||
    match Line.ofText (trim (uncommented line)) with
    | .classDecl _ | .ignored => true
    | _ => false

/-- The instruction that a line of a method body reads as; none if it is blank, a label, a directive
or not well formed. -/
def instruction? (line : List Char) : Option Entry :=
  match Line.ofText (trim (uncommented line)) with
  | .entry entry =>
    match entry.mnemonic.toList with
    | [] => none
    | c :: _ => if c = '.' ∨ c = ':' then none else some entry
  | _ => none

theorem ofText_of_instruction? {line : List Char} {entry : Entry}
    (read : instruction? line = some entry) :
    Line.ofText (trim (uncommented line)) = .entry entry ∧ trim (uncommented line) ≠ [] ∧
      ∃ c rest, entry.mnemonic.toList = c :: rest ∧ c ≠ '.' ∧ c ≠ ':' := by
  unfold instruction? at read
  split at read
  · rename_i found said
    split at read
    · cases read
    · rename_i c rest spelled
      split at read
      · cases read
      · rename_i plain
        cases read
        refine ⟨said, fun empty => ?_, c, rest, spelled, by simpa [not_or] using plain⟩
        -- a blank line would be an instruction without a mnemonic
        rw [empty] at said
        cases said
        simp [cutAtBlank] at spelled
  · cases read

namespace Reading

variable {number : Nat} {className name : String} {body : Array Entry} {methods : Array Method}

/-- A line that is not blank is taken for what it says, unless a block is being skipped. -/
theorem step_line {line : List Char} (nonempty : trim (uncommented line) ≠ [])
    (current : Option OpenMethod) :
    step ⟨number, className, current, none, methods⟩ (closeLine line.reverse) =
      take ⟨number + 1, className, current, none, methods⟩ (closeLine line.reverse)
        (Line.ofText (trim (uncommented line))) := by
  simp [step, trim_uncommented_closeLine, takeText, nonempty]

theorem step_header {line : List Char} (header : isHeader line = true) (number : Nat)
    (className : String) (methods : Array Method) :
    ∃ later, step ⟨number, className, none, none, methods⟩ (closeLine line.reverse) =
      .ok ⟨number + 1, later, none, none, methods⟩ := by
  by_cases empty : trim (uncommented line) = []
  · exact ⟨className, by simp [step, trim_uncommented_closeLine, takeText, empty]⟩
  · rw [step_line empty]
    simp only [isHeader, List.isEmpty_eq_false_iff.mpr empty, Bool.false_or] at header
    split at header
    · rename_i name said
      rw [said]
      exact ⟨name, rfl⟩
    · rename_i said
      rw [said]
      exact ⟨className, rfl⟩
    · cases header

/-- Lines before the methods leave nothing but the name of the class. -/
theorem foldlM_step_header {lines : List String}
    (header : ∀ line ∈ lines, isHeader line.toList = true) (number : Nat) (className : String)
    (methods : Array Method) :
    ∃ later, (lines.map fun line => closeLine line.toList.reverse).foldlM step
        ⟨number, className, none, none, methods⟩ =
      .ok ⟨number + lines.length, later, none, none, methods⟩ := by
  induction lines generalizing number className with
  | nil => exact ⟨className, rfl⟩
  | cons line rest ih =>
    obtain ⟨middle, first⟩ := step_header (header line (.head _)) number className methods
    obtain ⟨later, others⟩ := ih (fun other member => header other (.tail _ member)) (number + 1) middle
    refine ⟨later, ?_⟩
    rw [List.map_cons, List.foldlM_cons, first, List.length_cons, Nat.add_comm rest.length,
      ← Nat.add_assoc]
    exact others

theorem step_entry {line : List Char} {entry : Entry} (nonempty : trim (uncommented line) ≠ [])
    (said : Line.ofText (trim (uncommented line)) = .entry entry) :
    step ⟨number, className, some ⟨name, body⟩, none, methods⟩ (closeLine line.reverse) =
      .ok ⟨number + 1, className, some ⟨name, body.push entry⟩, none, methods⟩ := by
  rw [step_line nonempty, said]
  rfl

theorem step_instruction {line : List Char} {entry : Entry}
    (read : instruction? line = some entry) :
    step ⟨number, className, some ⟨name, body⟩, none, methods⟩ (closeLine line.reverse) =
      .ok ⟨number + 1, className, some ⟨name, body.push entry⟩, none, methods⟩ := by
  obtain ⟨said, nonempty, _⟩ := ofText_of_instruction? read
  exact step_entry nonempty said

/-- Lines that are instructions add them to the open method, one after the other. -/
theorem foldlM_step_instructions {lines : List String} {entries : List Entry}
    (read : List.Forall₂ (fun line entry => instruction? line.toList = some entry) lines entries) :
    (lines.map fun line => closeLine line.toList.reverse).foldlM step
        ⟨number, className, some ⟨name, body⟩, none, methods⟩ =
      .ok ⟨number + lines.length, className, some ⟨name, body ++ entries.toArray⟩, none, methods⟩ := by
  induction read generalizing number body with
  | nil => simp [pure, Except.pure]
  | cons first _ ih =>
    rw [List.map_cons, List.foldlM_cons, step_instruction first]
    simp only [bind, Except.bind]
    rw [ih]
    simp [Nat.add_assoc, Nat.add_comm 1]

end Reading

/-! ## Methods -/

/-- A text that can stand for the signature of a method: one word, without a comment. -/
structure IsSignature (signature : String) : Prop where
  nonempty : signature.toList ≠ []
  oneWord : ∀ c ∈ signature.toList, isBlank c = false
  noComment : '#' ∉ signature.toList

instance (signature : String) : Decidable (IsSignature signature) :=
  decidable_of_iff (signature.toList ≠ [] ∧ signature.toList.any isBlank = false ∧
    '#' ∉ signature.toList)
    ⟨fun h => ⟨h.1, isBlank_of_any h.2.1, h.2.2⟩, fun h => ⟨h.1, by simpa using h.2, h.3⟩⟩

theorem ofText_method {signature : String} (isSignature : IsSignature signature) :
    Line.ofText (trim (uncommented (".method static " ++ signature).toList)) =
      .methodDecl signature := by
  obtain ⟨nonempty, oneWord, noComment⟩ := isSignature
  have blank : isBlank ' ' = true := by decide
  have word : ∀ c ∈ ".method".toList, isBlank c = false := isBlank_of_any (by decide)
  have text : (".method static " ++ signature).toList =
      ".method".toList ++ ' ' :: ("static".toList ++ ' ' :: signature.toList) := by simp
  have whole : trim (".method".toList ++ ' ' :: ("static".toList ++ ' ' :: signature.toList)) =
      ".method".toList ++ ' ' :: ("static".toList ++ ' ' :: signature.toList) :=
    trim_of_ends (by decide) "method static ".toList nonempty oneWord
  have rest : trim ("static".toList ++ ' ' :: signature.toList) =
      "static".toList ++ ' ' :: signature.toList :=
    trim_of_ends (by decide) "tatic ".toList nonempty oneWord
  have lastWord : lastWord? ("static".toList ++ ' ' :: signature.toList) = some signature := by
    rw [lastWord?, getLast?_words oneWord nonempty blank, Option.map_some, String.ofList_toList]
  rw [uncommented, uncommentedFrom_of_notMem (by simpa using noComment), text, whole, Line.ofText,
    cutAtBlank_word word blank, rest]
  change Line.ofDirective (String.ofList ".method".toList) _ = _
  rw [String.ofList_toList, Line.ofDirective, if_neg (by decide), if_pos rfl, lastWord]

namespace Reading

variable {number : Nat} {className : String} {methods : Array Method}

theorem step_declaration {line : List Char} {signature : String}
    (declares : Line.ofText (trim (uncommented line)) = .methodDecl signature)
    (current : Option OpenMethod) :
    step ⟨number, className, current, none, methods⟩ (closeLine line.reverse) =
      .ok ⟨number + 1, className, some ⟨className ++ "->" ++ signature, #[]⟩, none, methods⟩ := by
  have nonempty : trim (uncommented line) ≠ [] := fun empty => by
    rw [empty] at declares
    cases declares
  rw [step_line nonempty, declares]
  rfl

theorem step_methodEnd (m : OpenMethod) :
    step ⟨number, className, some m, none, methods⟩ (closeLine ".end method".toList.reverse) =
      .ok ⟨number + 1, className, none, none, methods.push m.close⟩ := by
  have said : Line.ofText (trim (uncommented ".end method".toList)) = .methodEnd := by decide +kernel
  have nonempty : trim (uncommented ".end method".toList) ≠ [] := by decide +kernel
  rw [step_line nonempty, said]
  rfl

/-- A method whose body lines are instructions adds one method, with these instructions. -/
theorem foldlM_step_method {signature : String} (isSignature : IsSignature signature)
    {lines : List String} {entries : List Entry}
    (read : List.Forall₂ (fun line entry => instruction? line.toList = some entry) lines entries)
    (current : Option OpenMethod) :
    (((".method static " ++ signature) :: (lines ++ [".end method"])).map fun line =>
        closeLine line.toList.reverse).foldlM step ⟨number, className, current, none, methods⟩ =
      .ok ⟨number + 1 + lines.length + 1, className, none, none,
        methods.push ⟨className ++ "->" ++ signature, entries⟩⟩ := by
  rw [List.map_cons, List.foldlM_cons, step_declaration (ofText_method isSignature), List.map_append]
  simp only [bind, Except.bind, List.foldlM_append, foldlM_step_instructions read]
  rw [List.map_singleton, List.foldlM_cons, Array.empty_append, step_methodEnd]
  rfl

end Reading

/-- A listing with one method, whose body lines are instructions, reads as these instructions. -/
theorem parse_method {header : List String}
    (headed : ∀ line ∈ header, '\n' ∉ line.toList ∧ isHeader line.toList = true)
    {signature : String} (isSignature : IsSignature signature)
    {lines : List String} {entries : List Entry} (oneLine : ∀ line ∈ lines, '\n' ∉ line.toList)
    (read : List.Forall₂ (fun line entry => instruction? line.toList = some entry) lines entries) :
    ∃ name, parse (unlines (header ++ (".method static " ++ signature) :: (lines ++ [".end method"]))) =
      .ok ⟨[⟨name, entries⟩], none⟩ := by
  have newline : isBlank '\n' = true := by decide
  have noNewline : '\n' ∉ signature.toList := fun member => by
    simp [isSignature.oneWord _ member] at newline
  have cut : ∀ line ∈ header ++ (".method static " ++ signature) :: (lines ++ [".end method"]),
      '\n' ∉ line.toList := by
    intro line member
    simp only [List.mem_cons, List.mem_append, List.not_mem_nil, or_false] at member
    rcases member with member | rfl | member | rfl
    · exact (headed line member).1
    · simpa using noNewline
    · exact oneLine line member
    · decide
  obtain ⟨className, before⟩ :=
    Reading.foldlM_step_header (fun line member => (headed line member).2) 0 "" #[]
  refine ⟨className ++ "->" ++ signature, ?_⟩
  rw [parse, lines_unlines cut, List.map_append, List.foldlM_append, Reading.start, before]
  simp only [bind, Except.bind, Reading.foldlM_step_method isSignature read]
  rfl

end Listing

end Backflow
