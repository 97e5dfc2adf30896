import Backflow.Proofs.Joining

/-! # Lines that make no difference

A line is noise when the reader passes over it.  Outside of skipped blocks these are blank lines,
comments and directives that nobody heeds, inside of a block all lines that do not end it.  So what
is noise depends on all lines before: `.end annotation` is noise outside of a block and ends an
annotation inside of it.

* `Noise` says which lines are noise where a block is being skipped or not.
* `Reading.step_noise`: such a line is counted and changes nothing else.
* `Listing.parse_insert`: put into a text, it moves an error that comes later by one line.
-/

namespace Backflow

def ListingError.line : ListingError → Nat
  | .malformed line _ => line
  | .outsideMethod line => line

/-- What becomes of an error when one more line stands behind the first `count` lines. -/
def ListingError.pushedDown (count : Nat) (error : ListingError) : ListingError :=
  if count < error.line then error.shift 1 else error

namespace Listing

open Backflow.Text

/-! ## Noise -/

/-- The directives that say something by themselves. -/
def heededDirectives : List String :=
  [".class", ".method", ".catch", ".catchall", ".annotation", ".subannotation", ".packed-switch",
    ".sparse-switch", ".array-data"]

/-- A directive that the reader does not heed, and the text after it. -/
structure Unheeded (directive rest : List Char) : Prop where
  dot : directive.head? = some '.'
  unheeded : String.ofList directive ∉ heededDirectives
  noMethodEnd : String.ofList directive = ".end" → ¬ "method".toList <+: rest

/-- A line that makes no difference when `block` is being skipped or, without a block, outside of
skipped blocks. -/
inductive Noise : Option Block → List Char → Prop
  | blank {raw : List Char} (blanks : ∀ c ∈ raw, isBlank c = true) : Noise none raw
  | comment {indent text : List Char} (blanks : ∀ c ∈ indent, isBlank c = true) :
      Noise none (indent ++ '#' :: text)
  | directive {raw directive rest : List Char}
      (cut : cutAtBlank (trim (uncommented raw)) = (directive, rest))
      (unheeded : Unheeded directive (trim rest)) : Noise none raw
  | skipped {block : Block} {raw : List Char}
      (goesOn : ¬ (".end " ++ block.name).toList <+: trim (uncommented raw)) : Noise (some block) raw

theorem Block.ofDirective?_eq_none {directive : String} (unheeded : directive ∉ heededDirectives) :
    Block.ofDirective? directive = none := by
  refine List.find?_eq_none.mpr fun block _ opens => unheeded ?_
  rw [eq_of_beq opens]
  cases block <;> decide

theorem Unheeded.ofDirective {directive rest : List Char} (unheeded : Unheeded directive rest) :
    Line.ofDirective (String.ofList directive) rest = .ignored := by
  have other : ∀ name ∈ heededDirectives, String.ofList directive ≠ name :=
    fun name member same => unheeded.unheeded (same ▸ member)
  have noHandler : ¬ (String.ofList directive = ".catch" ∨ String.ofList directive = ".catchall") :=
    not_or.mpr ⟨other _ (by decide), other _ (by decide)⟩
  rw [Line.ofDirective, if_neg (other _ (by decide)), if_neg (other _ (by decide)), if_neg noHandler,
    Block.ofDirective?_eq_none unheeded.unheeded]
  split
  · rename_i ending
    exact if_neg fun starts => unheeded.noMethodEnd ending (List.isPrefixOf_iff_prefix.mp starts)
  · rfl

theorem Unheeded.ofText {text directive rest : List Char} (cut : cutAtBlank text = (directive, rest))
    (unheeded : Unheeded directive (trim rest)) : Line.ofText text = .ignored := by
  obtain ⟨name, rfl⟩ := List.head?_eq_some_iff.mp unheeded.dot
  simp only [Line.ofText, cut]
  exact unheeded.ofDirective

/-- The reader hears nothing in a line that is noise, or a directive that it ignores, and goes on
skipping what it skipped. -/
theorem Noise.heard {block : Option Block} {raw : List Char} (noise : Noise block raw) :
    (heard? block raw = none ∨ heard? block raw = some .ignored) ∧ blockAfter block raw = block := by
  have unheard : trim (uncommented raw) = [] →
      (heard? none raw = none ∨ heard? none raw = some .ignored) ∧ blockAfter none raw = none := by
    intro nothing
    have unheard : heard? none raw = none := if_pos (.inr nothing)
    exact ⟨.inl unheard, by rw [blockAfter, unheard]; rfl⟩
  cases noise with
  | blank blanks =>
    have nothing := trim_uncommented_blanks blanks []
    rw [List.append_nil] at nothing
    exact unheard nothing
  | comment blanks => exact unheard (trim_uncommented_blanks blanks _)
  | directive cut unheeded =>
    have some : trim (uncommented raw) ≠ [] := by
      intro nothing
      rw [nothing] at cut
      cases cut
      cases unheeded.dot
    have heard : heard? none raw = Option.some .ignored := by
      rw [heard?, if_neg (by simp [some]), unheeded.ofText cut]
    exact ⟨.inr heard, by rw [blockAfter, heard]; rfl⟩
  | skipped goesOn =>
    refine ⟨.inl (if_pos (.inl rfl)), if_neg fun ends => goesOn ?_⟩
    exact List.isPrefixOf_iff_prefix.mp ends

namespace Reading

variable {reading next : Reading} {raw : List Char}

/-- Noise is counted and changes nothing else, with or without a carriage return at its end. -/
theorem step_noise (noise : Noise reading.block raw) :
    reading.step (closeLine raw.reverse) = .ok { reading with line := reading.line + 1 } := by
  obtain ⟨heard, block⟩ := noise.heard
  rw [step_eq, heard?_closeLine, blockAfter_closeLine, block]
  rcases heard with none | ignored
  · rw [none]
  · rw [ignored]
    rfl

/-! ## Where errors are found -/

theorem line_of_take {line : Line} {error : ListingError}
    (failed : reading.take raw line = .error error) : error.line = reading.line := by
  cases line with
  | methodEnd =>
    simp only [take, close] at failed
    split at failed <;> cases failed
    rfl
  | entry entry =>
    simp only [take, push] at failed
    split at failed <;> cases failed
    rfl
  | malformed => cases failed; rfl
  | _ => cases failed

theorem line_of_step {error : ListingError} (failed : reading.step raw = .error error) :
    error.line = reading.line + 1 := by
  cases heard : heard? reading.block raw with
  | none => rw [step_of_unheard heard] at failed; cases failed
  | some line => rw [step_of_heard heard] at failed; exact line_of_take failed

/-- An error is about one of the lines that were read. -/
theorem line_of_foldlM {texts : List (List Char)} {error : ListingError}
    (failed : texts.foldlM step reading = .error error) :
    reading.line < error.line ∧ error.line ≤ reading.line + texts.length := by
  induction texts generalizing reading with
  | nil => cases failed
  | cons raw rest ih =>
    rw [List.foldlM_cons] at failed
    rw [List.length_cons]
    cases stepped : reading.step raw with
    | error found =>
      rw [stepped] at failed
      cases failed
      have here := line_of_step stepped
      omega
    | ok next =>
      rw [stepped] at failed
      have counted := (step_spec stepped).1
      have later := ih failed
      omega

/-! ## One more line -/

theorem behind_one (reading : Reading) :
    reading.behind 1 #[] reading.className = { reading with line := reading.line + 1 } := by
  simp [behind, Nat.add_comm]

/-- After noise the reader is where it would be without it, one line further down. -/
theorem foldlM_step_insert {before after : List (List Char)}
    (noise : ∀ reading, before.foldlM step start = .ok reading → Noise reading.block raw) :
    (Reading.finish ·) <$> (before ++ closeLine raw.reverse :: after).foldlM step start =
      ((Reading.finish ·) <$> (before ++ after).foldlM step start).mapError
        (·.pushedDown before.length) := by
  rw [List.foldlM_append, List.foldlM_append]
  cases read : before.foldlM step start with
  | error error =>
    -- the line comes too late
    have earlier := (line_of_foldlM read).2
    have stays : error.pushedDown before.length = error := if_neg (by simpa [start] using earlier)
    exact congrArg Except.error stays.symm
  | ok reading =>
    have counted : reading.line = before.length := by simpa [start] using (spec_of_foldlM read).1
    have stepped : (closeLine raw.reverse :: after).foldlM step reading =
        after.foldlM step (reading.behind 1 #[] reading.className) := by
      rw [List.foldlM_cons, step_noise (noise reading read), behind_one]
      rfl
    have alike := @foldlM_step_behind reading 1 #[] after reading.className (.inl rfl)
    obtain ⟨goesOn, fails⟩ := alike.finish
    change (Reading.finish ·) <$> (closeLine raw.reverse :: after).foldlM step reading =
      ((Reading.finish ·) <$> after.foldlM step reading).mapError (·.pushedDown before.length)
    rw [stepped]
    cases rest : after.foldlM step reading with
    | ok last => exact goesOn last.finish (by rw [rest]; rfl)
    | error error =>
      have later := (line_of_foldlM rest).1
      have moves : error.pushedDown before.length = error.shift 1 := if_pos (counted ▸ later)
      exact (fails error (by rw [rest]; rfl)).trans (congrArg Except.error moves.symm)

end Reading

/-! ## One more line in a text -/

theorem parse_unlines {ls : List String} (oneLine : ∀ l ∈ ls, '\n' ∉ l.toList) :
    parse (unlines ls) = (Reading.finish ·) <$>
      (ls.map fun l => closeLine l.toList.reverse).foldlM Reading.step Reading.start := by
  rw [parse, lines_unlines oneLine]

/-- A line that is noise where it stands can be put into a text at any place: the listing remains the
same, and an error remains the same apart from its line number, which grows by one if the line stands
before or at the place of the error.  Behind an error any line will do. -/
theorem parse_insert {before after : List String} {line : String}
    (oneLine : ∀ l ∈ before ++ line :: after, '\n' ∉ l.toList)
    (noise : (∃ error, parse (unlines before) = .error error) ∨
      Noise (blockAtEnd (unlines before)) line.toList) :
    parse (unlines (before ++ line :: after)) =
      (parse (unlines (before ++ after))).mapError (·.pushedDown before.length) := by
  have early : ∀ l ∈ before, '\n' ∉ l.toList := fun l member => oneLine l (by simp [member])
  have others : ∀ l ∈ before ++ after, '\n' ∉ l.toList := fun l member => oneLine l (by
    rcases List.mem_append.mp member with first | second <;> simp [*])
  rw [parse_unlines oneLine, parse_unlines others, List.map_append, List.map_append, List.map_cons]
  rw [← List.length_map fun l : String => closeLine l.toList.reverse]
  refine Reading.foldlM_step_insert fun reading read => ?_
  rw [parse_unlines early, read, blockAtEnd, lines_unlines early] at noise
  rcases noise with ⟨error, failed⟩ | noise
  · cases failed
  · rwa [(Reading.spec_of_foldlM read).2]

/-- A method with an annotation and an instruction. -/
def annotated : List String :=
  [".class La;", ".method m()V", ".annotation x", ".end annotation", "nop", ".end method"]

/-- A line that cannot be read elsewhere is noise inside of the annotation, and the end of an
annotation is noise before one.  Behind an error any line will do. -/
theorem parse_insert_annotated :
    parse (unlines annotated) = .ok ⟨[⟨"La;->m()V", [⟨"nop", []⟩]⟩], none⟩ ∧
      Noise (blockAtEnd (unlines (annotated.take 3))) "\t.method".toList ∧
      parse (unlines (annotated.take 3 ++ "\t.method" :: annotated.drop 3)) =
        .ok ⟨[⟨"La;->m()V", [⟨"nop", []⟩]⟩], none⟩ ∧
      parse (unlines (annotated ++ ["\t.method"])) = .error (.malformed 7 "\t.method") ∧
      Noise (blockAtEnd (unlines (annotated.take 2))) ".end annotation # x".toList ∧
      parse (unlines (annotated.take 2 ++ ".end annotation # x" ::
        (annotated.drop 2 ++ ["\t.method"]))) = .error (.malformed 8 "\t.method") ∧
      parse (unlines (annotated ++ ["\t.method", "nop"])) = .error (.malformed 7 "\t.method") := by
  have whole : parse (unlines annotated) = .ok ⟨[⟨"La;->m()V", [⟨"nop", []⟩]⟩], none⟩ := by
    decide +kernel
  have failed : parse (unlines (annotated ++ ["\t.method"])) = .error (.malformed 7 "\t.method") := by
    decide +kernel
  have inside : blockAtEnd (unlines (annotated.take 3)) = some .annotationBlock := by decide +kernel
  have outside : blockAtEnd (unlines (annotated.take 2)) = none := by decide +kernel
  have skipped : Noise (blockAtEnd (unlines (annotated.take 3))) "\t.method".toList :=
    inside ▸ .skipped (by decide +kernel)
  have ended : Noise (blockAtEnd (unlines (annotated.take 2))) ".end annotation # x".toList :=
    outside ▸ .directive (by decide +kernel : _ = (".end".toList, "annotation".toList))
      ⟨by decide +kernel, by decide +kernel, by decide +kernel⟩
  refine ⟨whole, skipped, ?_, failed, ended, ?_, ?_⟩
  · have inserted := @parse_insert (annotated.take 3) (annotated.drop 3) _ (by decide +kernel)
      (.inr skipped)
    rwa [List.take_append_drop, whole] at inserted
  · have inserted := @parse_insert (annotated.take 2) (annotated.drop 2 ++ ["\t.method"]) _
      (by decide +kernel) (.inr ended)
    rwa [← List.append_assoc, List.take_append_drop, failed] at inserted
  · have inserted := @parse_insert (annotated ++ ["\t.method"]) [] "nop" (by decide +kernel)
      (.inl ⟨_, failed⟩)
    rwa [List.append_nil, failed, List.append_assoc] at inserted

end Listing

end Backflow
