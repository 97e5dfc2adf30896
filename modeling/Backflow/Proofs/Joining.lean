import Backflow.Proofs.Reading
import Backflow.Proofs.Statements
import Backflow.Store

/-! # Reading two texts as one

Two listings can be read one after the other or joined by a line feed and read as one.  The reader
carries a class, an open method, a block and a line number from one text into the next, so the second
text must not depend on any of them: the first one leaves no method and no block open, and the
second one names a class before it declares a method.

* `Text.lines_join`: the lines of a joined text.
* `Reading.behind` is the reading of a text that stands behind another one.
* `Listing.parse_join` is what both ways have in common, errors included.

A carriage return at the very end of the first text becomes part of the line ending when the line feed
follows it.  It is a blank for the reader, so this changes nothing (`Reading.step_closeLine`).
-/

namespace Backflow

namespace Text

/-! ## Lines of a joined text -/

theorem linesFrom_join (current first second : List Char) :
    linesFrom current (first ++ '\n' :: second) =
      linesFrom current (first ++ ['\n']) ++ linesFrom [] second := by
  induction first generalizing current with
  | nil => simp [linesFrom]
  | cons c first ih =>
    by_cases feed : c = '\n' <;> simp [linesFrom, feed, ih]

theorem lines_join (first second : List Char) :
    lines (first ++ '\n' :: second) = lines (first ++ ['\n']) ++ lines second :=
  linesFrom_join [] first second

theorem length_linesFrom (current text : List Char) :
    (linesFrom current (text ++ ['\n'])).length = text.count '\n' + 1 := by
  induction text generalizing current with
  | nil => simp [linesFrom]
  | cons c text ih =>
    by_cases feed : c = '\n' <;> simp [linesFrom, feed, ih]

/-- A line feed at the end of a text closes the line under way or adds an empty one. -/
theorem linesFrom_concat (current text : List Char) :
    ∃ whole last, linesFrom current (text ++ ['\n']) = whole ++ [closeLine last] ∧
      linesFrom current text = if last.isEmpty then whole else whole ++ [last.reverse] := by
  induction text generalizing current with
  | nil => exact ⟨[], current, by simp [linesFrom], by simp [linesFrom]⟩
  | cons c text ih =>
    by_cases feed : c = '\n'
    · obtain ⟨whole, last, closed, unclosed⟩ := ih []
      refine ⟨closeLine current :: whole, last, by simp [linesFrom, feed, closed], ?_⟩
      simp only [linesFrom, feed, unclosed, if_true]
      split <;> rfl
    · obtain ⟨whole, last, closed, unclosed⟩ := ih (c :: current)
      exact ⟨whole, last, by simp [linesFrom, feed, closed], by simp [linesFrom, feed, unclosed]⟩

end Text

/-- The error, further down by a number of lines. -/
def ListingError.shift (count : Nat) : ListingError → ListingError
  | .malformed line text => .malformed (count + line) text
  | .outsideMethod line => .outsideMethod (count + line)

namespace Listing

open Backflow.Text

namespace Reading

variable {reading next : Reading} {raw : List Char} {count : Nat} {earlier : Array Method}

/-! ## The end of the first text -/

theorem step_nil (reading : Reading) :
    reading.step [] = .ok { reading with line := reading.line + 1 } :=
  rfl

theorem take_raw {line : Line} (other : List Char) (taken : reading.take raw line = .ok next) :
    reading.take other line = .ok next := by
  cases line with
  | malformed => cases taken
  | _ => exact taken

theorem heard?_closeLine (block : Option Block) (raw : List Char) :
    heard? block (closeLine raw.reverse) = heard? block raw := by
  simp only [heard?, trim_uncommented_closeLine]

theorem blockAfter_closeLine (block : Option Block) (raw : List Char) :
    blockAfter block (closeLine raw.reverse) = blockAfter block raw := by
  simp only [blockAfter, heard?_closeLine, trim_uncommented_closeLine]

theorem step_closeLine (stepped : reading.step raw = .ok next) :
    reading.step (closeLine raw.reverse) = .ok next := by
  rw [step_eq] at stepped ⊢
  rw [heard?_closeLine, blockAfter_closeLine]
  cases heard : heard? reading.block raw with
  | none => simpa [heard] using stepped
  | some line =>
    rw [heard] at stepped
    exact take_raw _ stepped

theorem spec_of_foldlM {texts : List (List Char)} (read : texts.foldlM step reading = .ok next) :
    next.line = reading.line + texts.length ∧ next.block = texts.foldl blockAfter reading.block := by
  induction texts generalizing reading with
  | nil =>
    cases read
    exact ⟨rfl, rfl⟩
  | cons raw rest ih =>
    obtain ⟨middle, stepped, read⟩ := foldlM_step_cons.mp read
    obtain ⟨number, block⟩ := step_spec stepped
    obtain ⟨number', block'⟩ := ih read
    refine ⟨?_, by rw [block', block, List.foldl_cons]⟩
    rw [number', number, List.length_cons]
    omega

theorem foldlM_step_append {first second : List (List Char)} :
    (first ++ second).foldlM step reading = .ok next ↔
      ∃ middle, first.foldlM step reading = .ok middle ∧ second.foldlM step middle = .ok next := by
  rw [List.foldlM_append]
  cases first.foldlM step reading <;> simp [bind, Except.bind]

theorem foldlM_step_singleton : [raw].foldlM step reading = reading.step raw := by
  rw [List.foldlM_cons]
  cases reading.step raw <;> rfl

/-- A line feed at the end of a text counts as one more line and changes nothing else. -/
theorem foldlM_step_concat {text : List Char}
    (read : (lines text).foldlM step reading = .ok next) :
    (lines (text ++ ['\n'])).foldlM step reading =
      .ok { next with line := reading.line + (text.count '\n' + 1) } := by
  obtain ⟨whole, last, closed, unclosed⟩ := linesFrom_concat [] text
  have ended : ∃ number, (lines (text ++ ['\n'])).foldlM step reading =
      .ok { next with line := number } := by
    rw [lines, unclosed] at read
    rw [lines, closed]
    cases last with
    | nil =>
      -- the text ended in a line feed, or is empty: the new line is blank
      refine ⟨next.line + 1, foldlM_step_append.mpr ⟨next, by simpa using read, ?_⟩⟩
      exact foldlM_step_singleton.trans (step_nil next)
    | cons c last =>
      rw [List.isEmpty_cons, if_neg (by decide)] at read
      obtain ⟨middle, before, stepped⟩ := foldlM_step_append.mp read
      rw [foldlM_step_singleton] at stepped
      have same := step_closeLine stepped
      refine ⟨next.line, foldlM_step_append.mpr ⟨middle, before, ?_⟩⟩
      rw [foldlM_step_singleton]
      simpa using same
  obtain ⟨number, ended⟩ := ended
  have counted := (spec_of_foldlM ended).1
  rw [lines, length_linesFrom] at counted
  rw [ended, ← counted]

end Reading

/-! ## A text behind another one -/

/-- Each method is declared after a class is named. -/
def Qualified (statements : List Line) : Prop :=
  ∀ before signature after, statements = before ++ .methodDecl signature :: after →
    ∃ name, .classDecl name ∈ before

theorem qualified_cons {line : Line} {rest : List Line} :
    Qualified (line :: rest) ↔ (∀ signature, line ≠ .methodDecl signature) ∧
      ((∃ name, line = .classDecl name) ∨ Qualified rest) := by
  constructor
  · intro qualified
    refine ⟨?_, or_iff_not_imp_left.mpr fun unnamed before signature after split => ?_⟩
    · rintro signature rfl
      obtain ⟨name, member⟩ := qualified [] signature rest rfl
      cases member
    · obtain ⟨name, member⟩ := qualified (line :: before) signature after (by rw [split]; rfl)
      cases member with
      | head => exact absurd ⟨name, rfl⟩ unnamed
      | tail _ member => exact ⟨name, member⟩
  · rintro ⟨noDecl, named⟩ before signature after split
    cases before with
    | nil =>
      cases split
      exact absurd rfl (noDecl signature)
    | cons head tail =>
      cases split
      rcases named with ⟨name, rfl⟩ | others
      · exact ⟨name, .head _⟩
      · obtain ⟨name, member⟩ := others tail signature after rfl
        exact ⟨name, .tail _ member⟩

namespace Reading

variable {reading next : Reading} {raw : List Char} {count : Nat} {earlier : Array Method}

/-- What reading the same lines amounts to behind a number of other lines, which left the given
methods and the name of a class. -/
def behind (reading : Reading) (count : Nat) (earlier : Array Method) (className : String) : Reading :=
  ⟨count + reading.line, className, reading.current, reading.block, earlier ++ reading.methods⟩

/-- Both ways of reading fail at the same line, or both go on.  The class is then the same one unless
the lines to come name one before it is needed. -/
inductive Alike (count : Nat) (earlier : Array Method) (rest : List Line) :
    Except ListingError Reading → Except ListingError Reading → Prop
  | ok (reading : Reading) (className : String)
      (named : reading.className = className ∨ Qualified rest) :
      Alike count earlier rest (.ok reading) (.ok (reading.behind count earlier className))
  | error (error : ListingError) :
      Alike count earlier rest (.error error) (.error (error.shift count))

theorem take_behind (reading : Reading) {className : String} (raw : List Char) {line : Line}
    {rest : List Line} (named : reading.className = className ∨ Qualified (line :: rest)) :
    Alike count earlier rest (reading.take raw line)
      ((reading.behind count earlier className).take raw line) := by
  have unnamed : (∀ name, line ≠ .classDecl name) → reading.className = className ∨ Qualified rest :=
    fun other => named.imp_right fun qualified =>
      (qualified_cons.mp qualified).2.resolve_left fun ⟨name, same⟩ => other name same
  obtain ⟨number, ownName, current, block, methods⟩ := reading
  cases line with
  | classDecl name => exact .ok ⟨number, name, current, block, methods⟩ name (.inl rfl)
  | methodDecl signature =>
    -- the name of the method is qualified by the class, so this is where the class has to be the same
    rcases named with same | qualified
    · cases same
      exact .ok ⟨number, ownName, some ⟨ownName ++ "->" ++ signature, #[]⟩, block, methods⟩ _ (.inl rfl)
    · exact absurd rfl ((qualified_cons.mp qualified).1 signature)
  | methodEnd =>
    cases current with
    | none => exact .error (.outsideMethod number)
    | some m =>
      have closed := @Alike.ok count earlier rest
        ⟨number, ownName, none, block, methods.push m.close⟩ className (unnamed (by simp))
      simpa [take, close, behind] using closed
  | blockStart opened =>
    exact .ok ⟨number, ownName, current, some opened, methods⟩ className (unnamed (by simp))
  | entry entry =>
    cases current with
    | none => exact .error (.outsideMethod number)
    | some m =>
      exact .ok ⟨number, ownName, some { m with body := m.body.push entry }, block, methods⟩ className
        (unnamed (by simp))
  | ignored => exact .ok ⟨number, ownName, current, block, methods⟩ className (unnamed (by simp))
  | malformed => exact .error (.malformed number (String.ofList raw))

theorem step_behind {className : String} {rest : List Line}
    (named : reading.className = className ∨ Qualified ((heard? reading.block raw).toList ++ rest)) :
    Alike count earlier rest (reading.step raw)
      ((reading.behind count earlier className).step raw) := by
  have blocked : (reading.behind count earlier className).block = reading.block := rfl
  cases heard : heard? reading.block raw with
  | none =>
    rw [step_of_unheard heard, step_of_unheard (blocked ▸ heard)]
    rw [heard] at named
    exact .ok { reading with line := reading.line + 1, block := blockAfter reading.block raw } className
      named
  | some line =>
    rw [step_of_heard heard, step_of_heard (blocked ▸ heard)]
    rw [heard] at named
    exact take_behind { reading with line := reading.line + 1 } raw named

theorem foldlM_step_behind {texts : List (List Char)} {className : String}
    (named : reading.className = className ∨ Qualified (said reading.block texts)) :
    Alike count earlier [] (texts.foldlM step reading)
      (texts.foldlM step (reading.behind count earlier className)) := by
  induction texts generalizing reading className with
  | nil => exact .ok reading className named
  | cons raw rest ih =>
    rw [List.foldlM_cons, List.foldlM_cons]
    have stepped := @step_behind reading raw count earlier className _ named
    generalize alone : reading.step raw = one at stepped ⊢
    generalize (reading.behind count earlier className).step raw = two at stepped ⊢
    cases stepped with
    | error error => exact .error error
    | ok next className' named' =>
      rw [← (step_spec alone).2] at named'
      exact ih named'

theorem finish_behind (reading : Reading) (count : Nat) (earlier : Array Method) (className : String) :
    (reading.behind count earlier className).finish =
      ⟨earlier.toList ++ reading.finish.methods, reading.finish.unterminated⟩ := by
  obtain ⟨number, ownName, current, block, methods⟩ := reading
  cases current <;> simp [behind, finish]

theorem Alike.finish {rest : List Line} {alone joined : Except ListingError Reading}
    (alike : Alike count earlier rest alone joined) :
    (∀ more, (Reading.finish ·) <$> alone = .ok more → (Reading.finish ·) <$> joined =
        .ok ⟨earlier.toList ++ more.methods, more.unterminated⟩) ∧
      ∀ error, (Reading.finish ·) <$> alone = .error error →
        (Reading.finish ·) <$> joined = .error (error.shift count) := by
  cases alike with
  | ok reading className named =>
    refine ⟨fun more finished => ?_, fun error failed => by cases failed⟩
    cases finished
    exact congrArg Except.ok (finish_behind reading count earlier className)
  | error error =>
    refine ⟨fun more finished => (by cases finished), fun other failed => ?_⟩
    cases failed
    rfl

end Reading

/-! ## Joined texts -/

/-- After the first text and a line feed the reader is where it would be before the second one, apart
from the lines counted, the methods found and the name of the class. -/
theorem parse_join_eq {first : String} {listing : Listing} (parsed : parse first = .ok listing)
    (closed : listing.unterminated = none) (outside : blockAtEnd first = none) (second : String) :
    ∃ className, parse (first ++ "\n" ++ second) = (Reading.finish ·) <$>
      (lines second.toList).foldlM Reading.step
        (Reading.start.behind (first.toList.count '\n' + 1) listing.methods.toArray className) := by
  obtain ⟨reading, read, rfl⟩ := exists_reading parsed
  obtain ⟨number, className, current, block, methods⟩ := reading
  obtain rfl : block = none := (Reading.spec_of_foldlM read).2.trans outside
  obtain rfl : current = none := by
    cases current with
    | none => rfl
    | some m => cases closed
  refine ⟨className, ?_⟩
  have joined : (first ++ "\n" ++ second).toList = first.toList ++ '\n' :: second.toList := by simp
  rw [parse, joined, lines_join, List.foldlM_append, Reading.foldlM_step_concat read]
  simp [bind, Except.bind, Reading.behind, Reading.start, Reading.finish]

theorem load_append (store : Store) (listing more : Listing) (unterminated : Option String) :
    store.load ⟨listing.methods ++ more.methods, unterminated⟩ = (store.load listing).load more :=
  List.foldl_append

theorem run_loadFile_text (store : Store) {text : String} {listing : Listing}
    (parsed : parse text = .ok listing) :
    (Store.loadFile (some text.toUTF8)).run store = .ok () (store.load listing) := by
  have decoded : String.fromUTF8? text.toUTF8 = some text := dif_pos text.isValidUTF8
  simp only [Store.run_loadFile, ofFile, Option.bind_some, decoded, parsed]

/-- Two texts joined by a line feed read as one after the other, and loading one after the other fills
a store as loading the joined text does.  If the second one cannot be read, the joined text is refused
for the same reason, as many lines further down as the first one has. -/
theorem parse_join {first second : String} {listing : Listing} (parsed : parse first = .ok listing)
    (closed : listing.unterminated = none) (outside : blockAtEnd first = none)
    (qualified : Qualified (statements second)) :
    (∀ more, parse second = .ok more → ∃ joined, parse (first ++ "\n" ++ second) = .ok joined ∧
        joined.methods = listing.methods ++ more.methods ∧ joined.unterminated = more.unterminated ∧
        ∀ store : Store, (store.load listing).load more = store.load joined ∧
          (Store.loadFile (some first.toUTF8) >>= fun _ =>
              Store.loadFile (some second.toUTF8)).run store =
            (Store.loadFile (some (first ++ "\n" ++ second).toUTF8)).run store ∧
          (Store.loadFile (some (first ++ "\n" ++ second).toUTF8)).run store =
            .ok () (store.load joined)) ∧
      ∀ error, parse second = .error error →
        parse (first ++ "\n" ++ second) = .error (error.shift (first.toList.count '\n' + 1)) := by
  obtain ⟨className, joined⟩ := parse_join_eq parsed closed outside second
  have alike := @Reading.foldlM_step_behind Reading.start (first.toList.count '\n' + 1)
    listing.methods.toArray (lines second.toList) className (.inr qualified)
  obtain ⟨goesOn, fails⟩ := alike.finish
  refine ⟨fun more read => ?_, fun error failed => joined.trans (fails error failed)⟩
  have whole := joined.trans (goesOn more read)
  refine ⟨_, whole, rfl, rfl, fun store => ?_⟩
  have loaded := load_append store listing more more.unterminated
  have filled := run_loadFile_text store whole
  refine ⟨loaded.symm, ?_, filled⟩
  rw [EStateM.run_bind, run_loadFile_text store parsed, filled]
  exact (run_loadFile_text _ read).trans (congrArg (EStateM.Result.ok ()) loaded.symm)

/-- A text whose lines end in a carriage return, the last one without a line feed. -/
def unclosed : String :=
  ".class La;\r\n.method a()V\r\nnop\r\n.end method\r"

def attached : String :=
  ".class Lb;\n.method b()V"

/-- A text that names a class and has an instruction outside of any method, on its second line. -/
def refused : String :=
  ".class Lb;\nnop"

/-- Behind the four lines of `unclosed` the second line of `refused` is the sixth. -/
theorem parse_join_unclosed :
    parse unclosed = .ok ⟨[⟨"La;->a()V", [⟨"nop", []⟩]⟩], none⟩ ∧ blockAtEnd unclosed = none ∧
      (∃ joined, parse (unclosed ++ "\n" ++ attached) = .ok joined ∧
        joined.methods = [⟨"La;->a()V", [⟨"nop", []⟩]⟩, ⟨"Lb;->b()V", []⟩] ∧
        joined.unterminated = some "Lb;->b()V") ∧
      (∃ filled, (Store.loadFile (some unclosed.toUTF8) >>= fun _ =>
          Store.loadFile (some attached.toUTF8)).run .empty = .ok () filled ∧
        (Store.loadFile (some (unclosed ++ "\n" ++ attached).toUTF8)).run .empty = .ok () filled ∧
        filled.instructions = #[⟨0, 0, "nop", []⟩] ∧
        filled.scopes = #[⟨"La;->a()V", 0, 1⟩, ⟨"Lb;->b()V", 1, 1⟩]) ∧
      parse refused = .error (.outsideMethod 2) ∧
      parse (unclosed ++ "\n" ++ refused) = .error (.outsideMethod 6) := by
  have parsed : parse unclosed = .ok ⟨[⟨"La;->a()V", [⟨"nop", []⟩]⟩], none⟩ := by decide +kernel
  have outside : blockAtEnd unclosed = none := by decide +kernel
  have said : statements attached = [.classDecl "Lb;", .methodDecl "b()V"] := by decide +kernel
  have said' : statements refused = [.classDecl "Lb;", .entry ⟨"nop", []⟩] := by decide +kernel
  have named : ∀ rest, Qualified (.classDecl "Lb;" :: rest) := fun rest =>
    qualified_cons.mpr ⟨nofun, .inl ⟨_, rfl⟩⟩
  have more : parse attached = .ok ⟨[⟨"Lb;->b()V", []⟩], some "Lb;->b()V"⟩ := by decide +kernel
  have failed : parse refused = .error (.outsideMethod 2) := by decide +kernel
  obtain ⟨joined, whole, methods, unterminated, loads⟩ :=
    (parse_join parsed rfl outside (said ▸ named _)).1 _ more
  obtain ⟨same, inTurn, atOnce⟩ := loads .empty
  have shifted := (parse_join parsed rfl outside (said' ▸ named _)).2 _ failed
  have lines : ListingError.shift (unclosed.toList.count '\n' + 1) (.outsideMethod 2) =
      .outsideMethod 6 := by decide +kernel
  refine ⟨parsed, outside, ⟨joined, whole, methods, unterminated⟩,
    ⟨_, inTurn.trans atOnce, atOnce, ?_, ?_⟩, failed, lines ▸ shifted⟩
  · rw [← same]
    decide +kernel
  · rw [← same]
    decide +kernel

end Listing

end Backflow
