import Backflow.Proofs.Reading

/-! # Exception handlers and their spacing

The directive of an exception handler has seven places where blanks can stand: behind the type,
around the dots, on the inner sides of the braces, in front of the handler and at the end.  Six of
them take spaces and tabs alike.  The type runs up to the next space, so a tab behind it is taken
for a part of it.

* `Gap`, `LabelName` and `ExceptionName` are the pieces of a directive, `HandlerGaps` the gaps from
  the opening brace on; `HandlerGaps.write` puts them together.
* `readHandler?_write` reads what is written from the opening brace on, behind any type.
* `readException_space` and `readException_tabs` are the two ways in which a type can end.
-/

namespace Backflow.Operand

open Backflow.Text

/-! ## Pieces of a directive -/

structure Gap where
  text : List Char
  blank : ∀ c ∈ text, isGap c = true

structure LabelName where
  text : List Char
  nonempty : text ≠ []
  spelled : ∀ c ∈ text, isLabelChar c = true

structure ExceptionName where
  text : List Char
  nonempty : text ≠ []
  spelled : ∀ c ∈ text, isGap c = false ∧ c ≠ '{'

/-- The gaps of a directive from the opening brace on.  The handler stands apart from the brace. -/
structure HandlerGaps where
  opening : Gap
  beforeDots : Gap
  afterDots : Gap
  closing : Gap
  beforeHandler : Gap
  atEnd : Gap
  apart : beforeHandler.text ≠ []

def LabelName.operand (name : LabelName) : Operand :=
  .label (String.ofList name.text)

/-- The guarded range and the handler of a directive. -/
def HandlerGaps.write (gaps : HandlerGaps) (first last handler : LabelName) : List Char :=
  '{' :: (gaps.opening.text ++ ':' :: (first.text ++ (gaps.beforeDots.text ++ '.' :: '.' ::
    (gaps.afterDots.text ++ ':' :: (last.text ++ (gaps.closing.text ++ '}' ::
      (gaps.beforeHandler.text ++ ':' :: (handler.text ++ gaps.atEnd.text))))))))

/-! ## Gaps and labels -/

theorem Gap.eq_or {gap : Gap} {c : Char} (member : c ∈ gap.text) : c = ' ' ∨ c = '\t' := by
  simpa [isGap] using gap.blank c member

theorem Gap.skipGap_append (gap : Gap) {c : Char} (token : isGap c = false) (rest : List Char) :
    skipGap (gap.text ++ c :: rest) = c :: rest :=
  dropWhile_run gap.blank (endsRun_cons token rest)

theorem Gap.skipGap_text (gap : Gap) : skipGap gap.text = [] := by
  simpa [skipGap] using dropWhile_run gap.blank (endsRun_nil isGap)

theorem Gap.readGap?_append (gap : Gap) (apart : gap.text ≠ []) {c : Char} (token : isGap c = false)
    (rest : List Char) : readGap? (gap.text ++ c :: rest) = some (c :: rest) := by
  obtain ⟨text, blank⟩ := gap
  cases text with
  | nil => exact absurd rfl apart
  | cons d text =>
    have skipped := Gap.skipGap_append ⟨text, fun e member => blank e (.tail _ member)⟩ token rest
    simp only [List.cons_append, readGap?, blank d (.head _), if_true]
    exact congrArg some skipped

theorem Gap.endsRun_append (gap : Gap) {rest : List Char} (ends : EndsRun isLabelChar rest) :
    EndsRun isLabelChar (gap.text ++ rest) := by
  intro c found
  cases text : gap.text with
  | nil => exact ends c (by simpa [text] using found)
  | cons d more =>
    obtain rfl : d = c := by simpa [text] using found
    have member : d ∈ gap.text := by simp [text]
    rcases Gap.eq_or member with rfl | rfl <;> decide +kernel

theorem LabelName.readLabel?_append (name : LabelName) {rest : List Char}
    (ends : EndsRun isLabelChar rest) :
    readLabel? (':' :: (name.text ++ rest)) = some (name.operand, rest) := by
  simp [readLabel?, takeWhile_run name.spelled ends, dropWhile_run name.spelled ends, name.nonempty,
    LabelName.operand]

/-! ## From the opening brace on -/

theorem HandlerGaps.readGuarded?_write (gaps : HandlerGaps) (first last handler : LabelName) :
    readGuarded? (gaps.write first last handler) =
      some ([first.operand, last.operand],
        gaps.beforeHandler.text ++ ':' :: (handler.text ++ gaps.atEnd.text)) := by
  have colon : isGap ':' = false := by decide
  have dot : isGap '.' = false := by decide
  have brace : isGap '}' = false := by decide
  have toDots : ∀ rest, EndsRun isLabelChar (gaps.beforeDots.text ++ '.' :: rest) := fun rest =>
    gaps.beforeDots.endsRun_append (endsRun_cons (by decide +kernel) rest)
  have toBrace : ∀ rest, EndsRun isLabelChar (gaps.closing.text ++ '}' :: rest) := fun rest =>
    gaps.closing.endsRun_append (endsRun_cons (by decide +kernel) rest)
  simp [readGuarded?, HandlerGaps.write, Gap.skipGap_append, colon, dot, brace,
    first.readLabel?_append (toDots _), last.readLabel?_append (toBrace _)]

/-- What is written from the opening brace on is read whole, whatever has been read before it. -/
theorem HandlerGaps.readHandler?_write (gaps : HandlerGaps) (first last handler : LabelName)
    {text : List Char} {exception : List Operand}
    (read : readException text = (exception, gaps.write first last handler)) :
    readHandler? text = some (exception ++ [first.operand, last.operand, handler.operand]) := by
  have atEnd : EndsRun isLabelChar gaps.atEnd.text := by
    simpa using gaps.atEnd.endsRun_append (endsRun_nil isLabelChar)
  simp [readHandler?, read, gaps.readGuarded?_write,
    gaps.beforeHandler.readGap?_append gaps.apart (by decide : isGap ':' = false),
    handler.readLabel?_append atEnd, gaps.atEnd.skipGap_text]

/-! ## The type -/

def isTypeChar (c : Char) : Bool :=
  c != ' ' && c != '{'

theorem ExceptionName.isTypeChar_append (exception : ExceptionName) {gap : Gap} {tabs : List Char}
    (part : tabs ⊆ gap.text) (noSpace : ' ' ∉ tabs) :
    ∀ c ∈ exception.text ++ tabs, isTypeChar c = true := by
  intro c member
  rcases List.mem_append.mp member with named | tab
  · obtain ⟨noGap, noBrace⟩ := exception.spelled c named
    have noSpace' : c ≠ ' ' := by rintro rfl; simp [isGap] at noGap
    simp [isTypeChar, noSpace', noBrace]
  · rcases Gap.eq_or (part tab) with rfl | rfl
    · exact absurd tab noSpace
    · decide

/-- A type is read if it has a character and a gap follows it, and else nothing is. -/
theorem readException_run {name rest : List Char} (inside : ∀ c ∈ name, isTypeChar c = true)
    (ends : EndsRun isTypeChar rest) :
    readException (name ++ rest) =
      if name = [] then ([], rest)
      else (readGap? rest).elim ([], name ++ rest) fun out => ([.type (String.ofList name)], out) := by
  have taken : (name ++ rest).takeWhile (fun c => c != ' ' && c != '{') = name :=
    takeWhile_run inside ends
  have dropped : (name ++ rest).dropWhile (fun c => c != ' ' && c != '{') = rest :=
    dropWhile_run inside ends
  simp only [readException, taken, dropped]
  cases name with
  | nil => rfl
  | cons c name => cases readGap? rest <;> rfl

/-- A type ends at a space, and the tabs in front of that space belong to it. -/
theorem ExceptionName.readException_space (exception : ExceptionName) {gap : Gap}
    {tabs more : List Char} (cut : gap.text = tabs ++ ' ' :: more) (noSpace : ' ' ∉ tabs)
    (rest : List Char) :
    readException (exception.text ++ gap.text ++ '{' :: rest) =
      ([.type (String.ofList (exception.text ++ tabs))], '{' :: rest) := by
  have part : tabs ⊆ gap.text := by simp [cut]
  have inside := exception.isTypeChar_append part noSpace
  have ends : EndsRun isTypeChar (' ' :: (more ++ '{' :: rest)) := endsRun_cons (by decide) _
  have gapAfter : readGap? (' ' :: (more ++ '{' :: rest)) = some ('{' :: rest) :=
    Gap.readGap?_append ⟨' ' :: more, fun c member => gap.blank c (by simp_all)⟩
      (List.cons_ne_nil _ _) (by decide) rest
  have text : exception.text ++ gap.text ++ '{' :: rest =
      exception.text ++ tabs ++ ' ' :: (more ++ '{' :: rest) := by simp [cut]
  rw [text, readException_run inside ends, gapAfter]
  simp [exception.nonempty]

/-- Tabs alone do not end a type, so there is none in front of the brace. -/
theorem ExceptionName.readException_tabs (exception : ExceptionName) {gap : Gap}
    (noSpace : ' ' ∉ gap.text) (rest : List Char) :
    readException (exception.text ++ gap.text ++ '{' :: rest) =
      ([], exception.text ++ gap.text ++ '{' :: rest) := by
  have inside := exception.isTypeChar_append (List.Subset.refl _) noSpace
  have ends : EndsRun isTypeChar ('{' :: rest) := endsRun_cons (by decide) rest
  have noGap : readGap? ('{' :: rest) = none := by simp [readGap?, isGap]
  rw [readException_run inside ends, noGap]
  simp [exception.nonempty]

/-! ## Whole directives -/

variable (gaps : HandlerGaps) (first last handler : LabelName)

theorem HandlerGaps.readHandler?_space (exception : ExceptionName) {gap : Gap}
    {tabs more : List Char} (cut : gap.text = tabs ++ ' ' :: more) (noSpace : ' ' ∉ tabs) :
    readHandler? (exception.text ++ gap.text ++ gaps.write first last handler) =
      some [.type (String.ofList (exception.text ++ tabs)), first.operand, last.operand,
        handler.operand] :=
  gaps.readHandler?_write first last handler (exception.readException_space cut noSpace _)

theorem HandlerGaps.readHandler?_tabs (exception : ExceptionName) {gap : Gap}
    (noSpace : ' ' ∉ gap.text) :
    readHandler? (exception.text ++ gap.text ++ gaps.write first last handler) = none := by
  -- no type is taken off, and what is left does not start with a brace
  obtain ⟨c, name, spelled⟩ := List.exists_cons_of_ne_nil exception.nonempty
  have noBrace : c ≠ '{' := (exception.spelled c (by simp [spelled])).2
  have unguarded : ∀ rest, readGuarded? (c :: rest) = none := by simp [readGuarded?, noBrace]
  have read := exception.readException_tabs noSpace (gaps.write first last handler).tail
  change readException (_ ++ gaps.write first last handler) = (_, _ ++ gaps.write first last handler)
    at read
  simp only [readHandler?, read]
  simp [spelled, unguarded]

/-- However a directive is spaced, the guarded range and the handler are read.  A type in front of
them is read as it stands exactly if the gap behind it starts with a space, and without a space in
that gap the directive is refused. -/
theorem handler_spaced :
    readHandler? (gaps.write first last handler) =
        some [first.operand, last.operand, handler.operand] ∧
      ∀ (exception : ExceptionName) (gap : Gap),
        (readHandler? (exception.text ++ gap.text ++ gaps.write first last handler) =
            some [.type (String.ofList exception.text), first.operand, last.operand,
              handler.operand] ↔
          gap.text.head? = some ' ') ∧
        (readHandler? (exception.text ++ gap.text ++ gaps.write first last handler) = none ↔
          ' ' ∉ gap.text) := by
  have noType : readException (gaps.write first last handler) =
      ([], gaps.write first last handler) :=
    readException_run (by simp : ∀ c ∈ ([] : List Char), isTypeChar c = true)
      (endsRun_cons (by decide) _)
  refine ⟨gaps.readHandler?_write first last handler noType, fun exception gap => ?_⟩
  by_cases space : ' ' ∈ gap.text
  · -- the type that is read ends at the first space of the gap
    obtain ⟨tabs, more, cut, noSpace⟩ := List.eq_append_cons_of_mem space
    rw [gaps.readHandler?_space first last handler exception cut noSpace]
    refine ⟨?_, by simp [space]⟩
    cases tabs with
    | nil => simp [cut]
    | cons c tabs =>
      have noSpace' : c ≠ ' ' := fun same => noSpace (same ▸ .head _)
      simp [cut, noSpace']
  · rw [gaps.readHandler?_tabs first last handler exception space]
    refine ⟨?_, by simp [space]⟩
    simp only [reduceCtorEq, false_iff]
    exact fun starts => space (List.mem_of_head? starts)

/-- Tabs in all gaps from the opening brace on but the first one. -/
def tabbed : HandlerGaps where
  opening := ⟨[], List.all_eq_true.mp rfl⟩
  beforeDots := ⟨['\t'], List.all_eq_true.mp rfl⟩
  afterDots := ⟨['\t', ' '], List.all_eq_true.mp rfl⟩
  closing := ⟨['\t'], List.all_eq_true.mp rfl⟩
  beforeHandler := ⟨['\t', '\t'], List.all_eq_true.mp rfl⟩
  atEnd := ⟨['\t'], List.all_eq_true.mp rfl⟩
  apart := by decide

theorem handler_spaced_tabbed :
    readHandler? "\x7b:a\t..\t :é_1\t\x7d\t\t:c\t".toList =
        some [.label "a", .label "é_1", .label "c"] ∧
      readHandler? "Lx; \t\x7b:a\t..\t :é_1\t\x7d\t\t:c\t".toList =
        some [.type "Lx;", .label "a", .label "é_1", .label "c"] := by
  obtain ⟨labels, typed⟩ := handler_spaced tabbed
    ⟨['a'], by decide, List.all_eq_true.mp (by decide +kernel)⟩
    ⟨['é', '_', '1'], by decide, List.all_eq_true.mp (by decide +kernel)⟩
    ⟨['c'], by decide, List.all_eq_true.mp (by decide +kernel)⟩
  have whole := (typed ⟨"Lx;".toList, by decide, by simp [isGap]⟩
    ⟨[' ', '\t'], List.all_eq_true.mp rfl⟩).1.mpr rfl
  exact ⟨labels, whole⟩

/-- A tab right behind the type: alone it makes the whole listing unreadable, and with a space after
it the type is read with the tab in it. -/
theorem handler_tab_refused :
    readHandler? "Lx;\t\x7b:a .. :b\x7d :c".toList = none ∧
      readHandler? "Lx;\t \x7b:a .. :b\x7d :c".toList =
        some [.type "Lx;\t", .label "a", .label "b", .label "c"] ∧
      Listing.parse ".class La;\n.method m()V\n.catch Lx;\t\x7b:a .. :b\x7d :c\n.end method\n" =
        .error (.malformed 3 ".catch Lx;\t\x7b:a .. :b\x7d :c") := by
  refine ⟨by decide +kernel, by decide +kernel, by decide +kernel⟩

end Backflow.Operand
