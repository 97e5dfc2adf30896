import Backflow.Proofs.Reading

/-! # Operands as they are written

Operands are written with commas between them and read back from such a text.  A token must not look
like anything else then: a comma would end it, a brace or a quote at its start would make it a group
or a literal, blanks at its ends would be trimmed, and its kind has to be found again from its shape.

* `IsBare` are the texts that are read as one bare token.
* `Operand.Written` are the operands that are read back as they are; reading gives no others
  (`written_of_readList?`).
* `readOperand?_render` reads one operand in front of a comma or the end, `readList?_render` a list.

Registers are read from several spellings and written in one, so a text need not come back as it was;
its operands do.
-/

namespace Backflow

open Backflow.Text

theorem Text.isBlank_of_isDigit {c : Char} (digit : c.isDigit = true) : isBlank c = false := by
  simp only [Char.isDigit, Bool.and_eq_true, decide_eq_true_eq, UInt32.le_iff_toNat_le,
    ge_iff_le] at digit
  have range : 48 ≤ c.toNat ∧ c.toNat ≤ 57 := digit
  simp only [isBlank, blankRanges, Ranges.contains, Ranges.containsCode, Bool.and_eq_false_imp,
    Bool.or_eq_false_iff, decide_eq_true_eq, decide_eq_false_iff_not]
  omega

/-! ## Registers -/

namespace Register

theorem toList_render (r : Register) :
    r.render.toList = r.kind.letter :: Nat.toDigits 10 r.index.toNat := by
  simp [render]

theorem isDigit_of_mem_index {r : Register} {c : Char} (member : c ∈ Nat.toDigits 10 r.index.toNat) :
    c.isDigit = true :=
  Nat.isDigit_of_mem_toDigits (by decide) (by decide) member

theorem eq_or_of_mem_render {r : Register} {c : Char} (member : c ∈ r.render.toList) :
    c = 'v' ∨ c = 'p' ∨ c.isDigit = true := by
  rw [toList_render, List.mem_cons] at member
  rcases member with rfl | digit
  · cases r.kind <;> simp [RegisterKind.letter]
  · exact .inr (.inr (isDigit_of_mem_index digit))

theorem ofIndexText?_index (r : Register) :
    ofIndexText? r.kind (Nat.toDigits 10 r.index.toNat) = some r := by
  have unsigned : ∀ rest, Nat.toDigits 10 r.index.toNat ≠ '+' :: rest := by
    intro rest signed
    have digit : '+'.isDigit = true := isDigit_of_mem_index (r := r) (by simp [signed])
    simp at digit
  have digits : (Nat.toDigits 10 r.index.toNat).all Char.isDigit = true :=
    List.all_eq_true.mpr fun c member => isDigit_of_mem_index member
  have bound : r.index.toNat ≤ 65535 := Nat.le_of_lt_succ r.index.toNat_lt
  have value : Nat.ofDigitChars 10 (Nat.toDigits 10 r.index.toNat) 0 = r.index.toNat :=
    Nat.ofDigitChars_toDigits (by decide) (by decide)
  have read : readDecimal? 65535 (Nat.toDigits 10 r.index.toNat) = some r.index.toNat := by
    unfold readDecimal?
    split
    · rename_i rest signed
      exact absurd signed (unsigned rest)
    · simp [Nat.toDigits_ne_nil, digits, value, bound]
  rw [ofIndexText?, read, Option.map_some, UInt16.ofNat_toNat]

theorem ofChars?_render (r : Register) : ofChars? r.render.toList = some r := by
  rw [toList_render]
  have read := ofIndexText?_index r
  obtain ⟨kind, index⟩ := r
  cases kind <;> exact read

end Register

namespace Operand

theorem readRegister?_render (r : Register) {rest : List Char} (ends : EndsRun Char.isDigit rest) :
    readRegister? (r.render.toList ++ rest) = some (r, rest) := by
  have digits : ∀ c ∈ Nat.toDigits 10 r.index.toNat, c.isDigit = true :=
    fun c member => Register.isDigit_of_mem_index member
  have index : readIndex? r.kind (Nat.toDigits 10 r.index.toNat ++ rest) = some (r, rest) := by
    rw [readIndex?, takeWhile_run digits ends, dropWhile_run digits ends,
      Register.ofIndexText?_index, Option.map_some]
  rw [Register.toList_render]
  obtain ⟨kind, number⟩ := r
  cases kind <;> exact index

/-! ## Lists of texts -/

/-- Texts with commas between them: the first one, and each further one behind a comma. -/
theorem toList_intercalate_cons (first : String) (others : List String) :
    (", ".intercalate (first :: others)).toList =
      first.toList ++ others.flatMap fun text => ',' :: ' ' :: text.toList := by
  induction others generalizing first with
  | nil => simp
  | cons second others ih => simp [String.intercalate_cons_cons, ih]

theorem skipGap_token {c : Char} (token : isGap c = false) (rest : List Char) :
    skipGap (c :: rest) = c :: rest := by
  simp [skipGap, token]

theorem skipGap_space (rest : List Char) : skipGap (' ' :: rest) = skipGap rest := by
  simp [skipGap, isGap]

theorem skipGap_render (r : Register) (rest : List Char) :
    skipGap (r.render.toList ++ rest) = r.render.toList ++ rest := by
  rw [Register.toList_render]
  cases r.kind <;> exact skipGap_token (by decide) _

/-! ## Groups -/

theorem readRegistersToBrace?_brace {text rest : List Char} (gap : skipGap text = '}' :: rest) :
    readRegistersToBrace? text = some ([], rest) := by
  rw [readRegistersToBrace?]
  split
  · rename_i found
    cases gap.symm.trans found
    rfl
  · rename_i found
    cases gap.symm.trans found
  · rename_i other _
    exact absurd gap (other rest)

theorem readRegistersToBrace?_comma {text rest rest' : List Char} {r : Register}
    (gap : skipGap text = ',' :: rest) (read : readRegister? (skipGap rest) = some (r, rest')) :
    readRegistersToBrace? text =
      (readRegistersToBrace? rest').map fun (registers, out) => (r :: registers, out) := by
  rw [readRegistersToBrace?]
  split
  · rename_i found
    cases gap.symm.trans found
  · rename_i found
    cases gap.symm.trans found
    split
    · rename_i found
      cases read.symm.trans found
      rfl
    · rename_i unread
      cases read.symm.trans unread
  · rename_i _ other
    exact absurd gap (other rest)

theorem endsRun_registers (registers : List Register) (rest : List Char) :
    EndsRun Char.isDigit
      ((registers.flatMap fun r => ',' :: ' ' :: r.render.toList) ++ '}' :: rest) := by
  cases registers with
  | nil => exact endsRun_cons (by decide) rest
  | cons r registers => exact endsRun_cons (by decide) _

theorem readRegistersToBrace?_render (registers : List Register) (rest : List Char) :
    readRegistersToBrace?
        ((registers.flatMap fun r => ',' :: ' ' :: r.render.toList) ++ '}' :: rest) =
      some (registers, rest) := by
  induction registers with
  | nil => exact readRegistersToBrace?_brace (skipGap_token (by decide) rest)
  | cons r registers ih =>
    have read := readRegister?_render r (endsRun_registers registers rest)
    rw [← skipGap_render, ← skipGap_space] at read
    have split : ((r :: registers).flatMap fun r => ',' :: ' ' :: r.render.toList) ++ '}' :: rest =
        ',' :: ' ' :: (r.render.toList ++
          ((registers.flatMap fun r => ',' :: ' ' :: r.render.toList) ++ '}' :: rest)) := by simp
    rw [split, readRegistersToBrace?_comma (skipGap_token (by decide) _) read, ih, Option.map_some]

theorem readGroup?_range (first last : Register) (rest : List Char) :
    readGroup? ((regRange first last).render.toList ++ rest) = some (.regRange first last, rest) := by
  have text : (regRange first last).render.toList ++ rest =
      '{' :: (first.render.toList ++ ' ' :: '.' :: '.' :: ' ' ::
        (last.render.toList ++ '}' :: rest)) := by simp [render]
  have one := readRegister?_render first (endsRun_cons (by decide : ' '.isDigit = false)
    ('.' :: '.' :: ' ' :: (last.render.toList ++ '}' :: rest)))
  have two := readRegister?_render last (endsRun_cons (by decide : '}'.isDigit = false) rest)
  have dots : skipGap (' ' :: '.' :: '.' :: ' ' :: (last.render.toList ++ '}' :: rest)) =
      '.' :: '.' :: ' ' :: (last.render.toList ++ '}' :: rest) := rfl
  have brace : readBrace? ('}' :: rest) = some rest := rfl
  simp [text, readGroup?, skipGap_render, one, readGroupAfter?, dots, skipGap_space, two, brace]

theorem readGroup?_list (registers : List Register) (rest : List Char) :
    readGroup? ((regList registers).render.toList ++ rest) = some (.regList registers, rest) := by
  cases registers with
  | nil =>
    have text : (regList []).render.toList ++ rest = '{' :: '}' :: rest := by simp [render]
    rw [text]
    rfl
  | cons first registers =>
    have text : (regList (first :: registers)).render.toList ++ rest =
        '{' :: (first.render.toList ++
          ((registers.flatMap fun r => ',' :: ' ' :: r.render.toList) ++ '}' :: rest)) := by
      simp [render, -String.toList_intercalate, toList_intercalate_cons, List.flatMap_map]
    have read := readRegister?_render first (endsRun_registers registers rest)
    -- a comma or the brace comes next, so this is not a range
    have noDots : ∀ more, skipGap ((registers.flatMap fun r => ',' :: ' ' :: r.render.toList) ++
        '}' :: rest) ≠ '.' :: '.' :: more := by
      intro more
      cases registers <;> simp [skipGap, isGap]
    rw [text]
    simp only [readGroup?, skipGap_render, read]
    unfold readGroupAfter?
    split
    · rename_i found
      exact absurd found (noDots _)
    · rw [readRegistersToBrace?_render]
      rfl

/-! ## What a group is read from -/

/-- The characters that a group is written with, and the sign of a register's number. -/
def isPlain (c : Char) : Bool :=
  c.isDigit || ['v', 'p', '+', '{', '}', ',', '.', ' ', '\t'].contains c

/-- What is read between two texts is written with plain characters. -/
def PassesPlain (text rest : List Char) : Prop :=
  ∃ passed, text = passed ++ rest ∧ ∀ c ∈ passed, isPlain c = true

theorem PassesPlain.trans {text middle rest : List Char} (first : PassesPlain text middle)
    (second : PassesPlain middle rest) : PassesPlain text rest := by
  obtain ⟨one, rfl, plain⟩ := first
  obtain ⟨two, rfl, plain'⟩ := second
  refine ⟨one ++ two, (List.append_assoc _ _ _).symm, fun c member => ?_⟩
  exact (List.mem_append.mp member).elim (plain c) (plain' c)

theorem passesPlain_cons {c : Char} (plain : isPlain c = true) (rest : List Char) :
    PassesPlain (c :: rest) rest :=
  ⟨[c], rfl, by simpa using plain⟩

theorem passesPlain_skipGap (text : List Char) : PassesPlain text (skipGap text) := by
  refine ⟨text.takeWhile isGap, List.takeWhile_append_dropWhile.symm, fun c member => ?_⟩
  have gap := List.all_eq_true.mp List.all_takeWhile c member
  rcases (by simpa [isGap] using gap : c = ' ' ∨ c = '\t') with rfl | rfl <;> decide

theorem passesPlain_readIndex? {kind : RegisterKind} {text rest : List Char} {r : Register}
    (read : readIndex? kind text = some (r, rest)) : PassesPlain text rest := by
  simp only [readIndex?, Option.map_eq_some_iff, Prod.mk.injEq] at read
  obtain ⟨_, _, _, rfl⟩ := read
  refine ⟨text.takeWhile Char.isDigit, List.takeWhile_append_dropWhile.symm, fun c member => ?_⟩
  have digit := List.all_eq_true.mp List.all_takeWhile c member
  simp [isPlain, digit]

theorem passesPlain_readRegister? {text rest : List Char} {r : Register}
    (read : readRegister? text = some (r, rest)) : PassesPlain text rest := by
  unfold readRegister? at read
  split at read
  · exact (passesPlain_cons (by decide) _).trans (passesPlain_readIndex? read)
  · exact (passesPlain_cons (by decide) _).trans (passesPlain_readIndex? read)
  · cases read

theorem passesPlain_readBrace? {text rest : List Char} (read : readBrace? text = some rest) :
    PassesPlain text rest := by
  have gap := passesPlain_skipGap text
  unfold readBrace? at read
  split at read
  · rename_i out found
    cases read
    rw [found] at gap
    exact gap.trans (passesPlain_cons (by decide) _)
  · cases read

theorem passesPlain_readRegistersToBrace? {text rest : List Char} {registers : List Register}
    (read : readRegistersToBrace? text = some (registers, rest)) : PassesPlain text rest := by
  fun_induction readRegistersToBrace? text generalizing registers rest with
  | case1 text out found =>
    cases read
    have gap := passesPlain_skipGap text
    rw [found] at gap
    exact gap.trans (passesPlain_cons (by decide) _)
  | case2 text out found r out' first ih =>
    simp only [Option.map_eq_some_iff, Prod.mk.injEq, Prod.exists] at read
    obtain ⟨registers', rest', others, _, rfl⟩ := read
    have gap := passesPlain_skipGap text
    rw [found] at gap
    have comma : PassesPlain (',' :: out) out := passesPlain_cons (by decide) _
    exact gap.trans (comma.trans ((passesPlain_skipGap out).trans
      ((passesPlain_readRegister? first).trans (ih others))))
  | case3 => cases read
  | case4 => cases read

def IsGroup (operand : Operand) : Prop :=
  (∃ first last, operand = .regRange first last) ∨ ∃ registers, operand = .regList registers

theorem readGroupAfter?_spec {first : Register} {text rest : List Char} {operand : Operand}
    (read : readGroupAfter? first text = some (operand, rest)) :
    operand.IsGroup ∧ PassesPlain text rest := by
  have gap := passesPlain_skipGap text
  unfold readGroupAfter? at read
  split at read
  · rename_i out found
    simp only [Option.bind_eq_bind, Option.bind_eq_some_iff, Option.pure_def, Option.some.injEq,
      Prod.mk.injEq, Prod.exists] at read
    obtain ⟨last, out₁, second, out₂, brace, rfl, rfl⟩ := read
    rw [found] at gap
    have dots : PassesPlain ('.' :: '.' :: out) out :=
      (passesPlain_cons (by decide) _).trans (passesPlain_cons (by decide) _)
    exact ⟨.inl ⟨first, last, rfl⟩, gap.trans (dots.trans ((passesPlain_skipGap out).trans
      ((passesPlain_readRegister? second).trans (passesPlain_readBrace? brace))))⟩
  · simp only [Option.bind_eq_bind, Option.bind_eq_some_iff, Option.pure_def, Option.some.injEq,
      Prod.mk.injEq, Prod.exists] at read
    obtain ⟨registers, out, others, rfl, rfl⟩ := read
    exact ⟨.inr ⟨first :: registers, rfl⟩, passesPlain_readRegistersToBrace? others⟩

theorem readGroup?_spec {text rest : List Char} {operand : Operand}
    (read : readGroup? text = some (operand, rest)) : operand.IsGroup ∧ PassesPlain text rest := by
  unfold readGroup? at read
  split at read
  · rename_i inside
    have opening : PassesPlain ('{' :: inside) inside := passesPlain_cons (by decide) _
    split at read
    · rename_i first out found
      obtain ⟨group, after⟩ := readGroupAfter?_spec read
      exact ⟨group, opening.trans ((passesPlain_skipGap inside).trans
        ((passesPlain_readRegister? found).trans after))⟩
    · simp only [Option.map_eq_some_iff, Prod.mk.injEq] at read
      obtain ⟨out, brace, rfl, rfl⟩ := read
      exact ⟨.inr ⟨[], rfl⟩, opening.trans (passesPlain_readBrace? brace)⟩
  · cases read

/-! ## What a literal is read from -/

theorem readQuotedContent?_spec {text content rest : List Char}
    (read : readQuotedContent? text = some (content, rest)) :
    Quotable content ∧ text = content ++ '"' :: rest := by
  fun_induction readQuotedContent? text generalizing content rest with
  | case1 => cases read
  | case2 out =>
    cases read
    exact ⟨.nil, rfl⟩
  | case3 => cases read
  | case4 c out ih =>
    simp only [Option.map_eq_some_iff, Prod.mk.injEq, Prod.exists] at read
    obtain ⟨content', rest', inner, rfl, rfl⟩ := read
    obtain ⟨quotable, rfl⟩ := ih inner
    exact ⟨.pair quotable, rfl⟩
  | case5 c out noQuote lone pair ih =>
    -- a backslash is the last character or has one after it
    have noBackslash : c ≠ '\\' := by
      intro same
      cases out with
      | nil => exact lone same rfl
      | cons d out => exact pair d out same rfl
    simp only [Option.map_eq_some_iff, Prod.mk.injEq, Prod.exists] at read
    obtain ⟨content', rest', inner, rfl, rfl⟩ := read
    obtain ⟨quotable, rfl⟩ := ih inner
    exact ⟨.plain noBackslash noQuote quotable, rfl⟩

theorem readQuoted?_spec {text rest : List Char} {operand : Operand}
    (read : readQuoted? text = some (operand, rest)) :
    ∃ content, operand = .str content ∧ Quotable content.toList ∧
      text = operand.render.toList ++ rest := by
  unfold readQuoted? at read
  split at read
  · simp only [Option.map_eq_some_iff, Prod.mk.injEq, Prod.exists] at read
    obtain ⟨content, out, inner, rfl, rfl⟩ := read
    obtain ⟨quotable, rfl⟩ := readQuotedContent?_spec inner
    exact ⟨_, rfl, by simpa using quotable, by simp [render]⟩
  · cases read

end Operand

/-! ## Bare tokens -/

/-- A text that is read as one bare token. -/
structure IsBare (token : List Char) : Prop where
  nonempty : token ≠ []
  trimmed : trim token = token
  noComma : ',' ∉ token
  noBrace : token.head? ≠ some '{'
  noQuote : token.head? ≠ some '"'

instance (token : List Char) : Decidable (IsBare token) :=
  decidable_of_iff (token ≠ [] ∧ trim token = token ∧ ',' ∉ token ∧ token.head? ≠ some '{' ∧
    token.head? ≠ some '"')
    ⟨fun h => ⟨h.1, h.2.1, h.2.2.1, h.2.2.2.1, h.2.2.2.2⟩,
      fun h => ⟨h.nonempty, h.trimmed, h.noComma, h.noBrace, h.noQuote⟩⟩

theorem IsBare.firm {token : List Char} (bare : IsBare token) : Firm token := by
  have nonempty : trim token ≠ [] := bare.trimmed.symm ▸ bare.nonempty
  exact bare.trimmed ▸ firm_trim nonempty

namespace Operand

theorem isBareToken_iff {token : List Char} :
    isBareToken token = true ↔ token ≠ [] ∧ token.head? ≠ some '{' ∧ token.head? ≠ some '"' := by
  cases token <;> simp [isBareToken]

/-- A bare token is read up to the comma behind it. -/
theorem readOperand?_bare {token rest : List Char} (bare : IsBare token)
    (ends : EndsRun (· != ',') rest) :
    readOperand? (token ++ rest) = some (classify token, rest) := by
  obtain ⟨c, more, spelled⟩ := List.exists_cons_of_ne_nil bare.nonempty
  have inside : ∀ c ∈ token, (c != ',') = true := by
    intro c member
    rw [bne_iff_ne]
    rintro rfl
    exact bare.noComma member
  have noGroup : readGroup? (token ++ rest) = none := by
    have other : c ≠ '{' := by simpa [spelled] using bare.noBrace
    simp [spelled, readGroup?, other]
  have noLiteral : readQuoted? (token ++ rest) = none := by
    have other : c ≠ '"' := by simpa [spelled] using bare.noQuote
    simp [spelled, readQuoted?, other]
  have isToken : isBareToken token = true :=
    isBareToken_iff.mpr ⟨bare.nonempty, bare.noBrace, bare.noQuote⟩
  simp [readOperand?, noGroup, noLiteral, readBare?, takeWhile_run inside ends,
    dropWhile_run inside ends, bare.trimmed, isToken]

theorem isBare_of_readBare? {text rest : List Char} {operand : Operand}
    (read : readBare? text = some (operand, rest)) :
    ∃ token, IsBare token ∧ operand = classify token ∧
      token = trim (text.takeWhile (· != ',')) ∧ rest = text.dropWhile (· != ',') := by
  simp only [readBare?, Option.ite_none_right_eq_some, Option.some.injEq, Prod.mk.injEq] at read
  obtain ⟨isToken, rfl, rfl⟩ := read
  obtain ⟨nonempty, noBrace, noQuote⟩ := isBareToken_iff.mp isToken
  refine ⟨_, ⟨nonempty, (firm_trim nonempty).trim_eq, fun comma => ?_, noBrace, noQuote⟩, rfl, rfl, rfl⟩
  simpa using List.all_eq_true.mp List.all_takeWhile ',' (trim_subset _ comma)

/-! ## Kinds of tokens -/

/-- A token is written as it was read, unless it names a register. -/
theorem render_classify (token : List Char) :
    (∃ r, classify token = .reg r) ∨ (classify token).render.toList = token := by
  unfold classify
  split
  · exact .inr (by simp [render])
  · split
    · exact .inl ⟨_, rfl⟩
    · refine .inr ?_
      unfold classifyReference
      split
      · split <;> simp [render]
      · split
        · split <;> simp [render]
        · simp [render]

theorem classify_register (r : Register) : classify r.render.toList = .reg r := by
  have read := Register.ofChars?_render r
  rw [Register.toList_render] at read ⊢
  cases kind : r.kind <;> simp only [kind, RegisterKind.letter] at read <;>
    simp [classify, RegisterKind.letter, read]

end Operand

theorem Register.isBare_render (r : Register) : IsBare r.render.toList := by
  have letter : ∃ c rest, r.render.toList = c :: rest ∧ c ≠ '{' ∧ c ≠ '"' := by
    refine ⟨_, _, toList_render r, ?_⟩
    cases r.kind <;> decide
  obtain ⟨c, rest, spelled, noBrace, noQuote⟩ := letter
  have nonempty : r.render.toList ≠ [] := by simp [spelled]
  have firm : Firm r.render.toList := by
    refine firm_of_forall nonempty fun c member => ?_
    rcases eq_or_of_mem_render member with rfl | rfl | digit
    · decide
    · decide
    · exact isBlank_of_isDigit digit
  refine ⟨nonempty, firm.trim_eq, fun comma => ?_, by simpa [spelled] using noBrace,
    by simpa [spelled] using noQuote⟩
  have digit := eq_or_of_mem_render comma
  simp at digit

/-! ## Operands -/

namespace Operand

/-- An operand that is read back as it is: a literal with its escapes in order, registers, or a token
that can stand bare and has the kind that its text has. -/
def Written : Operand → Prop
  | .reg _ => True
  | .regRange _ _ => True
  | .regList _ => True
  | .str content => Quotable content.toList
  | operand => IsBare operand.render.toList ∧ classify operand.render.toList = operand

/-- One operand is read up to the comma behind it. -/
theorem readOperand?_render {operand : Operand} (written : operand.Written) {rest : List Char}
    (ends : EndsRun (· != ',') rest) :
    readOperand? (operand.render.toList ++ rest) = some (operand, rest) := by
  cases operand with
  | reg r => rw [render, readOperand?_bare r.isBare_render ends, classify_register]
  | regRange first last => simp [readOperand?, readGroup?_range]
  | regList registers => simp [readOperand?, readGroup?_list]
  | str content =>
    have text : (str content).render.toList ++ rest = '"' :: (content.toList ++ '"' :: rest) := by
      simp [render]
    simp [text, readOperand?, readGroup?, readQuoted?, readQuotedContent?_quotable written]
  | num _ | type _ | field _ | method _ | label _ =>
    rw [readOperand?_bare written.1 ends, written.2]

theorem readOperand?_cases {text rest : List Char} {operand : Operand}
    (read : readOperand? text = some (operand, rest)) :
    readGroup? text = some (operand, rest) ∨ readQuoted? text = some (operand, rest) ∨
      readBare? text = some (operand, rest) := by
  simp only [readOperand?, Option.orElse_eq_orElse, Option.orElse_eq_or, Option.or_eq_some_iff] at read
  exact read.imp_right fun others => others.2.imp_right (·.2)

theorem written_classify {token : List Char} (bare : IsBare token) : (classify token).Written := by
  rcases render_classify token with ⟨r, register⟩ | same
  · rw [register]
    trivial
  cases kind : classify token with
  | reg | regRange | regList => trivial
  | str content =>
    -- a literal starts with a quote, and a bare token does not
    rw [kind] at same
    exact absurd (by simp [← same, render]) bare.noQuote
  | num _ | type _ | field _ | method _ | label _ =>
    rw [kind] at same
    exact ⟨same ▸ bare, same ▸ kind⟩

/-- Whatever is read as an operand is read back as it is. -/
theorem written_of_readOperand? {text rest : List Char} {operand : Operand}
    (read : readOperand? text = some (operand, rest)) : operand.Written := by
  rcases readOperand?_cases read with group | literal | bare
  · obtain ⟨⟨first, last, rfl⟩ | ⟨registers, rfl⟩, _⟩ := readGroup?_spec group
    · trivial
    · trivial
  · obtain ⟨content, rfl, quotable, _⟩ := readQuoted?_spec literal
    exact quotable
  · obtain ⟨token, isBare, rfl, _⟩ := isBare_of_readBare? bare
    exact written_classify isBare

/-! ## Lists of operands -/

def renderList (operands : List Operand) : String :=
  ", ".intercalate (operands.map render)

theorem toList_renderList_cons (operand : Operand) (operands : List Operand) :
    (renderList (operand :: operands)).toList =
      operand.render.toList ++ operands.flatMap fun o => ',' :: ' ' :: o.render.toList := by
  rw [renderList, List.map_cons, toList_intercalate_cons, List.flatMap_map]

theorem readMoreOperands?_nil {text : List Char} (gap : skipGap text = []) :
    readMoreOperands? text = some [] := by
  rw [readMoreOperands?]
  split
  · rfl
  · rename_i found
    cases gap.symm.trans found
  · rename_i other _
    exact absurd gap other

theorem readMoreOperands?_comma {text rest rest' : List Char} {operand : Operand}
    (gap : skipGap text = ',' :: rest)
    (read : readOperand? (skipGap rest) = some (operand, rest')) :
    readMoreOperands? text = (readMoreOperands? rest').map (operand :: ·) := by
  rw [readMoreOperands?]
  split
  · rename_i found
    cases gap.symm.trans found
  · rename_i found
    cases gap.symm.trans found
    split
    · rename_i found
      cases read.symm.trans found
      rfl
    · rename_i unread
      cases read.symm.trans unread
  · rename_i _ other
    exact absurd gap (other rest)

theorem firm_render {operand : Operand} (written : operand.Written) : Firm operand.render.toList := by
  have brace : Firm ['{'] := firm_singleton (by decide)
  have brace' : Firm ['}'] := firm_singleton (by decide)
  have quote : Firm ['"'] := firm_singleton (by decide)
  cases operand with
  | reg r => exact r.isBare_render.firm
  | regRange first last =>
    have firm := brace.append (first.render ++ " .. " ++ last.render).toList brace'
    simpa [render] using firm
  | regList registers =>
    have firm := brace.append (", ".intercalate (registers.map Register.render)).toList brace'
    simpa [render] using firm
  | str content =>
    have firm := quote.append content.toList quote
    simpa [render] using firm
  | num _ | type _ | field _ | method _ | label _ => exact written.1.firm

theorem skipGap_firm {text : List Char} (firm : Firm text) (rest : List Char) :
    skipGap (text ++ rest) = text ++ rest := by
  obtain ⟨c, more, rfl⟩ := List.exists_cons_of_ne_nil firm.nonempty
  have solid := firm.first c rfl
  have noGap : isGap c = false := by
    cases gap : isGap c with
    | false => rfl
    | true => simp [isBlank_of_isGap gap] at solid
  exact skipGap_token noGap _

theorem endsRun_operands (operands : List Operand) :
    EndsRun (· != ',') (operands.flatMap fun o => ',' :: ' ' :: o.render.toList) := by
  cases operands with
  | nil => exact endsRun_nil _
  | cons operand operands => exact endsRun_cons (by decide) _

theorem readMoreOperands?_render {operands : List Operand}
    (written : ∀ operand ∈ operands, operand.Written) :
    readMoreOperands? (operands.flatMap fun o => ',' :: ' ' :: o.render.toList) = some operands := by
  induction operands with
  | nil => exact readMoreOperands?_nil rfl
  | cons operand operands ih =>
    have first := written operand (.head _)
    have read := readOperand?_render first (endsRun_operands operands)
    rw [← skipGap_firm (firm_render first), ← skipGap_space] at read
    rw [List.flatMap_cons, List.cons_append, List.cons_append,
      readMoreOperands?_comma (skipGap_token (by decide) _) read,
      ih fun other member => written other (.tail _ member), Option.map_some]

/-- A written list is read as its operands. -/
theorem readList?_render {operands : List Operand} (written : ∀ operand ∈ operands, operand.Written) :
    readList? (renderList operands).toList = some operands := by
  cases operands with
  | nil => rfl
  | cons operand operands =>
    have read := readOperand?_render (written operand (.head _)) (endsRun_operands operands)
    rw [toList_renderList_cons, readList?, read]
    simp [readMoreOperands?_render fun other member => written other (.tail _ member)]

theorem readOperand?_suffix {text rest : List Char} {operand : Operand}
    (read : readOperand? text = some (operand, rest)) : rest <:+ text := by
  rcases readOperand?_cases read with group | literal | bare
  · obtain ⟨_, passed, split, _⟩ := readGroup?_spec group
    exact ⟨passed, split.symm⟩
  · obtain ⟨content, _, _, split⟩ := readQuoted?_spec literal
    exact ⟨_, split.symm⟩
  · obtain ⟨token, _, _, _, rfl⟩ := isBare_of_readBare? bare
    exact List.dropWhile_suffix _

theorem exists_of_readMoreOperands? {text : List Char} {operands : List Operand}
    (read : readMoreOperands? text = some operands) {operand : Operand} (member : operand ∈ operands) :
    ∃ part rest, part <:+ text ∧ readOperand? part = some (operand, rest) := by
  fun_induction readMoreOperands? text generalizing operands with
  | case1 =>
    cases read
    cases member
  | case2 text rest gap first rest' found ih =>
    obtain ⟨others, more, rfl⟩ := Option.map_eq_some_iff.mp read
    -- the operand is read behind a comma and the gaps around it
    have later : skipGap rest <:+ text := by
      have comma : rest <:+ text := (List.suffix_cons ',' rest).trans (gap ▸ List.dropWhile_suffix _)
      exact (List.dropWhile_suffix _).trans comma
    cases member with
    | head => exact ⟨_, _, later, found⟩
    | tail _ member =>
      obtain ⟨part, out, suffix, here⟩ := ih more member
      exact ⟨part, out, suffix.trans ((readOperand?_suffix found).trans later), here⟩
  | case3 => cases read
  | case4 => cases read

/-- Each operand of a list is read from a part of the text. -/
theorem exists_of_readList? {text : List Char} {operands : List Operand}
    (read : readList? text = some operands) {operand : Operand} (member : operand ∈ operands) :
    ∃ part rest, part <:+ text ∧ readOperand? part = some (operand, rest) := by
  unfold readList? at read
  split at read
  · rename_i first rest found
    obtain ⟨others, more, rfl⟩ := Option.map_eq_some_iff.mp read
    cases member with
    | head => exact ⟨text, rest, List.suffix_refl _, found⟩
    | tail _ member =>
      obtain ⟨part, out, suffix, here⟩ := exists_of_readMoreOperands? more member
      exact ⟨part, out, suffix.trans (readOperand?_suffix found), here⟩
  · split at read <;> cases read
    cases member

theorem written_of_readList? {text : List Char} {operands : List Operand}
    (read : readList? text = some operands) : ∀ operand ∈ operands, operand.Written := by
  intro operand member
  obtain ⟨part, rest, _, here⟩ := exists_of_readList? read member
  exact written_of_readOperand? here

/-- Operands that can be written are read back as they are, and reading gives only such operands. -/
theorem operands_roundTrip :
    (∀ operands : List Operand, (∀ operand ∈ operands, operand.Written) →
        readList? (renderList operands).toList = some operands) ∧
      ∀ (text : List Char) (operands : List Operand), readList? text = some operands →
        (∀ operand ∈ operands, operand.Written) ∧
          readList? (renderList operands).toList = some operands :=
  ⟨fun _ written => readList?_render written, fun _ _ read =>
    ⟨written_of_readList? read, readList?_render (written_of_readList? read)⟩⟩

instance (content : List Char) : Decidable (Quotable content) :=
  decidable_of_iff (readQuotedContent? (content ++ ['"']) = some (content, []))
    ⟨fun read => (readQuotedContent?_spec read).1, fun quotable => readQuotedContent?_quotable quotable []⟩

instance : (operand : Operand) → Decidable operand.Written
  | .reg _ => isTrue trivial
  | .regRange _ _ => isTrue trivial
  | .regList _ => isTrue trivial
  | .str content => inferInstanceAs (Decidable (Quotable content.toList))
  | .num text => inferInstanceAs (Decidable (_ ∧ classify (num text).render.toList = .num text))
  | .type text => inferInstanceAs (Decidable (_ ∧ classify (type text).render.toList = .type text))
  | .field text => inferInstanceAs (Decidable (_ ∧ classify (field text).render.toList = .field text))
  | .method text => inferInstanceAs (Decidable (_ ∧ classify (method text).render.toList = .method text))
  | .label name => inferInstanceAs (Decidable (_ ∧ classify (label name).render.toList = .label name))

/-- Operands of every kind, among them a literal with a comma, a quote and a line feed in it. -/
def assorted : List Operand :=
  [.regRange ⟨.loc, 0⟩ ⟨.param, 65535⟩, .regList [], .regList [⟨.loc, 3⟩, ⟨.param, 1⟩], .reg ⟨.param, 7⟩,
    .str "a, \\\" \n\\\\", .num "-0x1", .type "[B", .field "Lx;->f:I", .method "Lx;->m()V", .label ""]

/-- The operands are read back, and so are those of a text with other blanks and register spellings. -/
theorem operands_roundTrip_assorted :
    (∀ operand ∈ assorted, operand.Written) ∧
      readList? (renderList assorted).toList = some assorted ∧
      readList? "\x7b v01..v2\t\x7d\t,p+3 , \"\\\"\"".toList =
        some [.regRange ⟨.loc, 1⟩ ⟨.loc, 2⟩, .reg ⟨.param, 3⟩, .str "\\\""] ∧
      readList? "\x7bv1 .. v2\x7d, p3, \"\\\"\"".toList =
        some [.regRange ⟨.loc, 1⟩ ⟨.loc, 2⟩, .reg ⟨.param, 3⟩, .str "\\\""] := by
  have written : ∀ operand ∈ assorted, operand.Written := by decide +kernel
  have read : readList? "\x7b v01..v2\t\x7d\t,p+3 , \"\\\"\"".toList =
      some [.regRange ⟨.loc, 1⟩ ⟨.loc, 2⟩, .reg ⟨.param, 3⟩, .str "\\\""] := by decide +kernel
  exact ⟨written, operands_roundTrip.1 _ written, read, (operands_roundTrip.2 _ _ read).2⟩

end Operand

end Backflow
