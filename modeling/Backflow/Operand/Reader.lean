import Backflow.Operand
import Backflow.Text.Blank

/-! # Reading operand lists

Operands are separated by commas with gaps (spaces and tabs) around them.  An operand is a
group of registers in braces, a string literal in quotes, or a bare token, which runs up to the
next comma and is trimmed of blanks.

Each reader takes the text at hand and gives what it read and the rest.  A reader of one operand
leaves strictly less than it was given (`readOperand?_length_lt`), which is why reading a list
ends.
-/

namespace Backflow.Operand

open Backflow.Text

/-! ## Groups of registers -/

def readIndex? (kind : RegisterKind) (text : List Char) : Option (Register × List Char) :=
  (Register.ofIndexText? kind (text.takeWhile Char.isDigit)).map
    (·, text.dropWhile Char.isDigit)

/-- Reads a register, its number being one or more digits. -/
def readRegister? : List Char → Option (Register × List Char)
  | 'v' :: rest => readIndex? .loc rest
  | 'p' :: rest => readIndex? .param rest
  | _ => none

theorem readIndex?_length_le {kind : RegisterKind} {text rest : List Char} {r : Register}
    (h : readIndex? kind text = some (r, rest)) : rest.length ≤ text.length := by
  simp only [readIndex?, Option.map_eq_some_iff, Prod.mk.injEq] at h
  obtain ⟨_, _, _, rfl⟩ := h
  exact (List.dropWhile_sublist _).length_le

theorem readRegister?_length_lt {text rest : List Char} {r : Register}
    (h : readRegister? text = some (r, rest)) : rest.length < text.length := by
  unfold readRegister? at h
  split at h
  · exact Nat.lt_succ_of_le (readIndex?_length_le h)
  · exact Nat.lt_succ_of_le (readIndex?_length_le h)
  · simp at h

/-- Reads the registers that follow the first one of a group, and the closing brace. -/
def readRegistersToBrace? (text : List Char) : Option (List Register × List Char) :=
  match _hgap : skipGap text with
  | '}' :: rest => some ([], rest)
  | ',' :: rest =>
    match _hread : readRegister? (skipGap rest) with
    | some (r, rest') =>
      (readRegistersToBrace? rest').map fun (registers, out) => (r :: registers, out)
    | none => none
  | _ => none
termination_by text.length
decreasing_by
  have h₁ := readRegister?_length_lt _hread
  have h₂ := length_skipGap_le rest
  have h₃ := length_skipGap_le text
  simp only [_hgap, List.length_cons] at h₃
  omega

def readBrace? (text : List Char) : Option (List Char) :=
  match skipGap text with
  | '}' :: rest => some rest
  | _ => none

/-- Reads what follows the first register of a group: the end of a range, or more registers. -/
def readGroupAfter? (first : Register) (text : List Char) : Option (Operand × List Char) :=
  match skipGap text with
  | '.' :: '.' :: rest => do
    let (last, rest) ← readRegister? (skipGap rest)
    let rest ← readBrace? rest
    return (.regRange first last, rest)
  | _ => do
    let (registers, rest) ← readRegistersToBrace? text
    return (.regList (first :: registers), rest)

/-- Reads a group: a list of registers or a range of registers, in braces. -/
def readGroup? : List Char → Option (Operand × List Char)
  | '{' :: inside =>
    match readRegister? (skipGap inside) with
    | some (first, rest) => readGroupAfter? first rest
    | none => (readBrace? inside).map (.regList [], ·)
  | _ => none

/-! ## String literals -/

/-- Reads the content of a string literal and its closing quote.  A backslash keeps the
character after it in the content, whatever it is. -/
def readQuotedContent? : List Char → Option (List Char × List Char)
  | [] => none
  | '"' :: rest => some ([], rest)
  | ['\\'] => none
  | '\\' :: c :: rest =>
    (readQuotedContent? rest).map fun (content, out) => ('\\' :: c :: content, out)
  | c :: rest => (readQuotedContent? rest).map fun (content, out) => (c :: content, out)

def readQuoted? : List Char → Option (Operand × List Char)
  | '"' :: rest =>
    (readQuotedContent? rest).map fun (content, out) => (.str (String.ofList content), out)
  | _ => none

/-! ## Bare tokens -/

/-- Holds of the trimmed texts that can stand for a bare token. -/
def isBareToken : List Char → Bool
  | [] => false
  | c :: _ => c != '{' && c != '"'

/-- Reads a bare token: the text up to the next comma, trimmed. -/
def readBare? (text : List Char) : Option (Operand × List Char) :=
  let token := trim (text.takeWhile (· != ','))
  if isBareToken token then some (classify token, text.dropWhile (· != ',')) else none

/-! ## Operand lists -/

def readOperand? (text : List Char) : Option (Operand × List Char) :=
  readGroup? text <|> readQuoted? text <|> readBare? text

theorem readRegistersToBrace?_length_lt {text rest : List Char} {registers : List Register}
    (h : readRegistersToBrace? text = some (registers, rest)) : rest.length < text.length := by
  fun_induction readRegistersToBrace? text generalizing registers rest with
  | case1 text out shorter =>
    have := length_skipGap_le text
    simp only [shorter, List.length_cons] at this
    simp only [Option.some.injEq, Prod.mk.injEq] at h
    obtain ⟨_, rfl⟩ := h
    omega
  | case2 text out shorter r out' read ih =>
    simp only [Option.map_eq_some_iff, Prod.mk.injEq, Prod.exists] at h
    obtain ⟨registers', rest', hread, _, rfl⟩ := h
    have h₁ := ih hread
    have h₂ := readRegister?_length_lt read
    have h₃ := length_skipGap_le out
    have h₄ := length_skipGap_le text
    simp only [shorter, List.length_cons] at h₄
    omega
  | case3 => simp at h
  | case4 => simp at h

theorem readBrace?_length_lt {text rest : List Char} (h : readBrace? text = some rest) :
    rest.length < text.length := by
  unfold readBrace? at h
  split at h
  · rename_i out shorter
    have := length_skipGap_le text
    simp only [shorter, List.length_cons] at this
    simp only [Option.some.injEq] at h
    subst h
    omega
  · simp at h

theorem readGroupAfter?_length_lt {first : Register} {text rest : List Char} {operand : Operand}
    (h : readGroupAfter? first text = some (operand, rest)) : rest.length < text.length := by
  unfold readGroupAfter? at h
  split at h
  · rename_i out shorter
    simp only [Option.bind_eq_bind, Option.bind_eq_some_iff, Option.pure_def, Option.some.injEq,
      Prod.mk.injEq, Prod.exists] at h
    obtain ⟨last, rest₁, hlast, rest₂, hbrace, _, rfl⟩ := h
    have h₁ := readRegister?_length_lt hlast
    have h₂ := readBrace?_length_lt hbrace
    have h₃ := length_skipGap_le out
    have h₄ := length_skipGap_le text
    simp only [shorter, List.length_cons] at h₄
    omega
  · simp only [Option.bind_eq_bind, Option.bind_eq_some_iff, Option.pure_def, Option.some.injEq,
      Prod.mk.injEq, Prod.exists] at h
    obtain ⟨registers, rest₁, hread, _, rfl⟩ := h
    exact readRegistersToBrace?_length_lt hread

theorem readGroup?_length_lt {text rest : List Char} {operand : Operand}
    (h : readGroup? text = some (operand, rest)) : rest.length < text.length := by
  unfold readGroup? at h
  split at h
  · rename_i inside
    simp only [List.length_cons]
    split at h
    · rename_i first out read
      have h₁ := readGroupAfter?_length_lt h
      have h₂ := readRegister?_length_lt read
      have h₃ := length_skipGap_le inside
      omega
    · simp only [Option.map_eq_some_iff, Prod.mk.injEq] at h
      obtain ⟨out, hbrace, _, rfl⟩ := h
      have := readBrace?_length_lt hbrace
      omega
  · simp at h

theorem readQuotedContent?_length_lt {text content rest : List Char}
    (h : readQuotedContent? text = some (content, rest)) : rest.length < text.length := by
  fun_induction readQuotedContent? text generalizing content rest with
  | case1 => simp at h
  | case2 out =>
    simp only [Option.some.injEq, Prod.mk.injEq] at h
    simp [h.2]
  | case3 => simp at h
  | case4 c out ih =>
    simp only [Option.map_eq_some_iff, Prod.mk.injEq] at h
    obtain ⟨⟨content', rest'⟩, hread, _, rfl⟩ := h
    have := ih hread
    simp only [List.length_cons]
    omega
  | case5 c out _ _ _ ih =>
    simp only [Option.map_eq_some_iff, Prod.mk.injEq] at h
    obtain ⟨⟨content', rest'⟩, hread, _, rfl⟩ := h
    have := ih hread
    simp only [List.length_cons]
    omega

theorem readQuoted?_length_lt {text rest : List Char} {operand : Operand}
    (h : readQuoted? text = some (operand, rest)) : rest.length < text.length := by
  unfold readQuoted? at h
  split at h
  · simp only [Option.map_eq_some_iff, Prod.mk.injEq] at h
    obtain ⟨⟨content, out⟩, hread, _, rfl⟩ := h
    have := readQuotedContent?_length_lt hread
    simp only [List.length_cons]
    omega
  · simp at h

theorem readBare?_length_lt {text rest : List Char} {operand : Operand}
    (h : readBare? text = some (operand, rest)) : rest.length < text.length := by
  simp only [readBare?, Option.ite_none_right_eq_some, Option.some.injEq, Prod.mk.injEq] at h
  obtain ⟨hbare, _, rfl⟩ := h
  match text with
  | [] => simp [trim, trimStart, trimEnd, isBareToken] at hbare
  | c :: out =>
    by_cases hc : c = ','
    · subst hc
      simp [trim, trimStart, trimEnd, isBareToken] at hbare
    · have : ((c :: out).dropWhile (· != ',')) = out.dropWhile (· != ',') := by
        simp [hc]
      rw [this, List.length_cons]
      exact Nat.lt_succ_of_le (List.dropWhile_sublist _).length_le

/-- An operand takes at least one character. -/
theorem readOperand?_length_lt {text rest : List Char} {operand : Operand}
    (h : readOperand? text = some (operand, rest)) : rest.length < text.length := by
  cases hgroup : readGroup? text with
  | some found =>
    have hfound : found = (operand, rest) := by simpa [readOperand?, hgroup] using h
    exact readGroup?_length_lt (hfound ▸ hgroup)
  | none =>
    cases hquoted : readQuoted? text with
    | some found =>
      have hfound : found = (operand, rest) := by simpa [readOperand?, hgroup, hquoted] using h
      exact readQuoted?_length_lt (hfound ▸ hquoted)
    | none =>
      have hbare : readBare? text = some (operand, rest) := by
        simpa [readOperand?, hgroup, hquoted] using h
      exact readBare?_length_lt hbare

/-- Reads the operands that follow the first one, up to the end of the text. -/
def readMoreOperands? (text : List Char) : Option (List Operand) :=
  match _hgap : skipGap text with
  | [] => some []
  | ',' :: rest =>
    match _hread : readOperand? (skipGap rest) with
    | some (operand, rest') => (readMoreOperands? rest').map (operand :: ·)
    | none => none
  | _ => none
termination_by text.length
decreasing_by
  have h₁ := readOperand?_length_lt _hread
  have h₂ := length_skipGap_le rest
  have h₃ := length_skipGap_le text
  simp only [_hgap, List.length_cons] at h₃
  omega

/-- Reads a whole text as a list of operands. -/
def readList? (text : List Char) : Option (List Operand) :=
  match readOperand? text with
  | some (operand, rest) => (readMoreOperands? rest).map (operand :: ·)
  | none => if (skipGap text).isEmpty then some [] else none

end Backflow.Operand
