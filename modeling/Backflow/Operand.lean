import Backflow.Register

/-! # Operands

The operand tokens of a disassembled instruction, the text they are written as, and the
registers they stand for.

* `Operand.classify` sorts a bare token, one without quotes or braces, by its shape.
* `Operand.render` writes an operand; `Operand.value` is the literal text it carries.
* `Operand.registers?` expands the register operands.
-/

namespace Backflow

inductive Operand where
  | reg (register : Register)
  | regRange (first last : Register)
  | regList (registers : List Register)
  /-- A string literal, with its escape sequences and without its quotes. -/
  | str (content : String)
  | num (text : String)
  | type (text : String)
  | field (text : String)
  | method (text : String)
  /-- A reference to a label, without the leading colon. -/
  | label (name : String)
deriving DecidableEq, Repr

namespace Operand

/-! ## Text -/

def render : Operand → String
  | .reg r => r.render
  | .regRange first last => "\x7b" ++ first.render ++ " .. " ++ last.render ++ "\x7d"
  | .regList registers => "\x7b" ++ ", ".intercalate (registers.map Register.render) ++ "\x7d"
  | .str content => "\"" ++ content ++ "\""
  | .num text => text
  | .type text => text
  | .field text => text
  | .method text => text
  | .label name => ":" ++ name

/-- The literal text that an operand carries: a string without its quotes, a label without its
colon, registers as they are written. -/
def value : Operand → String
  | .str content => content
  | .num text => text
  | .type text => text
  | .field text => text
  | .method text => text
  | .label name => name
  | operand => operand.render

/-! ## Bare tokens -/

/-- What follows the first arrow `->` of a text. -/
def afterArrow? : List Char → Option (List Char)
  | [] => none
  | '-' :: '>' :: member => some member
  | _ :: rest => afterArrow? rest

def startsNumber (c : Char) : Bool :=
  c.isDigit || c == '-' || c == '+'

/-- Sorts a token that is neither a register nor a label: a member reference has an arrow, and
a parenthesis after it if it is a method; a number starts with a digit or a sign; all else is a
type. -/
def classifyReference (token : List Char) : Operand :=
  match afterArrow? token with
  | some member =>
    if member.contains '(' then .method (String.ofList token) else .field (String.ofList token)
  | none =>
    match token with
    | c :: _ => if startsNumber c then .num (String.ofList token) else .type (String.ofList token)
    | [] => .type ""

/-- Sorts a bare token by its shape. -/
def classify (token : List Char) : Operand :=
  match token with
  | ':' :: name => .label (String.ofList name)
  | _ =>
    match Register.ofChars? token with
    | some r => .reg r
    | none => classifyReference token

/-! ## Registers -/

def registersFrom (first : Register) (count : Nat) : List Register :=
  (List.range count).map fun i => ⟨first.kind, UInt16.ofNat (first.index.toNat + i)⟩

/-- The registers that an operand denotes, in the order it lists them.  A range denotes
registers when both ends are of one family and in order. -/
def registers? : Operand → Option (List Register)
  | .reg r => some [r]
  | .regList registers => some registers
  | .regRange first last =>
    if first.kind = last.kind ∧ first.index ≤ last.index then
      some (registersFrom first (last.index.toNat - first.index.toNat + 1))
    else
      none
  | _ => none

def denotes (operand : Operand) (r : Register) : Bool :=
  match operand with
  | .reg register => r == register
  | .regList registers => registers.contains r
  | .regRange first last =>
    first.kind == last.kind && r.kind == first.kind && first.index ≤ r.index &&
      r.index ≤ last.index
  | _ => false

def firstRegister? : Operand → Option Register
  | .reg r => some r
  | .regList registers => registers.head?
  | .regRange first last =>
    if first.kind = last.kind ∧ first.index ≤ last.index then some first else none
  | _ => none

def registerSet? (operand : Operand) : Option (List Register) :=
  operand.registers?.map Register.sorted

theorem mem_registersFrom {first r : Register} {count : Nat}
    (h : first.index.toNat + count ≤ 65536) :
    r ∈ registersFrom first count ↔
      r.kind = first.kind ∧ first.index.toNat ≤ r.index.toNat ∧
        r.index.toNat < first.index.toNat + count := by
  obtain ⟨kind, index⟩ := r
  simp only [registersFrom, List.mem_map, List.mem_range, Register.mk.injEq]
  constructor
  · rintro ⟨i, hi, hkind, hindex⟩
    rw [← hindex, UInt16.toNat_ofNat', Nat.mod_eq_of_lt (by omega)]
    exact ⟨hkind.symm, by omega, by omega⟩
  · rintro ⟨hkind, hlow, hhigh⟩
    refine ⟨index.toNat - first.index.toNat, by omega, hkind.symm, ?_⟩
    rw [Nat.add_sub_cancel' hlow, UInt16.ofNat_toNat]

/-- An operand denotes the registers that it expands to. -/
theorem denotes_iff {operand : Operand} {r : Register} :
    operand.denotes r = true ↔ r ∈ operand.registers?.getD [] := by
  cases operand with
  | reg register => simp [denotes, registers?]
  | regList registers => simp [denotes, registers?]
  | regRange first last =>
    have hlast := last.index.toNat_lt
    simp only [denotes, registers?, Bool.and_eq_true, beq_iff_eq, decide_eq_true_eq,
      UInt16.le_iff_toNat_le]
    split
    · rename_i h
      rw [Option.getD_some, mem_registersFrom (by omega)]
      exact ⟨fun h' => ⟨h'.1.1.2, h'.1.2, by omega⟩, fun h' => ⟨⟨⟨h.1, h'.1⟩, h'.2.1⟩, by omega⟩⟩
    · rename_i h
      simp only [Option.getD_none, List.not_mem_nil, iff_false]
      exact fun h' => h ⟨h'.1.1.1, by omega⟩
  | _ => simp [denotes, registers?]

def notRegistersMessage (operand : Operand) : String :=
  "operand does not denote registers: " ++ operand.render

end Operand

end Backflow
