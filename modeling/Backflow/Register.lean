import Backflow.Text.Decimal
import Std.Data.TreeSet

/-! # Registers

A method frame names its registers as locals (`v0`, `v1`, ...) or as incoming parameters
(`p0`, `p1`, ...).  A name means something only inside its own method.

Registers are ordered locals first, then by number; sets of registers are lists in that order
without repetition, built by `Register.sorted`.
-/

namespace Backflow

inductive RegisterKind where
  | loc
  | param
deriving DecidableEq, Repr

def RegisterKind.letter : RegisterKind → Char
  | .loc => 'v'
  | .param => 'p'

structure Register where
  kind : RegisterKind
  index : UInt16
deriving DecidableEq, Repr

namespace Register

def isParam (r : Register) : Bool :=
  r.kind == .param

/-! ## Text -/

def render (r : Register) : String :=
  String.ofList (r.kind.letter :: Nat.toDigits 10 r.index.toNat)

def ofIndexText? (kind : RegisterKind) (digits : List Char) : Option Register :=
  (Text.readDecimal? 65535 digits).map fun n => ⟨kind, UInt16.ofNat n⟩

/-- Reads the name of a register.  The number may have a plus sign and leading zeros. -/
def ofChars? : List Char → Option Register
  | 'v' :: digits => ofIndexText? .loc digits
  | 'p' :: digits => ofIndexText? .param digits
  | _ => none

def ofString? (text : String) : Option Register :=
  ofChars? text.toList

def invalidMessage (text : String) : String :=
  "invalid register: " ++ text

/-! ## Order -/

/-- The place of a register in the order: locals first, then by number. -/
def rank (r : Register) : Nat :=
  match r.kind with
  | .loc => r.index.toNat
  | .param => 65536 + r.index.toNat

theorem rank_injective {r s : Register} (h : r.rank = s.rank) : r = s := by
  obtain ⟨kind, i⟩ := r
  obtain ⟨kind', j⟩ := s
  have hi := i.toNat_lt
  have hj := j.toNat_lt
  cases kind <;> cases kind' <;> simp only [rank] at h
  case loc.param => omega
  case param.loc => omega
  case loc.loc => rw [UInt16.toNat_inj.mp h]
  case param.param => rw [UInt16.toNat_inj.mp (Nat.add_left_cancel h)]

instance : Ord Register where
  compare r s := compare r.rank s.rank

instance : Std.TransOrd Register where
  eq_swap := Nat.compare_swap _ _ |>.symm
  isLE_trans h₁ h₂ := @Std.TransCmp.isLE_trans Nat compare _ _ _ _ h₁ h₂

instance : Std.LawfulEqOrd Register where
  eq_of_compare h := rank_injective (Nat.compare_eq_eq.mp h)

/-- The set of the given registers: in order and without repetition. -/
def sorted (registers : List Register) : List Register :=
  (Std.TreeSet.ofList registers).toList

@[simp] theorem mem_sorted {r : Register} {registers : List Register} :
    r ∈ sorted registers ↔ r ∈ registers := by
  simp [sorted]

end Register

end Backflow
