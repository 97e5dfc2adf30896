/-! # Decimal numbers

* `readDecimal?` reads an unsigned number up to a largest value.
* `padded` writes a number with zeros in front up to a width.
-/

namespace Backflow.Text

/-- Reads a decimal number of at most `largest`: an optional plus sign and one or more digits,
leading zeros included. -/
def readDecimal? (largest : Nat) (text : List Char) : Option Nat :=
  let digits := match text with
    | '+' :: rest => rest
    | _ => text
  if digits.isEmpty || !digits.all Char.isDigit then
    none
  else
    let value := Nat.ofDigitChars 10 digits 0
    if value ≤ largest then some value else none

/-- The decimal digits of `n`, with zeros in front up to `width` characters. -/
def padded (width n : Nat) : String :=
  String.ofList ((Nat.toDigits 10 n).leftpad width '0')

end Backflow.Text
