import Backflow.Operand
import Backflow.Text.Blank
import Backflow.Text.Number

/-! # Reading exception handlers

The operands of an exception-handler directive are an exception type, which a catch-all leaves
out, the two labels of the guarded range in braces, and the label of the handler:
`Lx; {:try_start_0 .. :try_end_0} :catch_0`.
-/

namespace Backflow.Operand

open Backflow.Text

def isLabelChar (c : Char) : Bool :=
  isAlphanumeric c || c == '_'

/-- Reads a colon and a name of one or more characters. -/
def readLabel? : List Char → Option (Operand × List Char)
  | ':' :: text =>
    let name := text.takeWhile isLabelChar
    if name.isEmpty then none
    else some (.label (String.ofList name), text.dropWhile isLabelChar)
  | _ => none

/-- Reads a gap of at least one space or tab. -/
def readGap? : List Char → Option (List Char)
  | c :: rest => if isGap c then some (skipGap rest) else none
  | [] => none

/-- Reads the exception type and the gap after it, if they are there.  The type runs up to the
next space or brace. -/
def readException (text : List Char) : List Operand × List Char :=
  let name := text.takeWhile fun c => c != ' ' && c != '{'
  match name, readGap? (text.dropWhile fun c => c != ' ' && c != '{') with
  | _ :: _, some rest => ([.type (String.ofList name)], rest)
  | _, _ => ([], text)

/-- Reads the two labels of a guarded range, in braces. -/
def readGuarded? : List Char → Option (List Operand × List Char)
  | '{' :: inside => do
    let (first, rest) ← readLabel? (skipGap inside)
    match skipGap rest with
    | '.' :: '.' :: rest =>
      let (last, rest) ← readLabel? (skipGap rest)
      match skipGap rest with
      | '}' :: rest => some ([first, last], rest)
      | _ => none
    | _ => none
  | _ => none

def readHandler? (text : List Char) : Option (List Operand) := do
  let (exception, rest) := readException text
  let (guarded, rest) ← readGuarded? rest
  let (handler, rest) ← readLabel? (← readGap? rest)
  if (skipGap rest).isEmpty then some (exception ++ guarded ++ [handler]) else none

end Backflow.Operand
