/-! # JSON text

Values written as JSON on one line, without blanks.  The fields of an object keep their order.
-/

namespace Backflow.Json

def hexDigit (n : Nat) : Char :=
  if n < 10 then Char.ofNat ('0'.toNat + n) else Char.ofNat ('a'.toNat + (n - 10))

/-- A character of a string: quotes, backslashes and control characters are escaped. -/
def escape (c : Char) : List Char :=
  match c with
  | '"' => ['\\', '"']
  | '\\' => ['\\', '\\']
  | '\n' => ['\\', 'n']
  | '\r' => ['\\', 'r']
  | '\t' => ['\\', 't']
  | '\x08' => ['\\', 'b']
  | '\x0c' => ['\\', 'f']
  | _ =>
    if c.toNat < 32 then ['\\', 'u', '0', '0', hexDigit (c.toNat / 16), hexDigit (c.toNat % 16)]
    else [c]

def string (text : String) : String :=
  String.ofList ('"' :: text.toList.flatMap escape ++ ['"'])

def number (n : Nat) : String :=
  toString n

def array (values : List String) : String :=
  "[" ++ ",".intercalate values ++ "]"

def object (fields : List (String × String)) : String :=
  "\x7b" ++ ",".intercalate (fields.map fun (name, value) => string name ++ ":" ++ value) ++ "\x7d"

end Backflow.Json
