import Backflow.Listing.Line
import Backflow.Text.Line

/-! # Reading a listing

A listing is read line by line.  Class and method directives open scopes, blocks are skipped up
to their closing directive, and every other entry goes to the body of the open method.

* `Reading` is what the lines read so far amount to; `Reading.step` takes one more line.
* `Listing.parse` reads a whole text.

A method directive forgets the method that is still open; the end of the text closes it.
-/

namespace Backflow.Listing

open Backflow.Text

/-- A method whose end has not been met. -/
structure OpenMethod where
  name : String
  body : Array Entry

def OpenMethod.close (m : OpenMethod) : Method :=
  ⟨m.name, m.body.toList⟩

/-- What the lines read so far amount to. -/
structure Reading where
  /-- How many lines have been read. -/
  line : Nat
  /-- The class that methods are qualified by. -/
  className : String
  current : Option OpenMethod
  /-- The block being skipped. -/
  block : Option Block
  /-- The methods that have been closed. -/
  methods : Array Method

namespace Reading

def start : Reading :=
  ⟨0, "", none, none, #[]⟩

def push (reading : Reading) (entry : Entry) : Except ListingError Reading :=
  match reading.current with
  | some m => .ok { reading with current := some { m with body := m.body.push entry } }
  | none => .error (.outsideMethod reading.line)

def close (reading : Reading) : Except ListingError Reading :=
  match reading.current with
  | some m => .ok { reading with current := none, methods := reading.methods.push m.close }
  | none => .error (.outsideMethod reading.line)

/-- Takes what a line says; `raw` is the line as it stands in the text. -/
def take (reading : Reading) (raw : List Char) : Line → Except ListingError Reading
  | .classDecl name => .ok { reading with className := name }
  | .methodDecl signature =>
    .ok { reading with current := some ⟨reading.className ++ "->" ++ signature, #[]⟩ }
  | .methodEnd => reading.close
  | .blockStart block => .ok { reading with block := some block }
  | .entry entry => reading.push entry
  | .ignored => .ok reading
  | .malformed => .error (.malformed reading.line (String.ofList raw))

/-- Takes the text of a line without its comment: nothing if it is blank, the end of a block if
one is being skipped, and what the line says otherwise. -/
def takeText (reading : Reading) (raw text : List Char) : Except ListingError Reading :=
  if text.isEmpty then
    .ok reading
  else
    match reading.block with
    | some block => .ok (if block.endsAt text then { reading with block := none } else reading)
    | none => reading.take raw (Line.ofText text)

def step (reading : Reading) (raw : List Char) : Except ListingError Reading :=
  takeText { reading with line := reading.line + 1 } raw (trim (uncommented raw))

/-- The listing at the end of the text; a method that is still open is closed. -/
def finish (reading : Reading) : Listing :=
  match reading.current with
  | some m => ⟨(reading.methods.push m.close).toList, some m.name⟩
  | none => ⟨reading.methods.toList, none⟩

end Reading

def parse (text : String) : Except ListingError Listing :=
  (Reading.finish ·) <$> (lines text.toList).foldlM Reading.step Reading.start

end Backflow.Listing
