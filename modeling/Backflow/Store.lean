import Backflow.Instruction
import Backflow.Listing.Reader
import Std.Data.TreeMap

/-! # The instruction store

A store holds the instructions of the listings loaded into it.  Addresses and method numbers
are given out in loading order, so the instruction at position `a` has address `a` and the
methods follow each other without gaps.  Three indexes file the instructions that write static
fields, write object fields, and call methods under the member they name.
-/

namespace Backflow

/-- The name of a loaded method and the addresses of its body, `stop` being the first one
after it. -/
structure Scope where
  name : String
  start : Address
  stop : Address
deriving DecidableEq, Repr

/-- Addresses filed under the name of a member, in ascending order. -/
abbrev MemberIndex := Std.TreeMap String (Array Address)

def MemberIndex.file (index : MemberIndex) (i : Instruction) : MemberIndex :=
  match i.member? with
  | some name => index.alter name fun addresses => some ((addresses.getD #[]).push i.addr)
  | none => index

structure Store where
  instructions : Array Instruction
  scopes : Array Scope
  staticWrites : MemberIndex
  objectWrites : MemberIndex
  callSites : MemberIndex

namespace Store

def empty : Store :=
  ⟨#[], #[], ∅, ∅, ∅⟩

/-! ## Loading -/

def file (store : Store) (i : Instruction) : Store :=
  if i.isOf "sput" then { store with staticWrites := store.staticWrites.file i }
  else if i.isOf "iput" then { store with objectWrites := store.objectWrites.file i }
  else if i.isOf "invoke" then { store with callSites := store.callSites.file i }
  else store

def push (store : Store) (i : Instruction) : Store :=
  let store := store.file i
  { store with instructions := store.instructions.push i }

/-- Adds an entry of the method with the given number, at the next address. -/
def addEntry (method : Nat) (store : Store) (entry : Entry) : Store :=
  store.push ⟨store.instructions.size, method, entry.mnemonic, entry.operands⟩

def addMethod (store : Store) (m : Method) : Store :=
  let filled := m.body.foldl (addEntry store.scopes.size) store
  { filled with
    scopes := filled.scopes.push ⟨m.name, store.instructions.size, filled.instructions.size⟩ }

def load (store : Store) (listing : Listing) : Store :=
  listing.methods.foldl addMethod store

/-! ## Looking up -/

def at? (store : Store) (address : Address) : Option Instruction :=
  store.instructions[address]?

/-- The instructions before `address` in its method, the nearest one first; none if there is no
such address. -/
def before (store : Store) (address : Address) : List Instruction :=
  match store.at? address with
  | some i =>
    match store.scopes[i.method]? with
    | some scope => (store.instructions.extract scope.start address).toList.reverse
    | none => []
  | none => []

/-- The instructions filed under a name, in address order. -/
def filed (store : Store) (index : MemberIndex) (name : String) : List Instruction :=
  (index.getD name #[]).toList.filterMap store.at?

def staticWritesTo (store : Store) (field : String) : List Instruction :=
  store.filed store.staticWrites field

/-- The instructions that write an object field, whatever the object. -/
def objectWritesTo (store : Store) (field : String) : List Instruction :=
  store.filed store.objectWrites field

def callsTo (store : Store) (method : String) : List Instruction :=
  store.filed store.callSites method

def nameOf? (store : Store) (i : Instruction) : Option String :=
  store.scopes[i.method]?.map (·.name)

def filter (store : Store) (test : Instruction → Bool) : List Instruction :=
  store.instructions.toList.filter test

def notFoundMessage (address : Address) : String :=
  "instruction not found (address: " ++ Address.render address ++ ")"

end Store

/-! ## Files -/

inductive LoadError where
  /-- There is no such file, or it is not text. -/
  | unreadable
  | listing (error : ListingError)
deriving DecidableEq, Repr

/-- Reads the content of a listing file, `none` standing for a file that cannot be read. -/
def Listing.ofFile (content : Option ByteArray) : Except LoadError Listing :=
  match content.bind String.fromUTF8? with
  | none => .error .unreadable
  | some text =>
    match Listing.parse text with
    | .ok listing => .ok listing
    | .error error => .error (.listing error)

/-- Adds the methods of a listing file.  The file is read to its end before anything is added. -/
def Store.loadFile (content : Option ByteArray) : EStateM LoadError Store Unit :=
  match Listing.ofFile content with
  | .ok listing => modify (·.load listing)
  | .error error => throw error

theorem Store.run_loadFile (content : Option ByteArray) (store : Store) :
    (loadFile content).run store =
      match Listing.ofFile content with
      | .ok listing => .ok () (store.load listing)
      | .error error => .error error store := by
  simp only [loadFile]
  cases Listing.ofFile content <;> rfl

end Backflow
