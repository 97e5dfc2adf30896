import Backflow.Definition
import Backflow.Graph.Reach
import Backflow.Limits

/-! # Explaining an instruction

The graph of an instruction is built by following the definitions of the registers it reads,
backward through the method, through call sites and through field writes, down to instructions
that produce a value by themselves.  What is found at an address is remembered for the rest of
the query.

* `Instruction.inputPlan?` says which registers an instruction reads and how they are resolved.
* `Query` is the state of a query: what is remembered, recorded sizes, and a journal of what
  the query did.
* `Store.explainIn` explains an instruction in a given query, `Store.explain` in a fresh one.

The recursion is on the number of definitions the query may still go through.  In a cycle of
definitions an address can be entered again before it is remembered; the outer visit is settled
last, and its outcome is the one that stays.
-/

namespace Backflow

/-! ## What an instruction reads -/

/-- The instructions that produce a value without reading registers. -/
def leafFamilies : List String :=
  ["const", "new-", "move-exception"]

/-- The registers that an instruction reads. -/
inductive InputPlan where
  /-- Each register is resolved by its own definition. -/
  | each (registers : List Register)
  /-- All registers are explained by one write of the field that the instruction names. -/
  | shared (registers : List Register) (kind : FieldKind)
deriving DecidableEq, Repr

namespace Instruction

def operandSet? (i : Instruction) (position : Nat) : Option (List Register) :=
  i.operands[position]?.bind Operand.registerSet?

/-- How the inputs of an instruction that is no leaf are resolved; none if an operand that
should name them is missing or denotes no registers. -/
def inputPlan? (i : Instruction) : Option InputPlan :=
  if i.isAnyOf ["move", "array-length"] then
    (i.operandSet? 1).map .each
  else if i.isOf "aget" then do
    let array ← i.operandSet? 1
    let index ← i.operandSet? 2
    return .each (Register.sorted (array ++ index))
  else if i.isOf "sget" then
    (i.operandSet? 0).map (.shared · .static)
  else if i.isOf "iget" then
    (i.operandSet? 0).map (.shared · .object)
  else
    (i.operandSet? 0).map .each

end Instruction

/-! ## Queries -/

/-- A step of a query. -/
inductive Event where
  /-- An address is entered: it is within the limit of depth and not remembered. -/
  | entered (address : Address)
  /-- The outcome at an address entered before is remembered. -/
  | settled (address : Address)
  /-- The method is scanned backward from an address. -/
  | scanned (address : Address)
  /-- A graph is given up because it has more addresses than the limit. -/
  | oversized (address : Address) (size limit : Nat)
deriving DecidableEq, Repr

namespace Event

def isOversized : Event → Bool
  | .oversized .. => true
  | _ => false

def scanOrigin? : Event → Option Address
  | .scanned address => some address
  | _ => none

def warning? : Event → Option String
  | .oversized address size limit =>
    some ("graph too large at " ++ Address.render address ++ ": " ++ toString size ++
      " nodes (limit " ++ toString limit ++ ")")
  | _ => none

end Event

structure Query where
  /-- The outcome at each address settled so far; `none` is an address given up on. -/
  memo : Std.TreeMap Address (Option Node)
  sizes : Sizes
  /-- What the query did, the last event first. -/
  journal : List Event

namespace Query

def empty : Query :=
  ⟨∅, ∅, []⟩

def log (query : Query) (event : Event) : Query :=
  { query with journal := event :: query.journal }

def logScans (query : Query) (origins : List Address) : Query :=
  { query with journal := (origins.map Event.scanned).reverse ++ query.journal }

def remember (query : Query) (address : Address) (outcome : Option Node) : Query :=
  { query with memo := query.memo.insert address outcome }

/-- Remembers the outcome at an address and gives it back. -/
def settle (query : Query) (address : Address) (outcome : Option Node) : Option Node × Query :=
  (outcome, (query.remember address outcome).log (.settled address))

/-- Settles the address of a node that has been put together: the node is given up if it is
larger than the limit, and then its size is not recorded. -/
def settleNode (query : Query) (limits : Limits) (node : Node) : Option Node × Query :=
  let (size, sizes) := node.measure query.sizes
  if size ≤ limits.maxGraphSize then
    { query with sizes := sizes }.settle node.addr (some node)
  else
    let query := { query with sizes := sizes.erase node.addr }
    (query.log (.oversized node.addr size limits.maxGraphSize)).settle node.addr none

def visited (query : Query) : Nat :=
  query.memo.size

/-- The number of graphs given up for their size. -/
def truncated (query : Query) : Nat :=
  query.journal.countP Event.isOversized

def scans (query : Query) : List Address :=
  query.journal.reverse.filterMap Event.scanOrigin?

def warnings (query : Query) : List String :=
  query.journal.reverse.filterMap Event.warning?

end Query

/-! ## Building the graph -/

/-- Explains each definition in turn, in register order. -/
def explainLoads (explain : Option Instruction → Query → Option Node × Query) :
    Loads → Query → Inputs × Query
  | [], query => (.nil, query)
  | (r, found) :: rest, query =>
    let (input, query) := explain found query
    let (inputs, query) := explainLoads explain rest query
    (.cons r input inputs, query)

namespace Store

def explainInputs (store : Store) (limits : Limits)
    (explain : Option Instruction → Query → Option Node × Query) (i : Instruction) :
    InputPlan → Query → Inputs × Query
  | .each registers, query =>
    let loads := store.recentLoads limits.maxHops i registers
    explainLoads explain loads.value (query.logScans loads.origins)
  | .shared registers kind, query =>
    let write := store.recentWrite kind i
    let (input, query) := explain write.value (query.logScans write.origins)
    (Inputs.ofList (registers.map (·, input)), query)

/-- Explains an instruction whose address has been entered; `explain` explains the definitions
it depends on.  A moved result is explained by its invocation. -/
def explainEntered (store : Store) (limits : Limits)
    (explain : Option Instruction → Query → Option Node × Query) (i : Instruction)
    (query : Query) : Option Node × Query :=
  if i.isAnyOf leafFamilies then
    query.settle i.addr (some (.leaf i))
  else if i.isOf "move-result" then
    let call := store.recentInvocation i
    let (outcome, query) := explain call.value (query.logScans call.origins)
    query.settle i.addr outcome
  else
    match i.inputPlan? with
    | none => query.settle i.addr none
    | some plan =>
      let (inputs, query) := store.explainInputs limits explain i plan query
      query.settleNode limits (.internal i inputs)

/-- Explains an instruction that a search may have found, through at most `depth` definitions,
this one included. -/
def explainWithin (store : Store) (limits : Limits) :
    (depth : Nat) → Option Instruction → Query → Option Node × Query
  | _, none, query => (none, query)
  | 0, some _, query => (none, query)
  | depth + 1, some i, query =>
    match query.memo[i.addr]? with
    | some outcome => (outcome, query)
    | none =>
      store.explainEntered limits (store.explainWithin limits depth) i
        (query.log (.entered i.addr))

/-- Explains an instruction in a query, whose memory it uses and extends. -/
def explainIn (store : Store) (limits : Limits) (i : Instruction) (query : Query) :
    Option Node × Query :=
  store.explainWithin limits (limits.maxStage + 1) (some i) query

def explain (store : Store) (limits : Limits) (i : Instruction) : Option Node :=
  (store.explainIn limits i Query.empty).1

end Store

end Backflow
