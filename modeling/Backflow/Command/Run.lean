import Backflow.Argument
import Backflow.Command.Json
import Backflow.Command.Report
import Backflow.Command.Request
import Backflow.Graph.Render
import Backflow.InstructionPattern
import Backflow.Text.Line

/-! # Running a request

A request first loads its listings in order, then reads its patterns, then looks up addresses,
and only then prints.  `Request.run` takes the content of the files as a function, so a run is
determined by its arguments and its files.
-/

namespace Backflow.Command

/-- The content of files by name; none for a file that cannot be read. -/
abbrev Files := String → Option ByteArray

/-! ## Loading -/

def loadListing (files : Files) (store : Store) (name : String) : Run Store := do
  match Listing.ofFile (files name) with
  | .error error => throw (.load error)
  | .ok listing =>
    match listing.unterminated with
    | some method => Run.warn .reading ("unterminated method " ++ method)
    | none => pure ()
    return store.load listing

def loadListings (files : Files) (names : List String) : Run Store := do
  let store ← names.foldlM (loadListing files) Store.empty
  Run.info .loading (toString store.instructions.size ++ " instructions loaded from " ++
    toString store.scopes.size ++ " methods")
  return store

def methodName (store : Store) (i : Instruction) : String :=
  (store.nameOf? i).getD "?"

/-! ## Listing instructions -/

def registerJson (r : Register) : String :=
  Json.object [("kind", Json.string (match r.kind with | .loc => "Local" | .param => "Param")),
    ("index", Json.number r.index.toNat)]

def operandJson (operand : Operand) : String :=
  let tagged (kind value : String) := Json.object [("kind", Json.string kind), ("value", value)]
  match operand with
  | .reg r => tagged "Reg" (registerJson r)
  | .regRange first last => tagged "RegRange" (Json.array [registerJson first, registerJson last])
  | .regList registers => tagged "RegList" (Json.array (registers.map registerJson))
  | .str content => tagged "Str" (Json.string content)
  | .num text => tagged "Num" (Json.string text)
  | .type text => tagged "Type" (Json.string text)
  | .field text => tagged "Field" (Json.string text)
  | .method text => tagged "Method" (Json.string text)
  | .label name => tagged "Label" (Json.string name)

def instructionJson (i : Instruction) : String :=
  Json.object [("addr", Json.number i.addr), ("method", Json.number i.method),
    ("mnemonic", Json.string i.mnemonic), ("operands", Json.array (i.operands.map operandJson))]

def foundLine (store : Store) (json : Bool) (i : Instruction) : String :=
  if json then
    Json.object
      [("method", Json.string (methodName store i)), ("instruction", instructionJson i)]
  else
    i.renderAt ++ "    # " ++ methodName store i

def FindTask.run (task : FindTask) (store : Store) : Run Unit := do
  let description ← Run.need .instructionPattern
    (InstructionPattern.parse? task.mnemonic task.operands)
  let found := store.find description
  for i in found do
    Run.say (foundLine store task.json i)
  Run.info .find (toString found.length ++ " matching instructions")

/-! ## Graphs -/

/-- A line of a graph; what is not explained is in yellow. -/
def graphLine (line : String) : String :=
  if line.endsWith "<- ?" then Colour.yellow.paint line else line

def showGraph (graph : Node) : Run Unit := do
  for line in Text.lines graph.render.toList do
    Run.say (graphLine (String.ofList line))
  let leaves := graph.leaves
  Run.info .graph (toString leaves.length ++ " leaves:")
  for leaf in leaves do
    Run.info .graph ("    " ++ Colour.green.paint leaf.renderAt)

def GraphTask.run (task : GraphTask) (store : Store) : Run Unit := do
  let i ← Run.need (.notFound task.address) (store.at? task.address)
  Run.info .graph ("analyzing " ++ i.renderAt ++ " in " ++ methodName store i)
  let (outcome, query) := store.explainIn task.limits i Query.empty
  for warning in query.warnings do
    Run.warn .explaining warning
  match outcome with
  | some graph => showGraph graph
  | none => Run.say (Colour.red.paint (Address.render task.address ++ ": unresolved"))
  Run.info .graph (toString query.visited ++ " program points visited")
  if query.truncated > 0 then
    Run.warn .graph (toString query.truncated ++ " sub-graphs dropped (graph size limit " ++
      toString task.limits.maxGraphSize ++ ")")

/-! ## Resolving arguments -/

/-- What is found out about the argument at a call site. -/
inductive Resolution where
  | solved (value : String)
  | possible (values : List String)
  | types (names : List String)
  | unsolvable (cause : Unsolvable)
  | noSuchValue (cause : NoSuchValue)

namespace Resolution

/-- Holds when the question is answered. -/
def isAnswer : Resolution → Bool
  | .solved _ => true
  | .possible _ => true
  | .types _ => true
  | .unsolvable _ => false
  | .noSuchValue _ => false

def braced (texts : List String) : String :=
  "\x7b" ++ ", ".intercalate texts ++ "\x7d"

def render : Resolution → String
  | .solved value => Colour.green.paint ("\"" ++ value ++ "\"")
  | .possible values => Colour.green.paint (braced values)
  | .types names => Colour.green.paint (braced names)
  | .unsolvable cause => Colour.yellow.paint ("unsolvable (" ++ cause.reason ++ ")")
  | .noSuchValue cause =>
    Colour.red.paint ("no such value (" ++ (ValueError.noSuchValue cause).message ++ ")")

def fields : Resolution → List (String × String)
  | .solved value => [("status", Json.string "solved"), ("value", Json.string value)]
  | .possible values =>
    [("status", Json.string "possible"), ("values", Json.array (values.map Json.string))]
  | .types names =>
    [("status", Json.string "types"), ("types", Json.array (names.map Json.string))]
  | .unsolvable cause =>
    [("status", Json.string "unsolvable"), ("reason", Json.string cause.reason)]
  | .noSuchValue cause =>
    [("status", Json.string "no_such_value"),
      ("reason", Json.string (ValueError.noSuchValue cause).message)]

end Resolution

/-- Answers what a mode asks about an argument that has been explained. -/
def resolutionOf (argument : ArgumentGraph) (i : Instruction) (index : Nat) :
    Mode → Resolution
  | .constant =>
    match argument.constant i index with
    | .ok value => .solved value
    | .error (.unsolvable cause _) => .unsolvable cause
    | .error (.noSuchValue cause) => .noSuchValue cause
  | .possible => .possible argument.possible
  | .typeset => .types argument.types

namespace ResolveTask

def resolve (task : ResolveTask) (store : Store) (call : Instruction) : Run Resolution := do
  match store.argumentGraphIn task.limits call task.index with
  | .error cause => return .noSuchValue cause
  | .ok (argument, query) =>
    for warning in query.warnings do
      Run.warn .explaining warning
    return resolutionOf argument call task.index task.mode

def showCall (task : ResolveTask) (store : Store) (call : Instruction)
    (resolution : Resolution) : Run Unit := do
  if task.json then
    Run.say (Json.object
      ([("addr", Json.number call.addr), ("method", Json.string (methodName store call)),
        ("instruction", Json.string call.render)] ++ resolution.fields))
  else
    Run.say (call.renderAt ++ " in " ++ methodName store call)
    Run.say ("    => " ++ resolution.render)

/-- Holds when the method of a call site is one of those considered. -/
def considers (methods : Option Pattern) (store : Store) (call : Instruction) : Bool :=
  match methods with
  | none => true
  | some pattern => (store.nameOf? call).any pattern.accepts

def methodPattern (task : ResolveTask) : Run (Option Pattern) :=
  match task.methods with
  | none => pure none
  | some text => some <$> Run.need .methodPattern (Pattern.parse? text)

def run (task : ResolveTask) (store : Store) : Run Unit := do
  let methods ← task.methodPattern
  let description ← Run.need .instructionPattern
    (InstructionPattern.parse? "^invoke-" ["", task.callee])
  let calls := (store.find description).filter (considers methods store)
  Run.info .resolve (toString calls.length ++ " call sites match " ++ task.callee)
  let resolutions ← calls.mapM (task.resolve store)
  for (call, resolution) in calls.zip resolutions do
    task.showCall store call resolution
  Run.info .resolve ("resolved arguments: " ++
    toString (resolutions.countP Resolution.isAnswer) ++ " / " ++ toString calls.length)

end ResolveTask

/-! ## Requests -/

def Task.run (store : Store) : Task → Run Unit
  | .find task => task.run store
  | .graph task => task.run store
  | .resolve task => task.run store

inductive Ending where
  | done
  | failed (failure : Failure)
  /-- The arguments could not be read. -/
  | refused

def Ending.status : Ending → Nat
  | .done => 0
  | .failed _ => 1
  | .refused => 2

structure Outcome where
  output : String
  /-- The log messages let through, in order. -/
  log : List LogEntry
  ending : Ending

/-- The filter in force: a verbosity asked for is the level of all sources that the filter does
not name. -/
def Verbosity.adjust (verbosity : Verbosity) (filter : LogFilter) : LogFilter :=
  match verbosity with
  | .unchanged => filter
  | .debug => filter.set ⟨none, .debug⟩
  | .trace => filter.set ⟨none, .trace⟩

/-- Runs a request on files, the log being filtered. -/
def Request.run (request : Request) (files : Files) (filter : LogFilter) : Outcome :=
  match request with
  | .refused => ⟨"", [], .refused⟩
  | .noCommand => ⟨"", [], .failed .noCommand⟩
  | .tell text => ⟨text, [], .done⟩
  | .perform inputs verbosity task =>
    let work : Run Unit := do
      let store ← loadListings files inputs
      task.run store
    let (result, report) := work.run.run Report.empty
    let log := report.log.toList.filter (verbosity.adjust filter).shows
    match result with
    | .ok () => ⟨report.output, log, .done⟩
    | .error failure => ⟨report.output, log, .failed failure⟩

end Backflow.Command
