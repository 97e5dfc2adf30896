import Backflow.Command.Options
import Backflow.Limits

/-! # Requests

What a command line asks for.  The suite has one command for each task and a few of its own;
each task also has a program to itself, which takes the options of its command.

* `Task` is what there is to do once the listings are loaded.
* `Request.ofArguments` reads a command line.
-/

namespace Backflow.Command

/-- The largest number that an address, an index or a size can be. -/
def largestIndex : Nat := 18446744073709551615

def largestDepth : Nat := 4294967295

/-! ## Tasks -/

inductive Mode where
  | constant
  | possible
  | typeset
deriving DecidableEq, Repr

def Mode.ofName (name : String) : Mode :=
  if name = "possible" then .possible
  else if name = "typeset" then .typeset
  else .constant

structure FindTask where
  mnemonic : String
  operands : List String
  json : Bool

structure GraphTask where
  address : Nat
  limits : Limits

structure ResolveTask where
  callee : String
  /-- The pattern of the methods whose call sites are considered. -/
  methods : Option String
  index : Nat
  mode : Mode
  limits : Limits
  json : Bool

inductive Task where
  | find (task : FindTask)
  | graph (task : GraphTask)
  | resolve (task : ResolveTask)

/-- What is wanted of the log beyond its filter. -/
inductive Verbosity where
  | unchanged
  | debug
  | trace
deriving DecidableEq, Repr

inductive Request where
  /-- The arguments cannot be read. -/
  | refused
  /-- No command is given. -/
  | noCommand
  /-- A text is to be shown. -/
  | tell (text : String)
  | perform (inputs : List String) (verbosity : Verbosity) (task : Task)

/-! ## Options of the tasks -/

def flagOption (name : String) (letter : Option Char) : OptionSpec :=
  ⟨name, letter, .flag, false⟩

def sharedOptions : List OptionSpec :=
  [flagOption "debug" (some 'd'), flagOption "verbose" (some 'v'), flagOption "ecslog" (some 'e'),
    ⟨"input", some 'i', .repeatable, true⟩]

def limitOptions : List OptionSpec :=
  [⟨"max-graph-size", none, .single (.unsigned largestIndex), false⟩,
    ⟨"max-stage", none, .single (.signed largestDepth), false⟩]

def findGrammar : Grammar where
  options := sharedOptions ++
    [⟨"mnemonic", some 'm', .single .text, true⟩, ⟨"operand", some 'p', .repeatable, false⟩,
      flagOption "json" none]
  hasVersion := true

def graphGrammar : Grammar where
  options := sharedOptions ++ limitOptions ++
    [⟨"addr", some 'a', .single (.unsigned largestIndex), true⟩]
  hasVersion := true

def resolveGrammar : Grammar where
  options := sharedOptions ++ limitOptions ++
    [⟨"invocation", none, .single .text, true⟩, ⟨"filter-method", none, .single .text, false⟩,
      ⟨"arg", some 'a', .single (.unsigned largestIndex), false⟩,
      ⟨"mode", some 'm', .single (.oneOf ["constant", "possible", "typeset"]), false⟩,
      flagOption "json" none]
  hasVersion := true

def completionsGrammar : Grammar where
  options :=
    [⟨"shell", some 's', .single (.oneOf ["bash", "elvish", "fish", "powershell", "zsh"]), true⟩]
  hasVersion := false

def suiteGrammar : Grammar where
  options := []
  hasVersion := true

/-! ## Reading -/

def numberOf? (given : List Given) (name : String) : Option Nat :=
  (valueOf? given name).bind (readSigned? largestIndex ·.toList)

def verbosityOf (given : List Given) : Verbosity :=
  if isGiven given "verbose" then .trace
  else if isGiven given "debug" then .debug
  else .unchanged

def limitsOf (given : List Given) : Limits :=
  let standard : Limits := {}
  { standard with
    maxGraphSize := (numberOf? given "max-graph-size").getD standard.maxGraphSize
    maxStage := (numberOf? given "max-stage").getD standard.maxStage }

inductive Tool where
  | find
  | graph
  | resolve
deriving DecidableEq, Repr

namespace Tool

def name : Tool → String
  | .find => "find"
  | .graph => "graph"
  | .resolve => "resolve"

def grammar : Tool → Grammar
  | .find => findGrammar
  | .graph => graphGrammar
  | .resolve => resolveGrammar

def about : Tool → String
  | .find => "Lists instructions matching a pattern"
  | .graph => "Prints the data-flow graph of an instruction"
  | .resolve => "Resolves invocation arguments to constants or types"

def task (given : List Given) : Tool → Task
  | .find =>
    .find ⟨(valueOf? given "mnemonic").getD "", valuesOf given "operand", isGiven given "json"⟩
  | .graph => .graph ⟨(numberOf? given "addr").getD 0, limitsOf given⟩
  | .resolve =>
    .resolve
      { callee := (valueOf? given "invocation").getD ""
        methods := valueOf? given "filter-method"
        index := (numberOf? given "arg").getD 0
        mode := Mode.ofName ((valueOf? given "mode").getD "constant")
        limits := limitsOf given
        json := isGiven given "json" }

def all : List Tool :=
  [.find, .graph, .resolve]

end Tool

def version : String := "0.3.0"

def suiteName : String := "droidflow"

def versionLine (program : String) : String :=
  program ++ " " ++ version ++ "\n"

def OptionSpec.usageLine (option : OptionSpec) : String :=
  let letter := match option.letter with
    | some c => "-" ++ String.singleton c ++ ", "
    | none => "    "
  let value := match option.usage with
    | .flag => ""
    | _ => " <" ++ option.name ++ ">"
  "  " ++ letter ++ "--" ++ option.name ++ value ++ "\n"

def helpText (about : String) (g : Grammar) : String :=
  about ++ "\n\nOptions:\n" ++ String.join (g.options.map OptionSpec.usageLine)

def suiteHelp : String :=
  suiteName ++ "\n\nCommands:\n" ++
    String.join (Tool.all.map fun tool => "  " ++ tool.name ++ "  " ++ tool.about ++ "\n") ++
    "  gen-completions  Generates completions file\n"

def completionsText : String :=
  " ".intercalate (Tool.all.map Tool.name ++ ["gen-completions", "help"]) ++ "\n"

namespace Request

/-- Reads the options of a tool, which calls itself `program`. -/
def ofTool (program : String) (tool : Tool) (arguments : List String) : Request :=
  match tool.grammar.read arguments with
  | .given options => .perform (valuesOf options "input") (verbosityOf options) (tool.task options)
  | .refused => .refused
  | .help => .tell (helpText tool.about tool.grammar)
  | .version => .tell (versionLine program)

def ofCompletions (arguments : List String) : Request :=
  match completionsGrammar.read arguments with
  | .given _ => .tell completionsText
  | .help => .tell (helpText "Generates completions file" completionsGrammar)
  | .version => .refused
  | .refused => .refused

def ofHelp : List String → Request
  | [] => .tell suiteHelp
  | [name] =>
    match Tool.all.find? (·.name == name) with
    | some tool => .tell (helpText tool.about tool.grammar)
    | none =>
      if name = "gen-completions" ∨ name = "help" then .tell suiteHelp else .refused
  | _ :: _ :: _ => .refused

/-- Reads the arguments of the suite: a command and its options, or an option of its own. -/
def ofSuite (arguments : List String) : Request :=
  match arguments with
  | [] => .noCommand
  | name :: rest =>
    match Tool.all.find? (·.name == name) with
    | some tool => ofTool (suiteName ++ "-" ++ tool.name) tool rest
    | none =>
      if name = "gen-completions" then ofCompletions rest
      else if name = "help" then ofHelp rest
      else
        match suiteGrammar.read arguments with
        | .given _ => .noCommand
        | .refused => .refused
        | .help => .tell suiteHelp
        | .version => .tell (versionLine suiteName)

def ofArguments (tool : Option Tool) (arguments : List String) : Request :=
  match tool with
  | some tool => ofTool tool.name tool arguments
  | none => ofSuite arguments

end Request

end Backflow.Command
