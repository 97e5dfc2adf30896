import Backflow.Command.Log
import Backflow.Store
import Backflow.Text.Line

/-! # Reports

What a command leaves behind: the lines it prints, what it logs on the way, and how it ends.
A command runs in `Run`, where it says lines, logs, and may fail.
-/

namespace Backflow.Command

/-! ## Failures -/

/-- Why a command failed. -/
inductive Failure where
  /-- No command was given. -/
  | noCommand
  | load (error : LoadError)
  /-- A pattern for instructions cannot be read. -/
  | instructionPattern
  /-- The pattern for methods cannot be read. -/
  | methodPattern
  | notFound (address : Address)
deriving DecidableEq, Repr

def Failure.message : Failure → String
  | .noCommand => "bad arguments: missing subcommand"
  | .load .unreadable => "unreadable file"
  | .load (.listing error) => error.message
  | .instructionPattern => "invalid pattern"
  | .methodPattern => "invalid pattern"
  | .notFound address => Store.notFoundMessage address

/-! ## Reports -/

/-- What a command has printed and logged. -/
structure Report where
  lines : Array String
  log : Array LogEntry

def Report.empty : Report :=
  ⟨#[], #[]⟩

def Report.output (report : Report) : String :=
  Text.unlines report.lines.toList

abbrev Run := ExceptT Failure (StateM Report)

namespace Run

def say (line : String) : Run Unit :=
  modify fun report => { report with lines := report.lines.push line }

def note (severity : Severity) (source : LogSource) (message : String) : Run Unit :=
  modify fun report => { report with log := report.log.push ⟨severity, source, message⟩ }

def info (source : LogSource) (message : String) : Run Unit :=
  note .info source message

def warn (source : LogSource) (message : String) : Run Unit :=
  note .warn source message

def need {α : Type} (failure : Failure) : Option α → Run α
  | some value => pure value
  | none => throw failure

end Run

/-! ## Colours -/

inductive Colour where
  | red
  | green
  | yellow

def Colour.code : Colour → String
  | .red => "31"
  | .green => "32"
  | .yellow => "33"

def Colour.paint (colour : Colour) (text : String) : String :=
  "\x1b[" ++ colour.code ++ "m" ++ text ++ "\x1b[0m"

end Backflow.Command
