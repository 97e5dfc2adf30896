import Backflow.Pattern.Reader

/-! # The log

Messages of the log have a severity and a source, the part of the program that they come from.
A filter says which messages are shown.

* `LogFilter.ofText` reads a filter: directives between commas, and after a slash a pattern
  that the message has to match.
* `LogFilter.shows` holds of the messages shown.

A directive is a level for all messages, or a level for the sources whose name starts with a
given text.  The longest such text counts, and of two equally long ones (one of them empty, the
other missing) the later one.
-/

namespace Backflow.Command

/-! ## Messages -/

inductive Severity where
  | warn
  | info
deriving DecidableEq, Repr

/-- What a log message is about. -/
inductive LogSource where
  /-- The reading of listings. -/
  | reading
  /-- The building of graphs. -/
  | explaining
  /-- The loading of listings by a command. -/
  | loading
  | find
  | graph
  | resolve
deriving DecidableEq, Repr

def LogSource.name : LogSource → String
  | .reading => "df_facts::parsers"
  | .explaining => "df_analysis::dataflow"
  | .loading => "droidflow::prelude"
  | .find => "droidflow::df_find"
  | .graph => "droidflow::df_graph"
  | .resolve => "droidflow::df_resolve"

structure LogEntry where
  severity : Severity
  source : LogSource
  message : String
deriving DecidableEq, Repr

/-! ## Levels -/

/-- What a log lets through, each level including those before it. -/
inductive LogLevel where
  | off
  | error
  | warn
  | info
  | debug
  | trace
deriving DecidableEq, Repr

namespace LogLevel

def ofName? (name : String) : Option LogLevel :=
  match name.toLower with
  | "off" => some .off
  | "error" => some .error
  | "warn" => some .warn
  | "info" => some .info
  | "debug" => some .debug
  | "trace" => some .trace
  | _ => none

def lets : LogLevel → Severity → Bool
  | .off, _ => false
  | .error, _ => false
  | .warn, severity => severity == .warn
  | .info, _ => true
  | .debug, _ => true
  | .trace, _ => true

end LogLevel

/-! ## Directives -/

/-- A level for the sources whose name starts with a text, or for all of them. -/
structure LogDirective where
  start : Option String
  level : LogLevel
deriving DecidableEq, Repr

namespace LogDirective

/-- Reads a directive: a level, the start of a name, or both with an equals sign between them.  A
start without a level lets everything through. -/
def ofText? (text : String) : Option LogDirective :=
  match text.splitOn "=" with
  | [part] =>
    match LogLevel.ofName? part with
    | some level => some ⟨none, level⟩
    | none => some ⟨some part, .trace⟩
  | [start, level] =>
    match String.ofList (Text.trim level.toList) with
    | "" => some ⟨some start, .trace⟩
    | name => (LogLevel.ofName? name).map (⟨some start, ·⟩)
  | _ => none

/-- Reads directives between commas.  Blanks around a directive do not count, and what is no
directive is passed over. -/
def listOfText (text : String) : List LogDirective :=
  (text.splitOn ",").filterMap fun part =>
    match String.ofList (Text.trim part.toList) with
    | "" => none
    | directive => ofText? directive

def isAbout (directive : LogDirective) (source : LogSource) : Bool :=
  directive.start.all fun start => start.isPrefixOf source.name

def closeness (directive : LogDirective) : Nat :=
  (directive.start.map String.length).getD 0

/-- The closer of two directives, the second one if they are equally close. -/
def closer (best : Option LogDirective) (directive : LogDirective) : Option LogDirective :=
  match best with
  | some other => if directive.closeness < other.closeness then some other else some directive
  | none => some directive

end LogDirective

/-! ## Filters -/

structure LogFilter where
  directives : List LogDirective
  /-- What a message has to match. -/
  pattern : Option Pattern

namespace LogFilter

/-- Puts a directive in the place of one with the same start, or else at the end. -/
def set (filter : LogFilter) (directive : LogDirective) : LogFilter :=
  { filter with
    directives :=
      if filter.directives.any (·.start == directive.start) then
        filter.directives.map fun other =>
          if other.start = directive.start then directive else other
      else
        filter.directives ++ [directive] }

def ofDirectives (directives : List LogDirective) (pattern : Option Pattern) : LogFilter :=
  directives.foldl set ⟨[], pattern⟩

/-- Reads a filter.  A text with more than one slash says nothing, and neither does a pattern
that cannot be read. -/
def ofText (text : String) : LogFilter :=
  match text.splitOn "/" with
  | [directives] => ofDirectives (LogDirective.listOfText directives) none
  | [directives, pattern] =>
    ofDirectives (LogDirective.listOfText directives) (Pattern.parse? pattern)
  | _ => ⟨[], none⟩

/-- The level in force for a source: that of the closest directive about it.  Without directives
only errors are let through. -/
def levelFor (filter : LogFilter) (source : LogSource) : LogLevel :=
  match filter.directives with
  | [] => .error
  | directives =>
    (((directives.filter (·.isAbout source)).foldl LogDirective.closer none).map (·.level)).getD
      .off

def shows (filter : LogFilter) (entry : LogEntry) : Bool :=
  (filter.levelFor entry.source).lets entry.severity &&
    filter.pattern.all (·.accepts entry.message)

end LogFilter

end Backflow.Command
