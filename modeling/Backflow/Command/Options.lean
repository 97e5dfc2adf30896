import Backflow.Text.Decimal

/-! # Command-line options

Options have a long name and often a letter.  A flag takes no value; any other option takes one,
written `--name value`, `--name=value`, `-n value`, `-nvalue` or `-n=value`.  Letters of flags
can share a hyphen.  A value that stands on its own must not look like an option: it does not
start with a hyphen unless it is one.

Arguments are taken from left to right, and the first one that is wrong, or that asks for help
or the version, decides.  There are no arguments besides options.
-/

namespace Backflow.Command

/-! ## Options and their values -/

/-- What the value of an option may be. -/
inductive ValueKind where
  | text
  /-- A decimal number up to the largest value. -/
  | unsigned (largest : Nat)
  /-- A decimal number up to the largest value; zero may have a minus sign. -/
  | signed (largest : Nat)
  /-- One of the given words. -/
  | oneOf (words : List String)

/-- Reads a number that may have a sign and is not negative. -/
def readSigned? (largest : Nat) (text : List Char) : Option Nat :=
  match text with
  | '-' :: digits => if digits.head? = some '+' then none else Text.readDecimal? 0 digits
  | _ => Text.readDecimal? largest text

def ValueKind.accepts : ValueKind → String → Bool
  | .text, _ => true
  | .unsigned largest, value => (Text.readDecimal? largest value.toList).isSome
  | .signed largest, value => (readSigned? largest value.toList).isSome
  | .oneOf words, value => words.contains value

/-- How often an option may be given, and with what. -/
inductive Usage where
  /-- At most once, without a value. -/
  | flag
  /-- At most once, with a value. -/
  | single (value : ValueKind)
  /-- Any number of times, each time with a text. -/
  | repeatable

structure OptionSpec where
  name : String
  letter : Option Char
  usage : Usage
  required : Bool

/-- An option as it was given; flags have no value. -/
structure Given where
  name : String
  value : String

/-- What the arguments amount to. -/
inductive Arguments where
  | given (options : List Given)
  | refused
  | help
  | version

/-! ## Reading -/

/-- The options of a command and whether it tells its version. -/
structure Grammar where
  options : List OptionSpec
  hasVersion : Bool

namespace Grammar

def ofName? (g : Grammar) (name : String) : Option OptionSpec :=
  g.options.find? (·.name == name)

def ofLetter? (g : Grammar) (letter : Char) : Option OptionSpec :=
  g.options.find? (·.letter == some letter)

/-- Adds an option to those given; none if it was given before and cannot be repeated, or if
its value is not allowed. -/
def add? (given : List Given) (option : OptionSpec) (value : String) : Option (List Given) :=
  let again := given.any (·.name == option.name)
  match option.usage with
  | .repeatable => some (given ++ [⟨option.name, value⟩])
  | .flag => if again then none else some (given ++ [⟨option.name, value⟩])
  | .single allowed =>
    if again || !allowed.accepts value then none else some (given ++ [⟨option.name, value⟩])

/-- What an argument amounts to, on its own. -/
inductive Step where
  /-- These options have been given. -/
  | done (given : List Given)
  /-- So have these, and the last option takes its value from the next argument. -/
  | wants (given : List Given) (option : OptionSpec)
  | stop (arguments : Arguments)

/-- Takes an option whose value, if it has one, is attached. -/
def takeAttached (given : List Given) (option : OptionSpec) (value : String) : Step :=
  match add? given option value with
  | some given => .done given
  | none => .stop .refused

/-- Takes an argument that starts with two hyphens, given what follows them. -/
def takeLong (g : Grammar) (given : List Given) (body : List Char) : Step :=
  let name := String.ofList (body.takeWhile (· != '='))
  let attached : Option String := match body.dropWhile (· != '=') with
    | _ :: value => some (String.ofList value)
    | [] => none
  match g.ofName? name, attached with
  | some option, some value =>
    match option.usage with
    | .flag => .stop .refused
    | _ => takeAttached given option value
  | some option, none =>
    match option.usage with
    | .flag => takeAttached given option ""
    | _ => .wants given option
  | none, none =>
    if name = "help" then .stop .help
    else if name = "version" ∧ g.hasVersion then .stop .version
    else .stop .refused
  | none, some _ => .stop .refused

/-- Takes the letters that follow one hyphen. -/
def takeLetters (g : Grammar) (given : List Given) : List Char → Step
  | [] => .done given
  | letter :: rest =>
    match g.ofLetter? letter with
    | none =>
      if letter = 'h' then .stop .help
      else if letter = 'V' ∧ g.hasVersion then .stop .version
      else .stop .refused
    | some option =>
      match option.usage, rest with
      | .flag, _ =>
        match add? given option "" with
        | some given => g.takeLetters given rest
        | none => .stop .refused
      | _, [] => .wants given option
      | _, '=' :: value => takeAttached given option (String.ofList value)
      | _, value => takeAttached given option (String.ofList value)

def take (g : Grammar) (given : List Given) (argument : String) : Step :=
  match argument.toList with
  | '-' :: '-' :: body => g.takeLong given body
  | '-' :: letter :: rest => g.takeLetters given (letter :: rest)
  | _ => .stop .refused

def looksLikeOption (argument : String) : Bool :=
  match argument.toList with
  | '-' :: _ :: _ => true
  | _ => false

/-- The arguments at their end: refused if a required option is missing. -/
def finish (g : Grammar) (given : List Given) : Arguments :=
  if g.options.all fun option => !option.required || given.any (·.name == option.name) then
    .given given
  else
    .refused

/-- Takes the arguments from left to right, `pending` being an option that waits for its
value. -/
def readFrom (g : Grammar) (given : List Given) :
    (pending : Option OptionSpec) → List String → Arguments
  | none, [] => g.finish given
  | some _, [] => .refused
  | some option, value :: rest =>
    if looksLikeOption value then .refused
    else
      match add? given option value with
      | some given => g.readFrom given none rest
      | none => .refused
  | none, argument :: rest =>
    if argument = "--" then
      if rest.isEmpty then g.finish given else .refused
    else
      match g.take given argument with
      | .done given => g.readFrom given none rest
      | .wants given option => g.readFrom given (some option) rest
      | .stop arguments => arguments

def read (g : Grammar) (arguments : List String) : Arguments :=
  g.readFrom [] none arguments

end Grammar

/-! ## Looking up -/

def valuesOf (given : List Given) (name : String) : List String :=
  (given.filter (·.name == name)).map (·.value)

def valueOf? (given : List Given) (name : String) : Option String :=
  (valuesOf given name).head?

def isGiven (given : List Given) (name : String) : Bool :=
  given.any (·.name == name)

end Backflow.Command
