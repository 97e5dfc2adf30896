import Backflow.Pattern.Automaton
import Backflow.Pattern.Normal
import Backflow.Pattern.Token

/-! # Reading patterns

Tokens are taken one by one into the innermost open group.  A group is a list of alternatives,
each a sequence; flags last to the end of the group they are set in.

A pattern is refused when it is nested too deep or when its automaton is too large.
-/

namespace Backflow.Pattern

/-! ## Parts -/

/-- A part of a pattern as written. -/
structure Part where
  pattern : Pattern
  /-- How deep groups, repetitions, sequences, alternatives and classes are nested in it. -/
  nesting : Nat
  /-- Setting flags is a part that cannot be repeated. -/
  repeatable : Bool

namespace Part

/-- A part that can be repeated. -/
def of (pattern : Pattern) (nesting : Nat) : Part :=
  ⟨pattern, nesting, true⟩

/-- The part that setting flags counts as. -/
def flags : Part :=
  ⟨.empty, 0, false⟩

def deepest (parts : List Part) : Nat :=
  (parts.map (·.nesting)).foldl max 0

/-- Parts put together, one level deeper unless there is just one. -/
def join (combine : List Pattern → Pattern) : List Part → Part
  | [] => .of .empty 0
  | [part] => { part with repeatable := true }
  | parts => .of (combine (parts.map (·.pattern))) (1 + deepest parts)

end Part

/-! ## Groups -/

/-- A group whose closing parenthesis has not been met. -/
structure OpenGroup where
  /-- The number of the group, if it has one. -/
  number : Option Nat
  /-- The flags that hold from here on. -/
  flags : Flags
  /-- The alternatives before the one under way, last first. -/
  alternatives : List Part
  /-- The parts of the alternative under way, last first. -/
  parts : List Part

namespace OpenGroup

def start (number : Option Nat) (flags : Flags) : OpenGroup :=
  ⟨number, flags, [], []⟩

def sequence (group : OpenGroup) : Part :=
  Part.join Pattern.sequence group.parts.reverse

def content (group : OpenGroup) : Part :=
  Part.join Pattern.choice (group.sequence :: group.alternatives).reverse

def close (group : OpenGroup) : Part :=
  let content := group.content
  let pattern := match group.number with
    | some number => .group number content.pattern
    | none => content.pattern
  .of pattern (1 + content.nesting)

def add (group : OpenGroup) (part : Part) : OpenGroup :=
  { group with parts := part :: group.parts }

def addLeaf (group : OpenGroup) (p : Pattern) : OpenGroup :=
  group.add (.of p 0)

def addChars (group : OpenGroup) (set : CharSet) (nesting : Nat) : OpenGroup :=
  group.add (.of (ofSet (set.resolve group.flags.ignoreCase)) nesting)

def alternate (group : OpenGroup) : OpenGroup :=
  { group with alternatives := group.sequence :: group.alternatives, parts := [] }

/-- Repeats the last part, if there is one that can be repeated. -/
def repeatLast? (group : OpenGroup) (least : Nat) (most : Option Nat) (marked : Bool) :
    Option OpenGroup :=
  match group.parts with
  | part :: rest =>
    if part.repeatable then
      let pattern := part.pattern.times least most (marked == group.flags.short)
      some { group with parts := .of pattern (1 + part.nesting) :: rest }
    else
      none
  | [] => none

end OpenGroup

structure OpenGroups where
  innermost : OpenGroup
  /-- The groups around it, from the inside out. -/
  outer : List OpenGroup
  /-- The number of the next group. -/
  next : Nat

namespace OpenGroups

def openGroup (groups : OpenGroups) (captures : Bool) (flags : Flags) : OpenGroups :=
  let outer := groups.innermost :: groups.outer
  if captures then ⟨.start (some groups.next) flags, outer, groups.next + 1⟩
  else ⟨.start none flags, outer, groups.next⟩

def take? (groups : OpenGroups) (token : Token) : Option OpenGroups :=
  let group := groups.innermost
  let inside (group : OpenGroup) : Option OpenGroups := some { groups with innermost := group }
  match token with
  | .literal c => inside (group.addChars (.single c) 0)
  | .chars set nesting => inside (group.addChars set nesting)
  | .dot => inside (group.addLeaf
      (.oneOf ((if group.flags.dotAll then .any else CharSet.notLineFeed).resolve false)))
  | .caret =>
    inside (group.addLeaf (.assertion (if group.flags.multiLine then .lineStart else .textStart)))
  | .dollar =>
    inside (group.addLeaf (.assertion (if group.flags.multiLine then .lineEnd else .textEnd)))
  | .condition condition => inside (group.addLeaf (.assertion condition))
  | .bar => inside group.alternate
  | .times least most marked => (group.repeatLast? least most marked).bind inside
  | .setFlags letters =>
    (group.flags.changeAll? letters).bind fun flags =>
      inside ({ group with flags := flags }.add .flags)
  | .openGroup captures _ letters =>
    (group.flags.changeAll? letters).map (groups.openGroup captures)
  | .closeGroup =>
    match groups.outer with
    | parent :: outer => some { groups with innermost := parent.add group.close, outer := outer }
    | [] => none

end OpenGroups

/-! ## Patterns -/

def groupNames (tokens : List Token) : List String :=
  tokens.filterMap fun
    | .openGroup _ name _ => name
    | _ => none

def nestingLimit : Nat :=
  250

def parse? (text : String) : Option Pattern := do
  let tokens ← tokens? text.toList
  let groups ← tokens.foldlM OpenGroups.take? ⟨.start none {}, [], 1⟩
  let whole := groups.innermost.content
  if groups.outer.isEmpty && decide (groupNames tokens).Nodup &&
      decide (whole.nesting ≤ nestingLimit) && whole.pattern.fits then
    some whole.pattern
  else
    none

end Backflow.Pattern
