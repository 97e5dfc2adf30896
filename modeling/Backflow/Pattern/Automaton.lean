import Backflow.Pattern.Normal
import Backflow.Text.Utf8
import Std.Data.TreeMap

/-! # The size of a pattern

A pattern stands for two automata over bytes, one that runs forward through a text and one that
runs backward.  Their states are built part by part, and a pattern is too large when one of the
two does not fit into a fixed number of bytes.

* `Pattern.build` adds the states of a pattern in one direction.
* `Pattern.fits` holds of the patterns both of whose automata can be built.

Only what counts for the size is kept: how many states there are, how many bytes their links
take, and how a part ends.  A state costs 32 bytes, a list of links by bytes 8 more for each
link, and a branch 4 more for each way on.

The states of a class beyond ASCII are shared as far as a table of recent states allows.  A
table has a fixed number of slots; a state goes to the slot that its links determine and drives
out the state that was there.
-/

namespace Backflow.Pattern

/-! ## States -/

/-- The size of an automaton under construction. -/
structure Size where
  states : Nat
  /-- The bytes that links take. -/
  links : Nat

/-- The largest size of an automaton, in bytes. -/
def sizeLimit : Nat :=
  10485760

namespace Size

def zero : Size :=
  ⟨0, 0⟩

def bytes (size : Size) : Nat :=
  32 * size.states + size.links

def within? (size : Size) : Option Size :=
  if size.bytes ≤ sizeLimit then some size else none

/-- The size with another state, whose links take the given number of bytes. -/
def addState? (size : Size) (links : Nat) : Option Size :=
  within? ⟨size.states + 1, size.links + links⟩

def addStates? (size : Size) (count : Nat) : Option Size :=
  within? ⟨size.states + count, size.links⟩

def addLinks? (size : Size) (links : Nat) : Option Size :=
  within? ⟨size.states, size.links + links⟩

end Size

/-- How a part of an automaton ends. -/
inductive Exit where
  /-- At a state that goes on to one other. -/
  | plain
  /-- At a branch, which takes one more link for what follows. -/
  | branch

/-- The size once what follows an exit is linked to it. -/
def Size.leave? (size : Size) : Exit → Option Size
  | .plain => some size
  | .branch => size.addLinks? 4

/-- A part of an automaton: what it makes of the size, and how it ends. -/
abbrev Build := Size → Option (Exit × Size)

namespace Build

def states (count : Nat) : Build := fun size => do
  return (.plain, ← size.addStates? count)

def after (exit : Exit) (next : Build) : Build := fun size => do
  let (nextExit, size) ← next size
  return (nextExit, ← size.leave? exit)

/-- Goes on from an exit with further parts in a row. -/
def chainFrom (exit : Exit) : List Build → Build
  | [] => fun size => some (exit, size)
  | part :: rest => fun size =>
    match after exit part size with
    | some (exit, size) => chainFrom exit rest size
    | none => none

/-- Parts in a row; a state is needed for none. -/
def chain : List Build → Build
  | [] => states 1
  | first :: rest => fun size =>
    match first size with
    | some (exit, size) => chainFrom exit rest size
    | none => none

/-! ## Repetitions -/

/-- Goes on from an exit with the same part again and again. -/
def againFrom (part : Build) : (count : Nat) → Exit → Build
  | 0, exit => fun size => some (exit, size)
  | count + 1, exit => fun size =>
    match after exit part size with
    | some (exit, size) => againFrom part count exit size
    | none => none

def exactly (part : Build) : (count : Nat) → Build
  | 0 => states 1
  | count + 1 => fun size =>
    match part size with
    | some (exit, size) => againFrom part count exit size
    | none => none

/-- Goes on from an exit with the same part at most so many times, each time behind a branch. -/
def optionalFrom (part : Build) : (count : Nat) → Exit → Build
  | 0, exit => fun size => some (exit, size)
  | count + 1, exit => fun size =>
    match (do after exit part (← size.addState? 8)) with
    | some (exit, size) => optionalFrom part count exit size
    | none => none

def optional (part : Build) : Build := fun size => do
  let (exit, size) ← part (← size.addState? 8)
  let size ← (← size.addState? 0).leave? exit
  return (.plain, size)

/-- A part any number of times.  A part that may take no characters needs a second branch. -/
def star (part : Build) (consumes : Bool) : Build := fun size => do
  if consumes then
    let (exit, size) ← part (← size.addState? 4)
    return (.branch, ← size.leave? exit)
  else
    let (exit, size) ← part size
    let size ← (← size.addState? 4).leave? exit
    let size ← (← size.addState? 8).addState? 0
    return (.plain, ← size.addLinks? 4)

def atLeast (part : Build) : (count : Nat) → Build
  | 0 => states 1
  | count + 1 => fun size => do
    let (exit, size) ← exactly part (count + 1) size
    return (.branch, ← (← size.addState? 4).leave? exit)

/-- A part between `least` and `least + further` times. -/
def between (part : Build) (least further : Nat) : Build := fun size => do
  let (exit, size) ← exactly part least size
  let (exit, size) ← optionalFrom part further exit (← size.addState? 0)
  return (.plain, ← size.leave? exit)

/-- A part repeated; `consumes` says that it takes characters. -/
def times (part : Build) (consumes : Bool) : (least : Nat) → (most : Option Nat) → Build
  | 0, none => star part consumes
  | least, none => atLeast part least
  | 0, some 1 => optional part
  | least, some most =>
    if least = most then exactly part least else between part least (most - least)

/-! ## Alternatives -/

/-- Goes on with further alternatives of a branch. -/
def othersOf : List Build → Build
  | [] => fun size => some (.plain, size)
  | part :: rest => fun size =>
    match (do
      let (exit, size) ← part size
      (← size.addLinks? 4).leave? exit) with
    | some size => othersOf rest size
    | none => none

/-- One of the given parts; the branch is built after the first two. -/
def choice : List Build → Build
  | first :: second :: rest => fun size => do
    let (firstExit, size) ← first size
    let (secondExit, size) ← second size
    let size ← (← size.addState? 8).addState? 0
    let size ← (← size.leave? firstExit).leave? secondExit
    othersOf rest size
  | [part] => part
  | [] => states 1

end Build

/-! ## Words -/

/-- The words that an automaton looks for, as a tree of their bytes.  The places where words end
divide the links of a node into sections, the first ones first. -/
inductive WordTree where
  | node (sections : List (List (Nat × WordTree))) (current : List (Nat × WordTree))

namespace WordTree

def empty : WordTree :=
  .node [] []

def isLeaf : WordTree → Bool
  | .node sections current => current.isEmpty && sections.all (·.isEmpty)

def single : List Nat → WordTree
  | [] => .node [[]] []
  | byte :: rest => .node [] [(byte, single rest)]

/-- Puts a link in its place among links in the order of their bytes. -/
def insertLink (byte : Nat) (tree : WordTree) : List (Nat × WordTree) → List (Nat × WordTree)
  | [] => [(byte, tree)]
  | (other, child) :: rest =>
    if byte < other then (byte, tree) :: (other, child) :: rest
    else (other, child) :: insertLink byte tree rest

/-- The links with the child of one of them changed. -/
def changeLink (byte : Nat) (change : WordTree → WordTree) (links : List (Nat × WordTree)) :
    List (Nat × WordTree) :=
  links.map fun (other, child) => (other, if other = byte then change child else child)

/-- Adds a word.  It may share the links that were added after the last word that ended at a
node; a word that ends where another did and nothing follows adds nothing. -/
def insert : List Nat → WordTree → WordTree
  | [], .node sections current =>
    if (WordTree.node sections current).isLeaf && !sections.isEmpty then .node sections current
    else .node (sections ++ [current]) []
  | byte :: rest, .node sections current =>
    if current.any (·.1 == byte) then
      .node sections (changeLink byte (insert rest) current)
    else
      .node sections (insertLink byte (single rest) current)

def ofWords (words : List (List Nat)) : WordTree :=
  words.foldl (fun tree word => tree.insert word) empty

mutual

/-- Adds the states of a tree: a state for each section with links, and a branch between the
sections. -/
def build? : WordTree → Size → Option Size
  | .node sections current, size => do
    let size ← buildSections? sections size
    let size ← buildLinks? current current.length size
    let branches := sections.length + (sections ++ [current]).countP (!·.isEmpty)
    size.addState? (4 * branches)

def buildSections? : List (List (Nat × WordTree)) → Size → Option Size
  | [], size => some size
  | links :: rest, size => do
    let size ← buildLinks? links links.length size
    buildSections? rest size

/-- Adds the states that links lead to, and then that of the section they are in. -/
def buildLinks? : List (Nat × WordTree) → (count : Nat) → Size → Option Size
  | [], 0, size => some size
  | [], 1, size => size.addState? 0
  | [], count, size => size.addState? (8 * count)
  | (_, child) :: rest, count, size => do
    let size ← if child.isLeaf then some size else child.build? size
    buildLinks? rest count size

end

end WordTree

/-! ## Classes -/

/-- A table of recent states: in each slot a state and what it was made from. -/
structure Recent (α : Type) where
  /-- The number of slots. -/
  count : Nat
  slots : Std.TreeMap Nat (α × Nat)

namespace Recent

def empty {α : Type} (count : Nat) : Recent α :=
  ⟨count, ∅⟩

/-- The slot for what is described by numbers. -/
def slot {α : Type} (table : Recent α) (numbers : List Nat) : Nat :=
  let hash := numbers.foldl (fun hash n => (hash ^^^ n.toUInt64) * 1099511628211)
    (14695981039346656037 : UInt64)
  (hash % table.count.toUInt64).toNat

/-- The state made from `key`, if the slot still holds it. -/
def get? {α : Type} [BEq α] (table : Recent α) (slot : Nat) (key : α) : Option Nat :=
  match table.slots[slot]? with
  | some (known, state) => if known == key then some state else none
  | none => none

def set {α : Type} (table : Recent α) (slot : Nat) (key : α) (state : Nat) : Recent α :=
  { table with slots := table.slots.insert slot (key, state) }

end Recent

/-- A link by a range of bytes to a state. -/
abbrev Link := Text.ByteRange × Nat

def Link.numbers (link : Link) : List Nat :=
  [link.1.1, link.1.2, link.2]

/-- A state whose links are not all known. -/
structure OpenState where
  links : List Link
  /-- The range of the link whose goal is not known. -/
  last : Option Text.ByteRange

/-- The links of a state, the last one leading to `goal`. -/
def OpenState.close (state : OpenState) (goal : Nat) : List Link :=
  match state.last with
  | some range => state.links ++ [(range, goal)]
  | none => state.links

/-- A class under construction. -/
structure ClassBuild (α : Type) where
  size : Size
  recent : Recent α

namespace ClassBuild

/-- The state with the given links, shared if it is a recent one. -/
def share? (build : ClassBuild (List Link)) (links : List Link) :
    Option (Nat × ClassBuild (List Link)) :=
  let ⟨size, recent⟩ := build
  let slot := recent.slot (links.flatMap Link.numbers)
  match recent.get? slot links with
  | some state => some (state, ⟨size, recent⟩)
  | none =>
    match size.addState? (8 * links.length) with
    | some next => some (size.states, ⟨next, recent.set slot links size.states⟩)
    | none => none

/-- Closes open states from the last one on, each leading to the next; gives the first one. -/
def closeAll? (goal : Nat) :
    List OpenState → ClassBuild (List Link) → Option (Nat × ClassBuild (List Link))
  | [], build => some (goal, build)
  | state :: rest, build =>
    match closeAll? goal rest build with
    | some (next, build) => build.share? (state.close next)
    | none => none

/-- Adds a sequence of byte ranges: the states that it has in common with the sequence before
stay open, the others are closed. -/
def addSequence? (goal : Nat) : List OpenState → List Text.ByteRange → ClassBuild (List Link) →
    Option (List OpenState × ClassBuild (List Link))
  | state :: states, range :: rest, build =>
    if state.last == some range then
      match addSequence? goal states rest build with
      | some (states, build) => some (state :: states, build)
      | none => none
    else
      match closeAll? goal states build with
      | some (next, build) =>
        some (⟨state.close next, some range⟩ :: rest.map (⟨[], some ·⟩), build)
      | none => none
  | states, _, build => some (states, build)

/-- Adds sequences of byte ranges and closes all states. -/
def addSequences? (goal : Nat) : List OpenState → List (List Text.ByteRange) →
    ClassBuild (List Link) → Option (ClassBuild (List Link))
  | states, [], build => (closeAll? goal states build).map (·.2)
  | states, sequence :: rest, build =>
    match addSequence? goal states sequence build with
    | some (states, build) => addSequences? goal states rest build
    | none => none

/-- Adds the states of a sequence of byte ranges that is run through backward, the last of them
leading to `goal`; gives the first one. -/
def addBackward? (goal : Nat) : List Text.ByteRange → ClassBuild Link → Option (ClassBuild Link)
  | [], build => some build
  | range :: rest, ⟨size, recent⟩ =>
    let link : Link := (range, goal)
    let slot := recent.slot [goal, range.1, range.2]
    match recent.get? slot link with
    | some state => addBackward? state rest ⟨size, recent⟩
    | none =>
      match size.addState? 0 with
      | some next => addBackward? size.states rest ⟨next, recent.set slot link size.states⟩
      | none => none

end ClassBuild

/-- The direction in which an automaton runs through a text. -/
inductive Direction where
  | forward
  | backward
deriving DecidableEq

/-- The states of a class beyond ASCII, given by the sequences of bytes it stands for. -/
def buildSequences? (direction : Direction) (sequences : List (List Text.ByteRange))
    (size : Size) : Option Size :=
  match direction with
  | .forward => do
    let goal := size.states
    let build : ClassBuild (List Link) := ⟨← size.addState? 0, .empty 10000⟩
    let build ← ClassBuild.addSequences? goal [⟨[], none⟩] sequences build
    return build.size
  | .backward => do
    let size ← size.addState? (4 * sequences.length)
    let goal := size.states
    let build : ClassBuild Link := ⟨← size.addState? 0, .empty 1000⟩
    let build ← sequences.foldlM (fun build ranges => build.addBackward? goal ranges) build
    return build.size

def Build.ofAscii (set : Text.Ranges) : Build := fun size => do
  return (.plain, ← (← size.addState? 0).addState? (8 * set.length))

def Build.ofSequences (direction : Direction) (sequences : List (List Text.ByteRange)) : Build :=
  fun size => do
    return (.plain, ← buildSequences? direction sequences size)

def Build.ofClass (direction : Direction) (set : Text.Ranges) : Build :=
  if set.all fun range => range.2 < 0x80 then .ofAscii set
  else .ofSequences direction set.utf8

/-! ## Patterns -/

def bytesOf (chars : List Char) : List Nat :=
  chars.flatMap fun c => Text.utf8Bytes c.toNat

def literal? : Pattern → Option (List Char)
  | .literal chars => some chars
  | _ => none

/-- The tree of the words that alternatives stand for, if they all are literals. -/
def wordTree? (direction : Direction) (alternatives : List Pattern) : Option WordTree :=
  (alternatives.mapM literal?).map fun words =>
    .ofWords (words.map fun chars =>
      match direction with
      | .forward => bytesOf chars
      | .backward => (bytesOf chars).reverse)

mutual

/-- The least number of characters that a match takes; none if the pattern holds an empty class,
which cannot match. -/
def shortest? : Pattern → Option Nat
  | .empty => some 0
  | .literal chars => some chars.length
  | .oneOf set => if set.isEmpty then none else some 1
  | .assertion _ => some 0
  | .group _ body => body.shortest?
  | .seq parts => (shortestOfAll? parts).map (·.sum)
  | .alt alternatives => (shortestOfAll? alternatives).bind (·.min?)
  | .repeated body least _ _ => body.shortest?.map (· * least)

/-- The least number of characters that a match of each pattern takes. -/
def shortestOfAll? : List Pattern → Option (List Nat)
  | [] => some []
  | p :: rest => do return (← p.shortest?) :: (← shortestOfAll? rest)

end

/-- Holds when a match takes characters. -/
def consumes (p : Pattern) : Bool :=
  p.shortest?.any (0 < ·)

mutual

def build (direction : Direction) : Pattern → Build
  | .empty => Build.states 1
  | .literal chars => Build.states (bytesOf chars).length
  | .oneOf set => Build.ofClass direction set
  | .assertion _ => Build.states 1
  | .group _ body =>
    let inside := body.build direction
    match direction with
    | .forward => Build.chain [Build.states 1, inside, Build.states 1]
    | .backward => inside
  | .seq parts =>
    let builds := buildAll direction parts
    match direction with
    | .forward => Build.chain builds
    | .backward => Build.chain builds.reverse
  | .alt alternatives =>
    let builds := buildAll direction alternatives
    match wordTree? direction alternatives with
    | some tree => fun size => do
      return (.plain, ← tree.build? (← size.addState? 0))
    | none => Build.choice builds
  | .repeated body least most _ =>
    (body.build direction).times body.consumes least most

def buildAll (direction : Direction) : List Pattern → List Build
  | [] => []
  | p :: rest => p.build direction :: buildAll direction rest

end

mutual

/-- Holds when a match can only start, or in the other direction end, where an assertion is
true that stands for that end of the text. -/
def isAnchored (direction : Direction) : Pattern → Bool
  | .assertion condition =>
    match direction with
    | .forward => condition == .textStart
    | .backward => condition == .textEnd
  | .group _ body => body.isAnchored direction
  | .seq parts =>
    match direction with
    | .forward => anyAnchored direction (parts.map isWidthless) parts
    | .backward => anyAnchoredFromEnd direction parts
  | .alt alternatives => allAnchored direction alternatives
  | .repeated body least _ _ => decide (0 < least) && body.isAnchored direction
  | _ => false

/-- Holds when one of the parts before the first that takes characters, or that part itself, is
anchored. -/
def anyAnchored (direction : Direction) : List Bool → List Pattern → Bool
  | widthless :: others, p :: rest =>
    p.isAnchored direction || (widthless && anyAnchored direction others rest)
  | _, _ => false

/-- Holds when one of the parts after the last that takes characters, or that part itself, is
anchored. -/
def anyAnchoredFromEnd (direction : Direction) : List Pattern → Bool
  | [] => false
  | p :: rest =>
    anyAnchoredFromEnd direction rest || (allWidthless rest && p.isAnchored direction)

def allAnchored (direction : Direction) : List Pattern → Bool
  | [] => true
  | p :: rest => p.isAnchored direction && allAnchored direction rest

end

/-- The size of the automaton of a pattern in one direction.  A match that may start anywhere
needs a loop in front; only the forward automaton marks where a match starts and ends. -/
def sizeIn? (pattern : Pattern) (direction : Direction) : Option Size := do
  let size ← if pattern.isAnchored direction then Size.zero.addState? 0
    else Size.within? ⟨3, 16⟩
  let body := pattern.build direction
  let (exit, size) ← match direction with
    | .forward => Build.chain [Build.states 1, body, Build.states 1] size
    | .backward => body size
  (← size.addState? 0).leave? exit

/-- Holds of the patterns whose automata are within the limit. -/
def fits (pattern : Pattern) : Bool :=
  (pattern.sizeIn? .forward).isSome && (pattern.sizeIn? .backward).isSome

end Backflow.Pattern
