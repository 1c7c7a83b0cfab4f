import Criteria.Pattern.ByteTree
import Criteria.Pattern.LiteralTrie
import Criteria.Pattern.Plan
import Criteria.Pattern.SlotCache

/-!
# The size of a pattern

A pattern is refused if one of the automata that recognise it byte by byte, one forward and one
backward, would be too large. What counts is how the automata are built: states get numbers in the
order in which they are made, and while a set of characters is built, states that are equal to some
that were made before are taken from a cache, which may have forgotten them. `Plan.build` therefore
makes the states of a plan in order, but only counts them.
-/

namespace Criteria

namespace Pattern

/-! ### Counting -/

/-- What was built so far. -/
structure Tally where
  /-- The number of states, which is also the number of the next one. -/
  states : Nat
  /-- The bytes that states take beside their own size. -/
  extra : Nat

/-- The bytes of a state. -/
def stateSize : Nat := 32

/-- The bytes of a range of bytes that leads to another state. -/
def rangeSize : Nat := 8

/-- The bytes of a branch to another state. -/
def branchSize : Nat := 4

/-- The greatest size of an automaton, in bytes. -/
def sizeLimit : Nat := 10 * 1024 * 1024

namespace Tally

/-- Nothing. -/
def zero : Tally := ⟨0, 0⟩

/-- The bytes of what was built. -/
def size (t : Tally) : Nat := t.states * stateSize + t.extra

/-- Adds some states and the bytes that they take beside their own size, unless that is too much. -/
def add (t : Tally) (states extra : Nat) : Option Tally :=
  let t := ⟨t.states + states, t.extra + extra⟩
  if t.size ≤ sizeLimit then some t else none

/-- Adds a state without branches, or with just one. -/
def addState (t : Tally) : Option Tally := t.add 1 0

/-- Adds a state with branches. -/
def addFork (t : Tally) (branches : Nat) : Option Tally := t.add 1 (branches * branchSize)

/-- Adds a state with ranges of bytes. -/
def addRanges (t : Tally) (ranges : Nat) : Option Tally := t.add 1 (ranges * rangeSize)

end Tally

/-- Does something several times. -/
def buildTimes (f : Tally → Option Tally) : Nat → Tally → Option Tally
  | 0, t => some t
  | n + 1, t =>
    match f t with
    | none => none
    | some t => buildTimes f n t

/-- The direction in which an automaton reads. -/
inductive Reading where
  | forward | backward
deriving DecidableEq, Repr

/-! ### Sets of characters -/

/-- What was built so far, with a cache of states. -/
structure CachedTally where
  /-- What was built. -/
  tally : Tally
  /-- The states by their ranges and what these lead to. -/
  cache : SlotCache

namespace CachedTally

/-- The number of the state with a key. If the cache does not have it, it is made, with the given
number of ranges that do not fit into the state itself. -/
def stateOf (c : CachedTally) (key : List Nat) (ranges : Nat) : Option (Nat × CachedTally) :=
  match c.cache.find? key with
  | some state => some (state, c)
  | none => do
    let tally ← c.tally.addRanges ranges
    return (c.tally.states, ⟨tally, c.cache.insert key c.tally.states⟩)

end CachedTally

namespace ByteTree

mutual

/-- The number of the state that begins a tree whose encodings lead to the state `target`. A state
is made behind all those that it leads to. -/
def build (target : Nat) : ByteTree → CachedTally → Option (Nat × CachedTally)
  | .node [], c => some (target, c)
  | .node (child :: children), c => do
    let (key, c) ← buildEach target (child :: children) c
    c.stateOf key (children.length + 1)

/-- The ranges of several trees and the states that they lead to, as the key of a state. -/
def buildEach (target : Nat) :
    List ((Nat × Nat) × ByteTree) → CachedTally → Option (List Nat × CachedTally)
  | [], c => some ([], c)
  | ((first, last), tree) :: children, c => do
    let (state, c) ← build target tree c
    let (key, c) ← buildEach target children c
    return (first :: last :: state :: key, c)

end

end ByteTree

/-- The state that ends the row of a way backward, with the states in between: those of a row lead
from its last range to its first. -/
def buildRow (target : Nat) (row : List (Nat × Nat)) (c : CachedTally) :
    Option (Nat × CachedTally) :=
  row.foldlM (fun (next, c) (first, last) => c.stateOf [next, first, last] 0) (target, c)

/-- Builds ways backward, one for each row. -/
def buildRows (target : Nat) : List (List (Nat × Nat)) → CachedTally → Option CachedTally
  | [], c => some c
  | row :: rows, c => do
    let (_, c) ← buildRow target row c
    buildRows target rows c

/-- Builds what reads a character of a set. A set of ASCII takes two states; of other sets the
forward automaton shares the ends of encodings as far as its cache of ten thousand slots goes, and
the backward one shares the beginnings as far as its cache of a thousand slots goes. -/
def buildSet (reading : Reading) (s : CharSet) (t : Tally) : Option Tally :=
  if s.isAscii then do
    let t ← t.addState
    t.addRanges s.ranges.length
  else
    match reading with
    | .forward => do
      let target := t.states
      let t ← t.addState
      let (_, c) ← (ByteTree.ofRows (setRows s)).build target ⟨t, .empty 10000⟩
      return c.tally
    | .backward => do
      let rows := setRows s
      let t ← t.addFork rows.length
      let target := t.states
      let t ← t.addState
      let c ← buildRows target rows ⟨t, .empty 1000⟩
      return c.tally

/-! ### Literals -/

/-- Builds what a run of edges in a trie takes: a state for a single edge, or one with ranges. -/
def buildRun (t : Tally) (edges : Nat) : Option Tally :=
  match edges with
  | 0 => some t
  | 1 => t.addState
  | edges => t.addRanges edges

/-- Builds the runs of edges at a node of a trie, and a fork to them and to the ends of literals
between them. A leaf takes nothing. -/
def buildNode (node : LiteralTrie) (t : Tally) : Option Tally :=
  if node.isLeaf then some t
  else do
    let t ← node.runs.foldlM buildRun t
    t.addFork ((node.runs.filter (· != 0)).length + (node.runs.length - 1))

/-- Builds what is below the edges of a node of a trie. -/
def buildBelow : LiteralTrie → Tally → Option Tally
  | .nil, t => some t
  | .stop next, t => buildBelow next t
  | .edge _ below next, t => do
    let t ← buildBelow below t
    let t ← buildNode below t
    buildBelow next t

/-- Builds what reads one of several literals. -/
def buildLiterals (literals : List (List UInt8)) (t : Tally) : Option Tally := do
  let trie := LiteralTrie.ofLiterals literals
  let t ← t.addState
  let t ← buildBelow trie t
  buildNode trie t

/-- The bytes of characters, in the order in which they are read. -/
def literalBytes (reading : Reading) (cs : List Char) : List UInt8 :=
  let bytes := cs.flatMap String.utf8EncodeChar
  match reading with
  | .forward => bytes
  | .backward => bytes.reverse

/-! ### Plans -/

namespace Plan

/-- The characters of a literal. -/
def literal? : Plan → Option (List Char)
  | .literal cs => some cs
  | _ => none

mutual

/-- Builds an automaton behind what was built so far, unless it gets too large. Groups are marked
only in the forward automaton. -/
def build (reading : Reading) : Plan → Tally → Option Tally
  | .empty, t => t.addState
  | .literal cs, t => t.add (literalBytes reading cs).length 0
  | .set s, t => buildSet reading s t
  | .place _, t => t.addState
  | .capture body, t =>
    match reading with
    | .forward => do
      let t ← t.addState
      let t ← build reading body t
      t.addState
    | .backward => build reading body t
  | .concat parts, t => buildInRow reading parts t
  | .choice branches, t =>
    match branches.mapM literal? with
    | some literals => buildLiterals (literals.map (literalBytes reading)) t
    | none => buildBranches reading branches.length 0 branches t
  | .repetition 0 (some 1) _ body, t => do
    let t ← t.addFork 2
    let t ← build reading body t
    t.addState
  | .repetition 0 none _ body, t =>
    if (leastLength body).any (0 < ·) then do
      let t ← t.addFork 2
      build reading body t
    else do
      let t ← build reading body t
      let t ← t.addFork 2
      let t ← t.addFork 2
      t.addState
  | .repetition (least + 1) none _ body, t => do
    let t ← buildTimes (build reading body) (least + 1) t
    t.addFork 2
  | .repetition least (some most) _ body, t => do
    let t ← if least = 0 then t.addState else buildTimes (build reading body) least t
    if least = most then return t
    else
      let t ← t.addState
      buildTimes (fun t => do build reading body (← t.addFork 2)) (most - least) t

/-- Builds plans in a row, the last one first when reading backward. -/
def buildInRow (reading : Reading) : List Plan → Tally → Option Tally
  | [], t => some t
  | p :: ps, t =>
    match reading with
    | .forward => do buildInRow reading ps (← build reading p t)
    | .backward => do build reading p (← buildInRow reading ps t)

/-- Builds branches, of which there are `count`, from the one with the given index on. Behind the
second one comes the fork between all of them, and the state where they meet. -/
def buildBranches (reading : Reading) (count index : Nat) : List Plan → Tally → Option Tally
  | [], t => some t
  | p :: ps, t => do
    let t ← build reading p t
    let t ← if index = 1 then (do (← t.addFork count).addState) else some t
    buildBranches reading count (index + 1) ps t

end

/-- Builds the whole automaton of a plan: a loop that looks for the beginning of a match, unless a
match has to begin where reading begins, the plan itself as a group, and the end. -/
def buildAll (reading : Reading) (p : Plan) : Option Tally := do
  let anchored :=
    match reading with
    | .forward => p.asksFor .textStart false
    | .backward => p.asksFor .textEnd true
  let t ← if anchored then Tally.zero.addState
    else do
      let t ← Tally.zero.addFork 2
      let t ← t.addState
      t.addRanges 1
  let t ← (Plan.capture p).build reading t
  t.addState

end Plan

/-- Whether both automata of an expression are small enough. -/
def Expr.fits (e : Expr Atom) : Bool :=
  let plan := Plan.ofExpr e
  (plan.buildAll .forward).isSome && (plan.buildAll .backward).isSome

end Pattern

end Criteria
