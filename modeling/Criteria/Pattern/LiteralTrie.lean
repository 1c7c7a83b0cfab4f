/-!
# Tries of literals

Literals, of which the first that matches counts, share what they begin with as far as the order
among them allows: behind the end of a literal that stands before them, others begin anew.
-/

namespace Criteria

namespace Pattern

/-- What stands below a node of a trie, in order. -/
inductive LiteralTrie where
  /-- Nothing more. -/
  | nil
  /-- A literal ends at the node. -/
  | stop (next : LiteralTrie)
  /-- A byte, with what may follow it. -/
  | edge (byte : UInt8) (below next : LiteralTrie)
deriving DecidableEq

namespace LiteralTrie

/-- Whether a literal ends at the node. -/
def hasStop : LiteralTrie → Bool
  | .nil => false
  | .stop _ => true
  | .edge _ _ next => hasStop next

/-- Whether no edge leaves the node. -/
def isLeaf : LiteralTrie → Bool
  | .nil => true
  | .stop next => isLeaf next
  | .edge .. => false

/-- Ends a literal at a node. -/
def pushStop : LiteralTrie → LiteralTrie
  | .nil => .stop .nil
  | .stop next => .stop (pushStop next)
  | .edge byte below next => .edge byte below (pushStop next)

/-- Ends a literal at a node; at a leaf it makes no difference how many end. -/
def finish (t : LiteralTrie) : LiteralTrie := if t = .stop .nil then t else t.pushStop

/-- The trie of one literal. -/
def ofLiteral : List UInt8 → LiteralTrie
  | [] => .stop .nil
  | byte :: bytes => .edge byte (ofLiteral bytes) .nil

/-- Adds a literal that begins with a byte, among the edges behind the last literal that ends at the
node. -/
def insertAt (byte : UInt8) (bytes : List UInt8) : LiteralTrie → LiteralTrie
  | .nil => .edge byte (ofLiteral bytes) .nil
  | .stop next => .stop (insertAt byte bytes next)
  | .edge byte' below next =>
    if byte = byte' ∧ !next.hasStop then
      match bytes with
      | [] => .edge byte' below.finish next
      | b :: bs => .edge byte' (insertAt b bs below) next
    else .edge byte' below (insertAt byte bytes next)

/-- Adds a literal. -/
def insert (t : LiteralTrie) : List UInt8 → LiteralTrie
  | [] => t.finish
  | byte :: bytes => t.insertAt byte bytes

/-- The trie of literals. -/
def ofLiterals (literals : List (List UInt8)) : LiteralTrie := literals.foldl insert .nil

/-- How many edges in a row lead from the node, from each end of a literal to the next. -/
def runs : LiteralTrie → List Nat
  | .nil => [0]
  | .stop next => 0 :: runs next
  | .edge _ _ next =>
    match runs next with
    | [] => [1]
    | run :: rest => (run + 1) :: rest

end LiteralTrie

end Pattern

end Criteria
