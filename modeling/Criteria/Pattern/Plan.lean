import Criteria.Pattern.Expr

/-!
# Plans of automata

The form of an expression from which an automaton is built. Parts that lie directly inside parts of
the same kind are joined, and so are characters in a row; branches that each read one character of a
set become one set, and branches that begin alike share their beginning. `Plan.ofExpr` brings an
expression into this form, which matches the same texts.
-/

namespace Criteria

namespace Pattern

/-- The plan of an automaton. -/
inductive Plan where
  /-- Reads nothing. -/
  | empty
  /-- Reads some characters in a row. -/
  | literal (cs : List Char)
  /-- Reads one character of a set. -/
  | set (s : CharSet)
  /-- Asks for a place in the text. -/
  | place (p : Place)
  /-- A plan repeated at least and at most so often; without an upper bound any number of times. -/
  | repetition (least : Nat) (most : Option Nat) (greedy : Bool) (body : Plan)
  /-- A captured group. -/
  | capture (body : Plan)
  /-- Plans one after the other. -/
  | concat (parts : List Plan)
  /-- One of several plans. -/
  | choice (branches : List Plan)

namespace Plan

/-! ### Properties -/

mutual

/-- Whether two plans are the same. Captured groups have numbers of their own, so two of them never
are. -/
def same : Plan → Plan → Bool
  | .empty, .empty => true
  | .literal cs, .literal cs' => cs == cs'
  | .set s, .set s' => s == s'
  | .place p, .place p' => p == p'
  | .repetition least most greedy body, .repetition least' most' greedy' body' =>
    least == least' && most == most' && greedy == greedy' && same body body'
  | .concat parts, .concat parts' => sameEach parts parts'
  | .choice branches, .choice branches' => sameEach branches branches'
  | _, _ => false

/-- Whether two lists hold the same plans in the same order. -/
def sameEach : List Plan → List Plan → Bool
  | [], [] => true
  | p :: ps, q :: qs => same p q && sameEach ps qs
  | _, _ => false

end

mutual

/-- Whether a plan reads no character, wherever it matches. -/
def readsNothing : Plan → Bool
  | .empty => true
  | .literal cs => cs.isEmpty
  | .set _ => false
  | .place _ => true
  | .repetition _ most _ body => most == some 0 || readsNothing body
  | .capture body => readsNothing body
  | .concat parts => allReadNothing parts
  | .choice branches => allReadNothing branches

/-- Whether no plan of a list reads a character. -/
def allReadNothing : List Plan → Bool
  | [] => true
  | p :: ps => readsNothing p && allReadNothing ps

end

/-- The lesser of two numbers of characters; nothing is known of what cannot match at all. -/
def lesser (a b : Option Nat) : Option Nat := do return min (← a) (← b)

mutual

/-- The least number of characters that a plan reads, unless a part of it cannot match at all. -/
def leastLength : Plan → Option Nat
  | .empty => some 0
  | .literal cs => some cs.length
  | .set s => if s.ranges.isEmpty then none else some 1
  | .place _ => some 0
  | .repetition least _ _ body => (leastLength body).map (least * ·)
  | .capture body => leastLength body
  | .concat parts => leastLengthInRow parts
  | .choice branches => leastLengthOfAny branches

/-- The least number of characters that plans one after the other read. -/
def leastLengthInRow : List Plan → Option Nat
  | [] => some 0
  | p :: ps => do return (← leastLength p) + (← leastLengthInRow ps)

/-- The least number of characters that one of several plans reads. -/
def leastLengthOfAny : List Plan → Option Nat
  | [] => none
  | [p] => leastLength p
  | p :: ps => lesser (leastLength p) (leastLengthOfAny ps)

end

/-- Whether a part asks for a place before any part in front of it may read a character. For each
part in order it is given whether the part asks for the place and whether it reads nothing. -/
def asksInTime : List (Bool × Bool) → Bool
  | [] => false
  | (asks, nothing) :: parts => asks || nothing && asksInTime parts

mutual

/-- Whether a plan asks for a place before it reads a character or, going `backward`, after it read
the last one, in whatever way it matches. -/
def asksFor (place : Place) (backward : Bool) : Plan → Bool
  | .place p => p = place
  | .repetition least _ _ body => least != 0 && asksFor place backward body
  | .capture body => asksFor place backward body
  | .concat parts =>
    let parts := demands place backward parts
    asksInTime (if backward then parts.reverse else parts)
  | .choice branches => (demands place backward branches).all Prod.fst
  | _ => false

/-- For each plan of a list, whether it asks for a place and whether it reads nothing. -/
def demands (place : Place) (backward : Bool) : List Plan → List (Bool × Bool)
  | [] => []
  | p :: ps => (asksFor place backward p, readsNothing p) :: demands place backward ps

end

/-! ### Joining -/

/-- The parts of a plan that stands in a row. -/
def parts : Plan → List Plan
  | .empty => []
  | .concat ps => ps
  | p => [p]

/-- Puts a part in front of others and joins characters in a row. -/
def consPart : Plan → List Plan → List Plan
  | .literal cs, .literal cs' :: ps => .literal (cs ++ cs') :: ps
  | p, ps => p :: ps

/-- Plans one after the other. -/
def ofParts (ps : List Plan) : Plan :=
  match (ps.flatMap parts).foldr consPart [] with
  | [] => .empty
  | [p] => p
  | ps => .concat ps

/-- The branches of a plan that stands among others. -/
def branches : Plan → List Plan
  | .choice ps => ps
  | p => [p]

/-- The plan of a set of characters. Code points that are no characters do not count. -/
def ofSet (s : CharSet) : Plan :=
  let s := s.diff ⟨[(0xD800, 0xDFFF)]⟩
  match s.single? with
  | some code => .literal [Char.ofNat code]
  | none => .set s

/-- The character of a plan that reads just this one. -/
def single? : Plan → Option Char
  | .literal [c] => some c
  | _ => none

/-- The set of a plan that reads one character of a set. -/
def set? : Plan → Option CharSet
  | .set s => some s
  | _ => none

/-- The number of parts with which two rows begin alike. -/
def commonLength : List Plan → List Plan → Nat
  | p :: ps, q :: qs => if same p q then commonLength ps qs + 1 else 0
  | _, _ => 0

/-- The number of parts with which all of several branches begin alike; only branches of several
parts count. -/
def sharedLength : List Plan → Nat
  | .concat ps :: branches =>
    let lengths := branches.map fun
      | .concat qs => commonLength ps qs
      | _ => 0
    lengths.foldl min ps.length
  | _ => 0

/-- One of several branches that do not begin alike. -/
def join (ps : List Plan) : Plan :=
  match ps.flatMap branches with
  | [p] => p
  | ps =>
    match ps.mapM single? with
    | some cs => ofSet (.unionAll (cs.map .single))
    | none =>
      match ps.mapM set? with
      | some sets => ofSet (.unionAll sets)
      | none => .choice ps

/-- One of several branches. What all of them begin with is taken out in front, which is enough to
do once: the rests no longer begin alike. -/
def ofBranches (ps : List Plan) : Plan :=
  match join ps with
  | .choice ps =>
    match sharedLength ps with
    | 0 => .choice ps
    | n =>
      let shared := (ps.head?.map parts).getD [] |>.take n
      ofParts (shared ++ [join (ps.map fun p => ofParts (p.parts.drop n))])
  | p => p

/-- A repetition. Of what reads nothing one turn is enough. -/
def ofRepetition (least : Nat) (most : Option Nat) (greedy : Bool) (body : Plan) : Plan :=
  let (least, most) :=
    if readsNothing body then (min least 1, some (min (most.getD 1) 1)) else (least, most)
  match least, most with
  | 0, some 0 => .empty
  | 1, some 1 => body
  | least, most => .repetition least most greedy body

mutual

/-- The plan of an expression. -/
def ofExpr : Expr Atom → Plan
  | .empty => .empty
  | .atom (.chars s) => ofSet s
  | .atom (.place p) => .place p
  | .concat es => ofParts (ofEach es)
  | .choice es => ofBranches (ofEach es)
  | .repetition least most greedy body => ofRepetition least most greedy (ofExpr body)
  | .capture body => .capture (ofExpr body)

/-- The plan of each of several expressions. -/
def ofEach : List (Expr Atom) → List Plan
  | [] => []
  | e :: es => ofExpr e :: ofEach es

end

end Plan

end Pattern

end Criteria
