import Criteria.Pattern.Meaning
import Criteria.Pattern.Reader
import Criteria.Pattern.Size

/-!
# Patterns

A pattern is read once and then looked for in any number of texts. A text spells a pattern if it has
the syntax of one, is not nested too deep, has a meaning and is not too large.
-/

namespace Criteria

/-- A pattern. -/
structure Pattern where
  /-- The text of the pattern. -/
  source : String
  /-- What the pattern matches. -/
  expr : Pattern.Expr Pattern.Atom

namespace Pattern

/-- How deep the parts of a pattern may be nested. -/
def nestingLimit : Nat := 250

/-- The expression that a text spells. -/
def readExpr (source : String) : Option (Expr Atom) := do
  let tree ← readSyntax source
  if tree.depth ≤ nestingLimit then
    let (e, _) ← tree.meaning? .default
    if e.fits then return e else none
  else none

/-- The pattern that a text spells. -/
def parse? (source : String) : Option Pattern := (readExpr source).map (Pattern.mk source)

/-- Whether the pattern matches somewhere in a text. -/
def isMatch (p : Pattern) (text : String) : Bool := p.expr.matchesIn text.toList

end Pattern

end Criteria
