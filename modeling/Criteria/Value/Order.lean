import Criteria.Value.Basic

/-!
# Equality and order of values

Three relations on values:

* `equal`, the deep equality behind equality tests, membership and literals: kinds must agree,
  numbers are equal by value across widths, and a NaN equals nothing;
* `compare?`, the order behind the ordering tests, between two numbers, texts, dates or truth
  values;
* `totalCompare`, the order of all values behind sorting.

Texts are ordered by code point, which is the order of their encoded bytes.
-/

namespace Criteria

/-- The place of a kind among the kinds. -/
def Kind.rank : Kind → Nat
  | .number => 0
  | .text => 1
  | .date => 2
  | .bool => 3
  | .sequence => 4
  | .record => 5
  | .null => 6

namespace Value

/-! ### Equality -/

mutual

/-- Deep equality. -/
def equal : Value → Value → Bool
  | .null, .null => true
  | .bool a, .bool b => a == b
  | .number a, .number b => a.compare? b == some .eq
  | .text a, .text b => a == b
  | .date a, .date b => a == b
  | .sequence as, .sequence bs => equalElements as bs
  | .record r, .record s => equalFields r s
  | _, _ => false

/-- Deep equality of sequences, element by element. -/
def equalElements : List Value → List Value → Bool
  | [], [] => true
  | a :: as, b :: bs => equal a b && equalElements as bs
  | _, _ => false

/-- Deep equality of records, field by field; as fields stand in key order, equal records have equal
keys at every position. -/
def equalFields : {bound bound' : Option String} →
    SortedMap Value bound → SortedMap Value bound' → Bool
  | _, _, .nil, .nil => true
  | _, _, .cons k v _ r, .cons l w _ s => k == l && (equal v w && equalFields r s)
  | _, _, _, _ => false

end

/-- Whether some element of a list equals the value. -/
def memberOf (v : Value) (candidates : List Value) : Bool :=
  candidates.any fun candidate => candidate.equal v

mutual

/-- Whether two values are the same in every part, widths of numbers included. As in `equal`, a NaN
is not even the same as itself, and the two zeros are the same. -/
def identical : Value → Value → Bool
  | .null, .null => true
  | .bool a, .bool b => a == b
  | .number a, .number b => a.identical b
  | .text a, .text b => a == b
  | .date a, .date b => a == b
  | .sequence as, .sequence bs => identicalElements as bs
  | .record r, .record s => identicalFields r s
  | _, _ => false

/-- Identity of sequences, element by element. -/
def identicalElements : List Value → List Value → Bool
  | [], [] => true
  | a :: as, b :: bs => identical a b && identicalElements as bs
  | _, _ => false

/-- Identity of records, field by field. -/
def identicalFields : {bound bound' : Option String} →
    SortedMap Value bound → SortedMap Value bound' → Bool
  | _, _, .nil, .nil => true
  | _, _, .cons k v _ r, .cons l w _ s => k == l && (identical v w && identicalFields r s)
  | _, _, _, _ => false

end

/-! ### Order -/

/-- The order of two numbers, texts, dates or truth values. All other pairs, and a NaN with
anything, are not comparable. -/
def compare? : Value → Value → Option Ordering
  | .number a, .number b => a.compare? b
  | .text a, .text b => some (compare a b)
  | .date a, .date b => some (a.compare b)
  | .bool a, .bool b => some (compare a b)
  | _, _ => none

mutual

/-- The order of all values: values of one kind by their content, of two kinds by the kind.
Sequences and records go by their first difference, and by length if one begins the other. -/
def totalCompare : Value → Value → Ordering
  | .number a, .number b => a.totalCompare b
  | .text a, .text b => compare a b
  | .date a, .date b => a.compare b
  | .bool a, .bool b => compare a b
  | .sequence as, .sequence bs => totalCompareElements as bs
  | .record r, .record s => totalCompareFields r s
  | a, b => compare a.kind.rank b.kind.rank

/-- The order of sequences. -/
def totalCompareElements : List Value → List Value → Ordering
  | [], [] => .eq
  | [], _ :: _ => .lt
  | _ :: _, [] => .gt
  | a :: as, b :: bs => (totalCompare a b).then (totalCompareElements as bs)

/-- The order of records: by key, then by value, field by field. -/
def totalCompareFields : {bound bound' : Option String} →
    SortedMap Value bound → SortedMap Value bound' → Ordering
  | _, _, .nil, .nil => .eq
  | _, _, .nil, .cons .. => .lt
  | _, _, .cons .., .nil => .gt
  | _, _, .cons k v _ r, .cons l w _ s =>
    ((compare k l).then (totalCompare v w)).then (totalCompareFields r s)

end

end Value

end Criteria
