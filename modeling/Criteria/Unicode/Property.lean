import Criteria.Unicode.Age
import Criteria.Unicode.BinaryProperty
import Criteria.Unicode.CaseProperty
import Criteria.Unicode.GeneralCategory
import Criteria.Unicode.Script
import Criteria.Unicode.Segmentation
import Criteria.Unicode.Table
import Criteria.Unicode.Word

/-!
# Properties of characters

The characters that have a Unicode property in version 16 of the standard, given by the name of the
property or by a property and one of its values. Names are compared loosely: capital and small
letters, blanks, hyphens, underscores and a leading `is` make no difference.
-/

namespace Criteria

namespace Unicode

/-! ### Names -/

/-- A text without a leading `is` in any case. -/
def dropIs : List Char → List Char
  | 'i' :: 's' :: cs => cs
  | 'I' :: 's' :: cs => cs
  | 'i' :: 'S' :: cs => cs
  | 'I' :: 'S' :: cs => cs
  | cs => cs

/-- A name in the form of the tables: small letters without blanks, hyphens, underscores and a
leading `is`. Characters outside ASCII are dropped. The name `isc` stays as it is, since it is not
the name `c`. -/
def normalizeName (name : List Char) : String :=
  let body := dropIs name
  let kept := body.filter fun c => c.toNat < 0x80 && c != ' ' && c != '_' && c != '-'
  let small := String.ofList (kept.map Char.toLower)
  if small = "c" ∧ body.length < name.length then "isc" else small

/-- The set under a name of a table. -/
def lookUp? (table : List (List String × List String)) (name : String) : Option CharSet :=
  (table.find? fun (names, _) => names.contains name).map fun (_, set) => CharSet.ofTable set

/-! ### General categories -/

/-- The general categories that are unions of others. -/
def categoryGroups : List (List String × List String) := [
  (["lc", "casedletter"], ["lu", "ll", "lt"]),
  (["l", "letter"], ["lu", "ll", "lt", "lm", "lo"]),
  (["m", "mark", "combiningmark"], ["mn", "mc", "me"]),
  (["n", "number"], ["nd", "nl", "no"]),
  (["p", "punctuation", "punct"], ["pc", "pd", "ps", "pe", "pi", "pf", "po"]),
  (["s", "symbol"], ["sm", "sc", "sk", "so"]),
  (["z", "separator"], ["zs", "zl", "zp"]),
  (["c", "other"], ["cc", "cf", "co", "cn"])]

/-- The characters of a general category. -/
def category? (name : String) : Option CharSet :=
  if name = "any" then some .full
  else if name = "ascii" then some ⟨[(0, 0x7F)]⟩
  else if name = "assigned" then (lookUp? generalCategories "cn").map CharSet.complement
  else
    match categoryGroups.find? fun (names, _) => names.contains name with
    | some (_, parts) => some (.unionAll (parts.filterMap (lookUp? generalCategories)))
    | none => lookUp? generalCategories name

/-! ### Other properties -/

/-- The characters with a binary property. -/
def binary? (name : String) : Option CharSet :=
  lookUp? binaryProperties name <|> lookUp? caseProperties name

/-- The characters used with a script. -/
def scriptExtension? (name : String) : Option CharSet :=
  lookUp? scriptExtensions name <|> lookUp? scripts name

/-- The characters of a version of the standard and of those before it. -/
def age? (name : String) : Option CharSet :=
  if ages.any fun (names, _) => names.contains name then
    let earlier := ages.takeWhile fun (names, _) => !names.contains name
    let own := ages.filter fun (names, _) => names.contains name
    some (.unionAll ((earlier ++ own).map fun (_, set) => CharSet.ofTable set))
  else none

/-- The characters that a single name stands for: a binary property, a general category or a
script. -/
def named? (name : List Char) : Option CharSet :=
  let name := normalizeName name
  binary? name <|> category? name <|> lookUp? scripts name

/-- The characters with a value of a property. -/
def valued? (property value : List Char) : Option CharSet :=
  let value := normalizeName value
  match normalizeName property with
  | "gc" | "generalcategory" => category? value
  | "sc" | "script" => lookUp? scripts value
  | "scx" | "scriptextensions" => scriptExtension? value
  | "age" => age? value
  | "gcb" | "graphemeclusterbreak" => lookUp? graphemeClusterBreaks value
  | "wb" | "wordbreak" => lookUp? wordBreaks value
  | "sb" | "sentencebreak" => lookUp? sentenceBreaks value
  | _ => none

end Unicode

namespace CharSet

/-- The characters of words. -/
def word : CharSet := ofTable Unicode.wordTable

/-- The decimal digits. -/
def digit : CharSet := ofTable Unicode.digitTable

/-- The blank characters. -/
def blank : CharSet := ofTable ["9-D 20 85 A0 1680 2000-200A 2028-2029 202F 205F 3000"]

end CharSet

end Criteria
