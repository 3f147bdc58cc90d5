import GoldenTree.Unicode.Age
import GoldenTree.Unicode.Break
import GoldenTree.Unicode.Property
import GoldenTree.Unicode.Script

/-! Names of classes of characters. In a name, case, blanks, dashes and underscores do not matter,
nor does an `is` in front. -/
namespace GoldenTree.Unicode

open Text

/-- A name in simple form. The `is` stays in front of a single `c`, which means something else. -/
def simpleName (name : List Char) : String :=
  let simple (cs : List Char) : List Char :=
    (cs.filter fun c => c.toNat < 0x80 && !(['-', '_', ' '].contains c)).map Char.toLower
  let start := (name.take 2).map Char.toLower
  if start = ['i', 's'] then
    let rest := simple (name.drop 2)
    String.ofList (if rest = ['c'] then ['i', 's', 'c'] else rest)
  else String.ofList (simple name)

/-- The class with a name: a property, a category or a script. -/
def classOfName? (name : List Char) : Option CharSet :=
  let name := simpleName name
  (property? name).or ((category? name).or (script? name))

/-- The class of the characters for which a property has a value. -/
def classOfValue? (property value : List Char) : Option CharSet :=
  let value := simpleName value
  match simpleName property with
  | "gc" | "generalcategory" => category? value
  | "sc" | "script" => script? value
  | "scx" | "scriptextensions" => scriptExtension? value
  | "age" => age? value
  | "gcb" | "graphemeclusterbreak" => graphemeBreak? value
  | "wb" | "wordbreak" => wordBreak? value
  | "sb" | "sentencebreak" => sentenceBreak? value
  | _ => none

end GoldenTree.Unicode
