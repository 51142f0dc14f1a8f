import Descent.Unicode.Property
import Descent.Unicode.Script
import Descent.Unicode.Age
import Descent.Unicode.Segmentation

/-!
# Looking up characters by property

A class of characters is asked for by the name of a property, category or script, or by a property
and one of its values. Names are matched loosely: case, spaces, hyphens, underscores and a leading
"is" do not count. A name alone means a binary property if there is one of that name, then a
general category, then a script.
-/

namespace Descent.Unicode

/-- A request for a class of characters. -/
inductive Query where
  | name (name : String)
  | value (property value : String)
deriving DecidableEq, Repr

/-- The leading "is" of a name, if it has one, is dropped. -/
def dropIs : List Char → List Char
  | 'i' :: 's' :: rest | 'I' :: 's' :: rest | 'i' :: 'S' :: rest | 'I' :: 'S' :: rest => rest
  | cs => cs

/-- The form of a name that is compared: lower case ASCII without separators or a leading "is".
The name "isc" stays as it is, for it is short for a property and does not mean the category "c". -/
def looseName (name : String) : String :=
  let cs := name.toList
  let body := (dropIs cs).filter fun c => c.toNat < 128 && c != ' ' && c != '_' && c != '-'
  let lower := body.map Char.toLower
  if lower == ['c'] && dropIs cs != cs then "isc" else String.ofList lower

namespace Query

/-- The set that a list has under a name. -/
def lookup (named : List (List String × CodeSet)) (name : String) : Option CodeSet :=
  (named.find? (·.1.contains name)).map (·.2)

/-- The class that is asked for, if there is one. -/
def find? : Query → Option CodeSet
  | name n =>
    let n := looseName n
    (lookup Property.named n).or ((lookup Category.named n).or (Script.named? n))
  | value property v =>
    let v := looseName v
    match looseName property with
    | "gc" | "generalcategory" | "category" => lookup Category.named v
    | "sc" | "script" => Script.named? v
    | "scx" | "scriptextensions" => Script.extended? v
    | "age" => Age.named? v
    | "gcb" | "graphemeclusterbreak" => lookup Segmentation.graphemeNamed v
    | "wb" | "wordbreak" => lookup Segmentation.wordNamed v
    | "sb" | "sentencebreak" => lookup Segmentation.sentenceNamed v
    | _ => none

end Query

end Descent.Unicode
