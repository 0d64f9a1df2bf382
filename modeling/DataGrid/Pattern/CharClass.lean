import DataGrid.Text.Age
import DataGrid.Text.Blank
import DataGrid.Text.Break
import DataGrid.Text.Category
import DataGrid.Text.Property
import DataGrid.Text.Script
import DataGrid.Text.Word

/-!
# DataGrid.Pattern.CharClass -- named classes of characters

The classes that a pattern can name: by a letter (`\d`), in brackets by an ASCII name
(`[:alpha:]`), or by a Unicode property. Property names are compared in loose form.
-/

namespace DataGrid.Pattern

open DataGrid.Text

/-- The classes named by a letter. -/
inductive LetterClass where
  | digit
  | space
  | word
deriving DecidableEq, Repr

/-- The members of a class that is named by a letter, under Unicode or under ASCII rules. -/
def LetterClass.points (unicode : Bool) : LetterClass → CodePoints
  | digit => if unicode then digitPoints else .ofText "30-39"
  | space => if unicode then blankPoints else .ofText "9-d 20"
  | word => if unicode then wordPoints else .ofText "30-39 41-5a 5f 61-7a"

/-- The classes that have a name within brackets. -/
def bracketClasses : List NamedPoints :=
  [⟨["alnum"], "30-39 41-5a 61-7a"⟩,
   ⟨["alpha"], "41-5a 61-7a"⟩,
   ⟨["ascii"], "0-7f"⟩,
   ⟨["blank"], "9 20"⟩,
   ⟨["cntrl"], "0-1f 7f"⟩,
   ⟨["digit"], "30-39"⟩,
   ⟨["graph"], "21-7e"⟩,
   ⟨["lower"], "61-7a"⟩,
   ⟨["print"], "20-7e"⟩,
   ⟨["punct"], "21-2f 3a-40 5b-60 7b-7e"⟩,
   ⟨["space"], "9-d 20"⟩,
   ⟨["upper"], "41-5a"⟩,
   ⟨["word"], "30-39 41-5a 5f 61-7a"⟩,
   ⟨["xdigit"], "30-39 41-46 61-66"⟩]

def bracketName? (name : String) : Option CodePoints := NamedPoints.find? bracketClasses name

/-! ## Properties -/

/-- The loose form of a property name: without a leading `is`, without spaces, hyphens and
underscores, in lower case. What would become a bare `c` keeps its prefix. -/
def looseName (name : List Char) : String :=
  let squeeze (cs : List Char) : List Char :=
    (cs.filter fun c => c != ' ' && c != '_' && c != '-' && c.toNat < 0x80).map Char.toLower
  match name with
  | first :: second :: rest =>
    if first.toLower == 'i' && second.toLower == 's' then
      match squeeze rest with
      | ['c'] => "isc"
      | squeezed => String.ofList squeezed
    else String.ofList (squeeze name)
  | _ => String.ofList (squeeze name)

/-- General categories, with the names for everything, for what is assigned, and for
ASCII. -/
def generalCategory? (name : String) : Option CodePoints :=
  match name with
  | "any" => some .all
  | "assigned" => (category? "cn").map .complement
  | "ascii" => some .ascii
  | _ => category? name

/-- A property that is named alone: a yes-or-no property, a category, or a script. Three
short names mean the category although a property has them too. -/
def propertyAlone? (name : List Char) : Option CodePoints :=
  let loose := looseName name
  let property := if ["cf", "sc", "lc"].contains loose then none else property? loose
  (property.or (generalCategory? loose)).or (script? loose)

/-- A property that is named with its value. -/
def propertyValue? (name value : List Char) : Option CodePoints :=
  let value := looseName value
  match looseName name with
  | "gc" | "generalcategory" => generalCategory? value
  | "sc" | "script" => script? value
  | "scx" | "scriptextensions" => scriptExtension? value
  | "age" => age? value
  | "gcb" | "graphemeclusterbreak" => NamedPoints.find? clusterBreaks value
  | "wb" | "wordbreak" => NamedPoints.find? wordBreaks value
  | "sb" | "sentencebreak" => NamedPoints.find? sentenceBreaks value
  | _ => none

/-- Cuts characters at the first occurrence of a separator. -/
def cutAt? (separator : List Char) : List Char → Option (List Char × List Char)
  | [] => none
  | c :: rest =>
    if separator.isPrefixOf (c :: rest) then some ([], (c :: rest).drop separator.length)
    else (cutAt? separator rest).map fun (left, right) => (c :: left, right)

/-- The class of a property in braces: a name alone, or a name and a value with `!=`, a
colon or an equals sign between them. The flag says that the complement is meant. -/
def braced? (name : List Char) : Option (Bool × CodePoints) :=
  match cutAt? "!=".toList name with
  | some (property, value) => (propertyValue? property value).map (true, ·)
  | none =>
    match (cutAt? [':'] name).or (cutAt? ['='] name) with
    | some (property, value) => (propertyValue? property value).map (false, ·)
    | none => (propertyAlone? name).map (false, ·)

end DataGrid.Pattern
