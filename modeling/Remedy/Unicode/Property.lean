import Remedy.Unicode.BinaryProperty
import Remedy.Unicode.Script

/-!
# Character properties

The sets that a property name stands for: general categories and their groups, scripts, and binary
properties. Names are taken as written, in their own upper and lower case.
-/

namespace Remedy.Unicode

def CodeSet.ofCategories (categories : List GeneralCategory) : CodeSet :=
  { included := categories.map GeneralCategory.ranges }

def categorySet (name : Text) : Option CodeSet :=
  match GeneralCategory.names.find? fun (_, names) => names.contains name with
  | some (category, _) => some (.ofCategories [category])
  | none =>
    (GeneralCategory.groups.find? fun (names, _) => names.contains name).map fun (_, categories) =>
      .ofCategories categories

/-- The code points that belong to no script. -/
def scriptless : CodeSet := .ofCategories [.cn, .co, .cs]

def scriptSet (table : List Script) (name : Text) : Option CodeSet :=
  if (["Unknown", "Zzzz"] : List Text).contains name then some scriptless
  else (table.find? (Script.isNamed name)).map fun s => { included := [s.ranges] }

/-- Properties that hold of all code points, or of all that are assigned or early. -/
def plainSet (name : Text) : Option CodeSet :=
  if name == ("Any" : Text) then some { included := [#[(0, 0x10FFFF)]] }
  else if name == ("ASCII" : Text) then some { included := [#[(0, 0x7F)]] }
  else if name == ("Assigned" : Text) then
    some (.ofCategories ((GeneralCategory.names.map Prod.fst).filter (· != .cn)))
  else none

def binarySet (name : Text) : Option CodeSet :=
  (binaryProperties.find? (BinaryProperty.isNamed name)).map BinaryProperty.codeSet

/-- The set named by a property and, if one is given, its value. -/
def propertySet (name : Text) : Option Text → Option CodeSet
  | none => categorySet name <|> plainSet name <|> binarySet name
  | some value =>
    if (["General_Category", "gc"] : List Text).contains name then categorySet value
    else if (["Script", "sc"] : List Text).contains name then scriptSet scripts value
    else if (["Script_Extensions", "scx"] : List Text).contains name then
      scriptSet (sharedScripts ++ scripts) value
    else none

/-- The code points that may begin an identifier. -/
def identifierStart : CodeSet := (binarySet "ID_Start").getD { included := [] }

/-- The code points that may follow the first one of an identifier. -/
def identifierPart : CodeSet := (binarySet "ID_Continue").getD { included := [] }

end Remedy.Unicode
