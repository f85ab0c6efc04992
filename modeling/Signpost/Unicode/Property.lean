import Signpost.Unicode.AgeData
import Signpost.Unicode.CategoryData
import Signpost.Unicode.CharSet
import Signpost.Unicode.PropertyData
import Signpost.Unicode.ScriptData
import Signpost.Unicode.SegmentData

/-!
# Unicode — Properties by name

Looks up the characters with a property: by a name alone, which is a binary property, a general
category or a script, or by the name of a property and one of its values.  Names are compared
loosely (`looseName`): case, blanks, hyphens, underscores and an initial `is` do not count.
-/

namespace Signpost.Unicode

/-- The form in which names are compared.  What is not ASCII is dropped, and an initial `is`
too, except from `isc`. -/
def looseName (name : List Char) : String :=
  let isPrefix := match name with
    | c :: d :: _ => c.toLower = 'i' && d.toLower = 's'
    | _           => false
  let rest := ((if isPrefix then name.drop 2 else name).filter fun c =>
    c != ' ' && c != '_' && c != '-' && c.toNat < 128).map Char.toLower
  String.ofList (if isPrefix && rest = ['c'] then ['i', 's', 'c'] else rest)

/-- The groups of general categories, with the names of their members. -/
def categoryGroups : List (List String × List String) :=
  [(["c", "other"], ["cc", "cf", "cn", "co"]),
   (["lc", "casedletter"], ["ll", "lt", "lu"]),
   (["l", "letter"], ["ll", "lm", "lo", "lt", "lu"]),
   (["m", "mark", "combiningmark"], ["mc", "me", "mn"]),
   (["n", "number"], ["nd", "nl", "no"]),
   (["p", "punctuation", "punct"], ["pc", "pd", "pe", "pf", "pi", "po", "ps"]),
   (["s", "symbol"], ["sc", "sk", "sm", "so"]),
   (["z", "separator"], ["zl", "zp", "zs"])]

/-- The code points without a character: those of no other category. -/
def unassigned (categories : List Table.Entry) : CharSet :=
  .diff (.compl (.ranges (categories.flatMap Table.Entry.ranges))) (.ranges [(0xD800, 0xDFFF)])

/-- The general category or group of categories called `name`. -/
def category? (name : String) : Option CharSet :=
  let categories := Table.read categoryData
  let single (name : String) : Option CharSet :=
    match Table.find? categories name with
    | some rs => some (.ranges rs)
    | none    =>
      if ["cn", "unassigned"].contains name then some (unassigned categories)
      else if ["cs", "surrogate"].contains name then some .empty
      else none
  match single name with
  | some s => some s
  | none   =>
    match categoryGroups.find? fun g => g.1.contains name with
    | some g => some ((g.2.filterMap single).foldl .union .empty)
    | none   =>
      if name = "any" then some (.compl .empty)
      else if name = "ascii" then some (.ranges [(0, 0x7F)])
      else if name = "assigned" then some (.compl (unassigned categories))
      else none

private def value? (data : String) (name : String) : Option CharSet :=
  (Table.find? (Table.read data) name).map .ranges

/-- The characters that the standard had by the given version. -/
def age? (name : String) : Option CharSet :=
  let ages := Table.read ageData
  (ages.findIdx? fun e => e.names.contains name).map fun i =>
    .ranges ((ages.take (i + 1)).flatMap Table.Entry.ranges)

/-- The characters with the property that a name alone stands for. -/
def property? (name : List Char) : Option CharSet :=
  let name := looseName name
  let binary := if ["cf", "sc", "lc"].contains name then none else value? propertyData name
  binary <|> category? name <|> value? scriptData name

/-- The characters whose property `name` has the value `value`. -/
def propertyValue? (name value : List Char) : Option CharSet :=
  let value := looseName value
  match looseName name with
  | "gc" | "generalcategory"        => category? value
  | "sc" | "script"                 => value? scriptData value
  | "scx" | "scriptextensions"      => value? scriptExtensionsData value
  | "age"                           => age? value
  | "gcb" | "graphemeclusterbreak"  => value? graphemeBreakData value
  | "wb" | "wordbreak"              => value? wordBreakData value
  | "sb" | "sentencebreak"          => value? sentenceBreakData value
  | _                               => none

/-- Whether `c` is alphabetic. -/
def isAlphabetic (c : Char) : Bool :=
  (value? propertyData "alphabetic").any (·.contains c)

/-- Whether `c` is alphabetic or belongs to a category of numbers. -/
def isAlphanumeric (c : Char) : Bool :=
  isAlphabetic c || (category? "n").any (·.contains c)

end Signpost.Unicode
