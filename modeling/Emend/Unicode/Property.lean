import Emend.CharSet
import Emend.Unicode.Age
import Emend.Unicode.Aliases
import Emend.Unicode.BinaryProperty
import Emend.Unicode.CharClass
import Emend.Unicode.GeneralCategory
import Emend.Unicode.Script
import Emend.Unicode.ScriptExtension
import Emend.Unicode.Segmentation

/-!
# Character properties by name

A property is asked for by one name, which is a binary property, a general
category or a script, in this order, or by the name of a property and the name of
one of its values.  Names are matched loosely, so that spelling variants in common
use all reach the same set.
-/

namespace Emend.Unicode

/-- A request for the characters that have a property. -/
inductive PropertyQuery where
  | named (name : String)
  | valued (property value : String)
  deriving DecidableEq

namespace PropertyQuery

/-- Names are compared without blanks, hyphens, underscores, case and characters
outside ASCII. -/
def plainName (name : List Char) : List Char :=
  name.filterMap fun c =>
    if c = ' ' ∨ c = '_' ∨ c = '-' ∨ 0x7F < c.toNat then none else some c.toLower

/-- A leading `is` of a requested name is ignored too, except where this would
leave the letter `c` alone, since `isc` names another property. -/
def looseName (name : String) : List Char :=
  match name.toList with
  | 'i' :: 's' :: rest | 'i' :: 'S' :: rest | 'I' :: 's' :: rest | 'I' :: 'S' :: rest =>
    if plainName rest = ['c'] then ['i', 's', 'c'] else plainName rest
  | cs => plainName cs

/-- The long name that a loose name stands for. -/
def longName (aliases : List (String × String)) (loose : List Char) : List Char :=
  match aliases.find? fun (short, _) => plainName short.toList = loose with
  | some (_, long) => plainName long.toList
  | none => loose

def row? (table aliases : List (String × String)) (loose : List Char) : Option CharSet :=
  let long := longName aliases loose
  (table.find? fun (name, _) => plainName name.toList = long).map fun (_, text) =>
    CharSet.ofTable text

/-- The union of the basic general categories with the given names. -/
def categories (names : List String) : CharSet :=
  CharSet.unionAll <| generalCategoryTable.filterMap fun (name, text) =>
    if name ∈ names then some (CharSet.ofTable text) else none

/-- The groups of general categories, by their long names. -/
def categoryGroup? (long : List Char) : Option CharSet :=
  match String.ofList long with
  | "casedletter" => some (categories ["Lowercase_Letter", "Titlecase_Letter", "Uppercase_Letter"])
  | "letter" =>
    some (categories ["Lowercase_Letter", "Titlecase_Letter", "Uppercase_Letter",
      "Modifier_Letter", "Other_Letter"])
  | "mark" => some (categories ["Enclosing_Mark", "Nonspacing_Mark", "Spacing_Mark"])
  | "number" => some (categories ["Decimal_Number", "Letter_Number", "Other_Number"])
  | "punctuation" =>
    some (categories ["Close_Punctuation", "Connector_Punctuation", "Dash_Punctuation",
      "Final_Punctuation", "Initial_Punctuation", "Open_Punctuation", "Other_Punctuation"])
  | "symbol" =>
    some (categories ["Currency_Symbol", "Math_Symbol", "Modifier_Symbol", "Other_Symbol"])
  | "separator" => some (categories ["Line_Separator", "Paragraph_Separator", "Space_Separator"])
  | "other" => some (categories ["Control", "Format", "Private_Use", "Unassigned"])
  | _ => none

def generalCategory? (loose : List Char) : Option CharSet :=
  match String.ofList loose with
  | "any" => some CharSet.all
  | "ascii" => some CharSet.ascii
  | "assigned" => some (categories ["Unassigned"]).complement
  | _ =>
    match categoryGroup? (longName generalCategoryAliases loose) with
    | some s => some s
    | none => row? generalCategoryTable generalCategoryAliases loose

/-- An age holds what that version of the standard and every older one assigned. -/
def age? (loose : List Char) : Option CharSet :=
  let isAge (name : String) : Bool :=
    plainName name.toList = loose ∨
      (name.toList.drop 1).map (fun c => if c = '_' then '.' else c) = loose
  let older := ageTable.takeWhile fun (name, _) => !isAge name
  match ageTable.drop older.length with
  | [] => none
  | newest :: _ => some (CharSet.unionAll ((older ++ [newest]).map fun (_, text) => CharSet.ofTable text))

def script? : List Char → Option CharSet := row? scriptTable scriptAliases

/-- A name alone is a binary property, else a general category, else a script. -/
def named? (name : String) : Option CharSet :=
  let loose := looseName name
  row? binaryPropertyTable binaryPropertyAliases loose
    <|> generalCategory? loose
    <|> script? loose

def valued? (property value : String) : Option CharSet :=
  let loose := looseName value
  match String.ofList (looseName property) with
  | "gc" | "generalcategory" => generalCategory? loose
  | "sc" | "script" => script? loose
  | "scx" | "scriptextensions" => row? scriptExtensionTable scriptAliases loose
  | "age" => age? loose
  | "gcb" | "graphemeclusterbreak" => row? graphemeBreakTable graphemeBreakAliases loose
  | "wb" | "wordbreak" => row? wordBreakTable wordBreakAliases loose
  | "sb" | "sentencebreak" => row? sentenceBreakTable sentenceBreakAliases loose
  | _ => none

/-- The characters that a query asks for, if it names a known property. -/
def find? : PropertyQuery → Option CharSet
  | named name => named? name
  | valued property value => valued? property value

end PropertyQuery

end Emend.Unicode
