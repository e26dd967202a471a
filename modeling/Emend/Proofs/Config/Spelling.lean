import Emend.Config.Document
import Emend.Proofs.Toml.Lines

/-!
# Written configurations

A document configures by its keys, in any order.  A rule is written as a table inside an
array, as an array of its two texts, or, behind all other keys, as a section of its own.
-/

namespace Emend

open Toml

inductive ConfigKey where
  | root
  | extensions
  | rules
  deriving DecidableEq

def ConfigKey.name : ConfigKey → String
  | root => "root"
  | extensions => "extensions"
  | rules => "rules"

def ConfigKey.names : List String := ["root", "extensions", "rules"]

/-- The name of a key needs no marks. -/
theorem ConfigKey.writesKey (key : ConfigKey) : WritesKey key.name key.name.toList := by
  cases key <;> exact .of_all (by decide) (by decide)

inductive Rule.HasFields (rule : Rule) : List (String × String) → Prop
  | patternFirst :
    HasFields rule [("pattern", rule.pattern), ("replacement", rule.replacement)]
  | replacementFirst :
    HasFields rule [("replacement", rule.replacement), ("pattern", rule.pattern)]

def Rule.fieldNames : List String := ["pattern", "replacement"]

inductive WritesRule (rule : Rule) : List Char → Prop
  | table {fields : List (String × String)} {cs : List Char} (hfields : rule.HasFields fields)
      (hwritten : WritesTable WritesString fields cs) :
    WritesRule rule cs
  | array {cs : List Char}
      (hwritten : WritesArray WritesString [rule.pattern, rule.replacement] cs) :
    WritesRule rule cs

inductive Piece where
  | setting (key : ConfigKey)
  | opening
  | field (key text : String)

namespace Piece

def settings (keys : List ConfigKey) : List Piece := keys.map .setting

def fields (fields : List (String × String)) : List Piece := fields.map fun e => .field e.1 e.2

end Piece

namespace Config

inductive WritesSetting (config : Config) : ConfigKey → List Char → Prop
  | root {text : String} {cs : List Char} (hroot : config.root = Path.ofString text)
      (hwritten : WritesString text cs) :
    WritesSetting config .root cs
  | extensions {cs : List Char} (hwritten : WritesArray WritesString config.extensions cs) :
    WritesSetting config .extensions cs
  | rules {cs : List Char} (hwritten : WritesArray WritesRule config.rules cs) :
    WritesSetting config .rules cs

/-- A line that gives a key its value, opens the section of a rule, or gives a field of
it. -/
inductive WritesPiece (config : Config) : Piece → List Char → Prop
  | setting {key : ConfigKey} {cs : List Char}
      (hwritten : WritesPair (WritesSetting config) (key.name, key) cs) :
    WritesPiece config (.setting key) cs
  | opening {cs : List Char} (hwritten : WritesElement "rules" cs) :
    WritesPiece config .opening cs
  | field {key text : String} {cs : List Char}
      (hwritten : WritesPair WritesString (key, text) cs) :
    WritesPiece config (.field key text) cs

/-- Sections of rules, with the fields of each in either order. -/
inductive Sections : List Rule → List Piece → Prop
  | nil : Sections [] []
  | cons {rule : Rule} {rules : List Rule} {fields : List (String × String)}
      {pieces : List Piece} (hfields : rule.HasFields fields)
      (hmore : Sections rules pieces) :
    Sections (rule :: rules) (.opening :: (Piece.fields fields ++ pieces))

/-- The lines that give each of some keys once.  Sections of rules, one at least, stand
behind all other keys. -/
inductive Lays (config : Config) : List ConfigKey → List Piece → Prop
  | settings {keys : List ConfigKey} (hnodup : keys.Nodup) :
    Lays config keys (Piece.settings keys)
  | sections {keys : List ConfigKey} {pieces : List Piece}
      (hnodup : (keys ++ [ConfigKey.rules]).Nodup) (hne : config.rules ≠ [])
      (hsections : Sections config.rules pieces) :
    Lays config (keys ++ [.rules]) (Piece.settings keys ++ pieces)

/-- A text, perhaps with a byte order mark before it. -/
inductive Marked (cs : List Char) : String → Prop
  | plain : Marked cs (String.ofList cs)
  | mark : Marked cs (String.ofList ('\uFEFF' :: cs))

/-- A document that gives what a configuration has under some keys. -/
inductive Writes (config : Config) (keys : List ConfigKey) : String → Prop
  | mk {pieces : List Piece} {cs : List Char} {text : String} (hlays : Lays config keys pieces)
      (hlines : WritesDocument (WritesPiece config) pieces cs) (hmarked : Marked cs text) :
    Writes config keys text

/-- The beginning of a rule inside the array of rules, up to a key that is no field of a
rule. -/
inductive StraysInArray : List Char → Prop
  | mk {rules : List Rule} {fields : List (String × String)} {other : String}
      {writtenKey after ahead front before written filler cs : List Char}
      (hkey : WritesKey "rules" writtenKey) (hafter : Blanks after) (hahead : Blanks ahead)
      (hfront : WritesFront WritesRule rules front) (hbefore : Filler before)
      (hwritten : WritesFront (WritesPair WritesString) fields written) (hfiller : Filler filler)
      (hpair : BeginsPair other cs) (hother : other ∉ Rule.fieldNames) :
    StraysInArray (writtenKey ++ (after ++ '=' :: (ahead ++ '[' ::
      (front ++ (before ++ '\x7b' :: (written ++ (filler ++ cs)))))))

/-- What is written of a configuration, and then a key that is none of a configuration or
of a rule, in any place where a key can stand.  Whatever follows is arbitrary. -/
inductive Strays (config : Config) : List Char → Prop
  | setting {keys : List ConfigKey} {front before cs : List Char} {other : String}
      (hfront : WritesLines (WritesPiece config) (Piece.settings keys) front)
      (hbefore : Filler before) (hpair : BeginsPair other cs) (hother : other ∉ ConfigKey.names) :
    Strays config (front ++ (before ++ cs))
  | header {pieces : List Piece} {front before cs : List Char} {other : String}
      (hfront : WritesLines (WritesPiece config) pieces front) (hbefore : Filler before)
      (hheader : BeginsHeader [other] cs) (hother : other ∉ ConfigKey.names) :
    Strays config (front ++ (before ++ cs))
  | inArray {keys : List ConfigKey} {front before cs : List Char}
      (hfront : WritesLines (WritesPiece config) (Piece.settings keys) front)
      (hbefore : Filler before) (hstrays : StraysInArray cs) :
    Strays config (front ++ (before ++ cs))
  | inSection {pieces : List Piece} {fields : List (String × String)}
      {front before cs : List Char} {other : String}
      (hfront : WritesLines (WritesPiece config) (pieces ++ .opening :: Piece.fields fields) front)
      (hbefore : Filler before)
      (hnext : BeginsPair other cs ∨ BeginsHeader ["rules", other] cs)
      (hother : other ∉ Rule.fieldNames) :
    Strays config (front ++ (before ++ cs))

/-- A configuration whose values are built in, but for some keys. -/
def onlyAt (config : Config) (keys : List ConfigKey) : Config where
  root := if .root ∈ keys then config.root else builtIn.root
  extensions := if .extensions ∈ keys then config.extensions else builtIn.extensions
  rules := if .rules ∈ keys then config.rules else builtIn.rules

end Config

end Emend
