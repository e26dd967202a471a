/-!
# TOML values

The value of a document is a tree of tables and arrays.  Entries of a table keep the
order in which they are written, and numbers and times the text.
-/

namespace Emend.Toml

inductive Value where
  | string (text : String)
  | integer (text : String)
  | float (text : String)
  | boolean (value : Bool)
  | moment (text : String)
  | array (items : List Value)
  | table (entries : List (String × Value))

abbrev Table := List (String × Value)

namespace Table

def get? (table : Table) (key : String) : Option Value :=
  (table.find? (·.1 = key)).map (·.2)

def keys (table : Table) : List String := table.map (·.1)

end Table

namespace Value

def string? : Value → Option String
  | string text => some text
  | _ => none

def strings? : Value → Option (List String)
  | array items => items.mapM string?
  | _ => none

end Value

end Emend.Toml
