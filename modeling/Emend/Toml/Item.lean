import Emend.Toml.Value

/-!
# Documents under construction

While a document is read, its tables remember how they came about, since this decides
what may still be added to them: a table may be opened by one header, a table that
keys have made by dots may be widened by dots alone, and a written value is complete.
-/

namespace Emend.Toml

/-- How a table came about: on the way to a header's table, by dots in a key, or by a
header of its own. -/
inductive Origin where
  | passed
  | dotted
  | opened
  deriving DecidableEq

/-- What stands under a key.  The elements of a list of tables are kept last first. -/
inductive Item where
  | value (v : Value)
  | table (origin : Origin) (entries : List (String × Item))
  | tables (elements : List (List (String × Item)))

abbrev Items := List (String × Item)

namespace Items

def get? (items : Items) (key : String) : Option Item := (items.find? (·.1 = key)).map (·.2)

/-- Puts an item under a key, in the place of what is there, else at the end. -/
def put (items : Items) (key : String) (item : Item) : Items :=
  if items.any (·.1 = key) then items.map fun e => if e.1 = key then (key, item) else e
  else items ++ [(key, item)]

/-- Adds a value under a key with dots. -/
def addValue (v : Value) : List String → Items → Option Items
  | [], _ => none
  | [key], items =>
    match get? items key with
    | none => some (put items key (.value v))
    | some _ => none
  | key :: rest, items =>
    match get? items key with
    | none => (addValue v rest []).map fun inner => put items key (.table .dotted inner)
    | some (.table origin inner) =>
      if origin = .opened then none
      else (addValue v rest inner).map fun inner => put items key (.table origin inner)
    | some _ => none

/-- Changes the table or the last element of a list of tables at the end of a path. -/
def within (change : Items → Option Items) : List String → Items → Option Items
  | [], items => change items
  | key :: rest, items =>
    match get? items key with
    | some (.table origin inner) =>
      (within change rest inner).map fun inner => put items key (.table origin inner)
    | some (.tables (last :: others)) =>
      (within change rest last).map fun last => put items key (.tables (last :: others))
    | _ => none

/-- Opens the table or list of tables at the end of a header's path. -/
def openHeader (final : Option Item → Option Item) : List String → Items → Option Items
  | [], _ => none
  | [key], items => (final (get? items key)).map (put items key)
  | key :: rest, items =>
    match get? items key with
    | none => (openHeader final rest []).map fun inner => put items key (.table .passed inner)
    | some (.table origin inner) =>
      (openHeader final rest inner).map fun inner => put items key (.table origin inner)
    | some (.tables (last :: others)) =>
      (openHeader final rest last).map fun last => put items key (.tables (last :: others))
    | some _ => none

def openTable : List String → Items → Option Items :=
  openHeader fun
    | none => some (.table .opened [])
    | some (.table .passed inner) => some (.table .opened inner)
    | some _ => none

/-- Adds an empty element to a list of tables. -/
def openElement : List String → Items → Option Items :=
  openHeader fun
    | none => some (.tables [[]])
    | some (.tables elements) => some (.tables ([] :: elements))
    | some _ => none

mutual

def Item.toValue : Item → Value
  | .value v => v
  | .table _ entries => .table (toTable entries)
  | .tables elements => .array (toTables elements).reverse

def toTable : List (String × Item) → Table
  | [] => []
  | (key, item) :: rest => (key, Item.toValue item) :: toTable rest

def toTables : List (List (String × Item)) → List Value
  | [] => []
  | entries :: rest => .table (toTable entries) :: toTables rest

end

end Items

end Emend.Toml
