/-! TOML values and how documents build them.

A table remembers how it came about, because that decides what may still be added to it:
a table with a header of its own is closed to dotted keys, one that dotted keys have made
is closed to headers, and an inline table is closed to everything. -/
namespace Precompiler

/-- How a table came about. -/
inductive TableOrigin where
  /-- By a header of its own. -/
  | header
  /-- As part of the name in another table's header. -/
  | above
  /-- By a dotted key. -/
  | dotted
  /-- Between braces. -/
  | inline
  deriving Repr, DecidableEq

/-- A TOML value. Of dates only the fact is kept. -/
inductive Toml where
  | string (text : String)
  | integer (n : Int)
  | float
  | boolean (b : Bool)
  | dateTime
  | array (elements : List Toml)
  | table (origin : TableOrigin) (fields : List (String × Toml))
  /-- Tables written one by one under the same double header, last first. -/
  | tables (elements : List (List (String × Toml)))
  deriving Inhabited

namespace Toml

abbrev Fields := List (String × Toml)

/-- Fields with one of them changed; `change` is given what stands there. -/
def Fields.alter (name : String) (change : Option Toml → Option Toml) : Fields → Option Fields
  | [] => (change none).map fun v => [(name, v)]
  | (n, v) :: rest =>
    if n = name then (change (some v)).map fun v => (n, v) :: rest
    else (Fields.alter name change rest).map ((n, v) :: ·)

/-- Fields with a new one, unless there is one of that name. -/
def Fields.add (name : String) (value : Toml) (fields : Fields) : Option Fields :=
  Fields.alter name (fun | none => some value | some _ => none) fields

/-! ### Headers -/

/-- Changes the table at the end of a header's name; tables on the way come into being.
Where tables stand under a double header, the last one is meant. -/
def Fields.under (change : Fields → Option Fields) : List String → Fields → Option Fields
  | [], fields => change fields
  | name :: path, fields =>
    Fields.alter name (fun
      | none => (Fields.under change path []).map (.table .above)
      | some (.table .inline _) => none
      | some (.table origin inner) => (Fields.under change path inner).map (.table origin)
      | some (.tables (last :: before)) =>
        (Fields.under change path last).map fun last => .tables (last :: before)
      | some _ => none) fields

/-- What a header does where it stands: it makes a table, or names one that has so far
been part of other headers only. -/
def openTable : Option Toml → Option Toml
  | none => some (.table .header [])
  | some (.table .above fields) => some (.table .header fields)
  | some _ => none

/-- What a double header does: it adds one more table. -/
def addTable : Option Toml → Option Toml
  | none => some (.tables [[]])
  | some (.tables elements) => some (.tables ([] :: elements))
  | some _ => none

/-! ### Keys -/

/-- Adds a value under a dotted key. A table on the way must not have a header of its own,
and the last one must be made by dotted keys alone. -/
def Fields.addDotted (last : String) (value : Toml) : List String → Fields → Option Fields
  | [], fields => fields.add last value
  | name :: path, fields =>
    Fields.alter name (fun
      | none => (Fields.addDotted last value path []).map (.table .dotted)
      | some (.table .dotted inner) => (Fields.addDotted last value path inner).map (.table .dotted)
      | some (.table .above inner) =>
        if path.isEmpty then none
        else (Fields.addDotted last value path inner).map (.table .above)
      | some (.tables (inner :: before)) =>
        if path.isEmpty then none
        else (Fields.addDotted last value path inner).map fun inner => .tables (inner :: before)
      | some _ => none) fields

end Toml

end Precompiler
