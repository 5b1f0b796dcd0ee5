/-!
# Values and tables of TOML

A table is a list of keys with their values, in the order in which they are first given.  It is
built by inserting values under paths of keys and by opening tables, and it matters how each table
in it came to be: a table cannot be defined twice.
-/

namespace BranchDistance

namespace Toml

/-- How a table came to be. -/
inductive Origin where
  /-- Written in braces; nothing is added to it. -/
  | closed
  /-- Needed on the path to a value. -/
  | dotted
  /-- Opened by its own header. -/
  | headed
  /-- Needed on the path to a table with a header. -/
  | implied
  deriving DecidableEq

/-- A value.  Dates are not read. -/
inductive Value where
  | bool (b : Bool)
  | integer (n : Int)
  | float (x : Float)
  | text (s : String)
  | array (elements : List Value)
  | table (origin : Origin) (entries : List (String × Value))

/-- The keys of a table with their values. -/
abbrev Table := List (String × Value)

namespace Table

/-- Gives a key the value that comes from its old one, if it has one. -/
def alter? (f : Option Value → Option Value) (key : String) (t : Table) : Option Table :=
  let old := t.lookup key
  (f old).map fun new =>
    if old.isSome then t.map fun e => if e.1 = key then (key, new) else e else t ++ [(key, new)]

/-- Gives a value to the path of keys, which must be new.  The tables on the path are made as far as
they are missing. -/
def insert? (path : List String) (v : Value) (t : Table) : Option Table :=
  match path with
  | [] => none
  | [key] => alter? (fun old => if old.isSome then none else some v) key t
  | key :: rest =>
    alter? (fun old =>
      match old with
      | none => (insert? rest v []).map (.table .dotted)
      | some (.table .dotted inner) => (insert? rest v inner).map (.table .dotted)
      | some _ => none) key t

/-- Changes the table at the path of keys of a header. -/
def within? (path : List String) (f : Table → Option Table) (t : Table) : Option Table :=
  match path with
  | [] => f t
  | key :: rest =>
    alter? (fun old =>
      match old with
      | none => (within? rest f []).map (.table .implied)
      | some (.table .closed _) => none
      | some (.table origin inner) => (within? rest f inner).map (.table origin)
      | some _ => none) key t

/-- Opens the table with the path of keys of a header, which must not be defined. -/
def open? (path : List String) (t : Table) : Option Table :=
  match path.getLast? with
  | none => none
  | some key =>
    within? path.dropLast (alter? (fun old =>
      match old with
      | none => some (.table .headed [])
      | some (.table .implied inner) => some (.table .headed inner)
      | some _ => none) key) t

end Table

end Toml

end BranchDistance
