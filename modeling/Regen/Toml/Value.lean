import Regen.Decimal.Double

/-!
# TOML values and tables

What a TOML document says, and the tables it is gathered in while it is read. A table can be
opened by its own header once; a table that a longer header or a dotted key passed through is
there without having been opened.

* `Toml.Value`          a value;
* `Toml.Node`           a value or a table under construction;
* `Toml.assign`         puts a value at a dotted key;
* `Toml.openTable`      `[a.b]`: opens a table;
* `Toml.openElement`    `[[a.b]]`: opens one more element of an array of tables;
* `Toml.within`         works on the table that a header opened.

Each of them answers none where the document defines something twice.
-/

namespace Regen.Toml

inductive Value where
  | integer (n : Int)
  | float (x : Double)
  | boolean (b : Bool)
  | text (s : String)
  | moment
  | array (items : List Value)
  | table (entries : List (String × Value))
  deriving Repr

inductive Origin where
  | header
  | passed
  | dotted
  deriving DecidableEq, Repr

inductive Node where
  | value (v : Value)
  | table (origin : Origin) (entries : List (String × Node))
  | elements (tables : List (List (String × Node)))

abbrev Entries := List (String × Node)

def replaceKey (key : String) (n : Node) (es : Entries) : Entries :=
  es.map fun e => if e.1 = key then (key, n) else e

/-- puts a value at a dotted key. A table that was opened by a header is closed to dotted keys of
other tables; one that a longer header passed through is open to them, and counts as theirs from
then on, so that no header opens it any more. -/
def assign (v : Value) : List String → Entries → Option Entries
  | [], _ => none
  | [key], es => if (es.lookup key).isSome then none else some (es ++ [(key, .value v)])
  | key :: next :: rest, es =>
    match es.lookup key with
    | none => (assign v (next :: rest) []).map fun sub => es ++ [(key, .table .dotted sub)]
    | some (.table origin sub) =>
      if origin = .header then none
      else (assign v (next :: rest) sub).map fun sub => replaceKey key (.table .dotted sub) es
    | some (.elements tables) =>
      match tables.getLast? with
      | some sub =>
        if rest = [] then none
        else (assign v (next :: rest) sub).map fun sub =>
          replaceKey key (.elements (tables.dropLast ++ [sub])) es
      | none => none
    | some (.value _) => none

def openTable : List String → Entries → Option Entries
  | [], _ => none
  | [key], es =>
    match es.lookup key with
    | none => some (es ++ [(key, .table .header [])])
    | some (.table .passed sub) => some (replaceKey key (.table .header sub) es)
    | some _ => none
  | key :: next :: rest, es =>
    match es.lookup key with
    | none => (openTable (next :: rest) []).map fun sub => es ++ [(key, .table .passed sub)]
    | some (.table origin sub) =>
      (openTable (next :: rest) sub).map fun sub => replaceKey key (.table origin sub) es
    | some (.elements tables) =>
      match tables.getLast? with
      | some sub =>
        (openTable (next :: rest) sub).map fun sub =>
          replaceKey key (.elements (tables.dropLast ++ [sub])) es
      | none => none
    | some (.value _) => none

def openElement : List String → Entries → Option Entries
  | [], _ => none
  | [key], es =>
    match es.lookup key with
    | none => some (es ++ [(key, .elements [[]])])
    | some (.elements tables) => some (replaceKey key (.elements (tables ++ [[]])) es)
    | some _ => none
  | key :: next :: rest, es =>
    match es.lookup key with
    | none => (openElement (next :: rest) []).map fun sub => es ++ [(key, .table .passed sub)]
    | some (.table origin sub) =>
      (openElement (next :: rest) sub).map fun sub => replaceKey key (.table origin sub) es
    | some (.elements tables) =>
      match tables.getLast? with
      | some sub =>
        (openElement (next :: rest) sub).map fun sub =>
          replaceKey key (.elements (tables.dropLast ++ [sub])) es
      | none => none
    | some (.value _) => none

def within (work : Entries → Option Entries) : List String → Entries → Option Entries
  | [], es => work es
  | key :: rest, es =>
    match es.lookup key with
    | some (.table origin sub) =>
      (within work rest sub).map fun sub => replaceKey key (.table origin sub) es
    | some (.elements tables) =>
      match tables.getLast? with
      | some sub =>
        (within work rest sub).map fun sub =>
          replaceKey key (.elements (tables.dropLast ++ [sub])) es
      | none => none
    | _ => none

mutual

def Node.toValue : Node → Value
  | .value v => v
  | .table _ es => .table (toEntries es)
  | .elements ts => .array (toTables ts)

def toEntries : List (String × Node) → List (String × Value)
  | [] => []
  | (k, n) :: es => (k, n.toValue) :: toEntries es

def toTables : List (List (String × Node)) → List Value
  | [] => []
  | es :: ts => .table (toEntries es) :: toTables ts

end

end Regen.Toml
