import Gazetteer.Json.Basic

/-!
# TOML tables

The tables of a document while it is read. A table can come about in three ways, which decide what
may be added to it later: by a header of its own, as part of the header of another table, or as part
of a dotted key. No key is set twice and no table has two headers.
-/

namespace Gazetteer.Toml

/-- How a table came about. -/
inductive Origin where
  /-- By a header of its own. -/
  | header
  /-- As part of the header of another table. -/
  | passed
  /-- As part of a dotted key. -/
  | dotted
  deriving DecidableEq, Repr

/-- What a key stands for. -/
inductive Node where
  | value (j : Json)
  | table (origin : Origin) (entries : List (String × Node))
  /-- A list of tables, the latest apart. -/
  | tables (latest : List (String × Node)) (earlier : List (List (String × Node)))

abbrev Fields := List (String × Node)

/-- Change the table at a path. Tables on the way that do not exist yet come about by the header or
by the dotted key that the path belongs to; a dotted key cannot pass a table that has a header. Of a
list of tables the latest one counts. -/
def alter (byKey : Bool) (change : Origin → Fields → Option Fields) :
    List String → Origin → Fields → Option Fields
  | [], origin, entries => change origin entries
  | k :: ks, _, entries =>
    match Entries.get? k entries with
    | none => do
      let origin := if byKey then .dotted else .passed
      let inner ← alter byKey change ks origin []
      return Entries.insert k (.table origin inner) entries
    | some (.value _) => none
    | some (.table origin inner) =>
      if byKey && origin == .header then none
      else do
        let inner ← alter byKey change ks origin inner
        return Entries.insert k (.table origin inner) entries
    | some (.tables latest earlier) => do
      let latest ← alter byKey change ks .header latest
      return Entries.insert k (.tables latest earlier) entries

/-- Set a key that is not set yet; the tables that a dotted key leads through belong to dotted keys
alone. -/
def setKey (path : List String) (key : String) (value : Json) (entries : Fields) :
    Option Fields :=
  alter true (fun origin entries =>
    if path.isEmpty || origin == .dotted then
      match Entries.get? key entries with
      | none => some (Entries.insert key (.value value) entries)
      | some _ => none
    else none) path .header entries

def openTable (path : List String) (key : String) (entries : Fields) : Option Fields :=
  alter false (fun _ entries =>
    match Entries.get? key entries with
    | none => some (Entries.insert key (.table .header []) entries)
    | some (.table .passed inner) => some (Entries.insert key (.table .header inner) entries)
    | some _ => none) path .header entries

/-- Open one more table of a list. -/
def openListed (path : List String) (key : String) (entries : Fields) : Option Fields :=
  alter false (fun _ entries =>
    match Entries.get? key entries with
    | none => some (Entries.insert key (.tables [] []) entries)
    | some (.tables latest earlier) =>
      some (Entries.insert key (.tables [] (latest :: earlier)) entries)
    | some _ => none) path .header entries

/-- Set a key in the table at a path. -/
def setIn (table path : List String) (key : String) (value : Json) (entries : Fields) :
    Option Fields :=
  alter false (fun _ entries => setKey path key value entries) table .header entries

mutual

/-- What a key stands for, as a value. -/
def Node.toJson : Node → Json
  | .value j => j
  | .table _ entries => .obj (fieldsOf entries)
  | .tables latest earlier => .arr (recordsOf earlier ++ [.obj (fieldsOf latest)])

def fieldsOf : List (String × Node) → List (String × Json)
  | [] => []
  | (key, n) :: es => (key, n.toJson) :: fieldsOf es

/-- The tables of a list, which has the latest one first. -/
def recordsOf : List (List (String × Node)) → List Json
  | [] => []
  | entries :: rest => recordsOf rest ++ [.obj (fieldsOf entries)]

end

end Gazetteer.Toml
