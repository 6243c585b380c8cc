import Gazetteer.Data.SortedMap

/-!
# JSON values

A JSON value. Whole numbers that fit 64 bits are kept apart from other numbers, because they print
differently, and the fields of an object are kept in key order.
-/

namespace Gazetteer

inductive Json where
  | null
  | bool (b : Bool)
  | int (n : Int)
  | num (x : Float)
  | str (s : String)
  | arr (items : List Json)
  | obj (fields : List (String × Json))
  deriving Inhabited, Repr

namespace Json

def field? (j : Json) (key : String) : Option Json :=
  match j with
  | .obj fields => Entries.get? key fields
  | _ => none

/-- An object with the given fields; of two with the same key the later one stays. -/
def ofFields (fields : List (String × Json)) : Json :=
  .obj (fields.foldl (fun es f => Entries.insert f.1 f.2 es) [])

def setField (j : Json) (key : String) (value : Json) : Json :=
  match j with
  | .obj fields => .obj (Entries.insert key value fields)
  | j => j

def str? : Json → Option String
  | .str s => some s
  | _ => none

def arr? : Json → Option (List Json)
  | .arr items => some items
  | _ => none

/-- A whole number that fits 64 bits without a sign. -/
def nat64? : Json → Option Nat
  | .int n => if 0 ≤ n ∧ n < UInt64.size then some n.toNat else none
  | _ => none

/-- A number, not finite ones becoming null. -/
def ofFloat (x : Float) : Json :=
  if x.isFinite then .num x else .null

end Json

end Gazetteer
