/-!
JSON values. Objects keep their fields as a list. A value is canonical when the fields of every
object stand in increasing order of their keys and no key is there twice; `canonical` makes it
so and lets the last field of a key win.
-/

namespace ClusterAccess

/-- A number that is not an integer of 64 bits stays as it was written. -/
inductive Json where
  | null
  | bool (value : Bool)
  | int (value : Int)
  | real (written : String)
  | str (value : String)
  | arr (items : List Json)
  | obj (fields : List (String × Json))
  deriving Inhabited

namespace Json

def putField (key : String) (value : Json) : List (String × Json) → List (String × Json)
  | [] => [(key, value)]
  | (k, v) :: rest =>
    if key < k then (key, value) :: (k, v) :: rest
    else if key = k then (key, value) :: rest
    else (k, v) :: putField key value rest

def sortFields (fields : List (String × Json)) : List (String × Json) :=
  fields.foldl (fun done (k, v) => putField k v done) []

def ofFields (fields : List (String × Json)) : Json := obj (sortFields fields)

mutual

def canonical : Json → Json
  | arr items => arr (canonicalItems items)
  | obj fields => ofFields (canonicalFields fields)
  | other => other

def canonicalItems : List Json → List Json
  | [] => []
  | v :: rest => v.canonical :: canonicalItems rest

def canonicalFields : List (String × Json) → List (String × Json)
  | [] => []
  | (k, v) :: rest => (k, v.canonical) :: canonicalFields rest

end

def lookup (key : String) : List (String × Json) → Option Json
  | [] => none
  | (k, v) :: rest => if k = key then some v else lookup key rest

/-- The field of an object; nothing for a value of another form. -/
def field? (key : String) : Json → Option Json
  | obj fields => lookup key fields
  | _ => none

def text? : Json → Option String
  | str s => some s
  | _ => none

def items? : Json → Option (List Json)
  | arr items => some items
  | _ => none

def isNull : Json → Bool
  | null => true
  | _ => false

def ofText? : Option String → Json
  | none => null
  | some s => str s

end Json

end ClusterAccess
