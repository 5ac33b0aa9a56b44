import ClusterAccess.Json.Basic

/-!
What a JSON text says, part by part. A part can be written properly and still have no value: a
number that is too large, or a string with half of a surrogate pair. Such parts matter only where
their value is wanted.
-/

namespace ClusterAccess.Json

inductive Document where
  | scalar (value : Option Json)
  | array (items : List Document)
  | object (fields : List (Option String × Document))
  deriving Inhabited

namespace Document

mutual

/-- The value of a document in which at most `room` arrays and objects are open at a time. Fields
stay in the order of the text, with repeated keys. -/
def value? : Nat → Document → Option Json
  | _, scalar value => value
  | 0, _ => none
  | room + 1, array items => (itemValues? room items).map arr
  | room + 1, object fields => (fieldValues? room fields).map obj

def itemValues? (room : Nat) : List Document → Option (List Json)
  | [] => some []
  | d :: rest => do return (← d.value? room) :: (← itemValues? room rest)

def fieldValues? (room : Nat) : List (Option String × Document) → Option (List (String × Json))
  | [] => some []
  | (key, d) :: rest => do return (← key, ← d.value? room) :: (← fieldValues? room rest)

end

def text? : Document → Option String
  | scalar (some (str s)) => some s
  | _ => none

def isNull : Document → Bool
  | scalar (some null) => true
  | _ => false

/-- The field of an object. Where the key is repeated, its last field counts. -/
def field? (key : String) : Document → Option Document
  | object fields => ((fields.filter (·.1 = some key)).getLast?).map (·.2)
  | _ => none

end Document

end ClusterAccess.Json
