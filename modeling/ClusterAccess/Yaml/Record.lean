import ClusterAccess.Yaml.Value

/-!
Records, lists and tables in YAML values. Tags do not matter here, and null stands for a collection
that is empty. A record is a mapping with texts as keys; it may have fields that nobody asks for.
-/

namespace ClusterAccess.Yaml

def isNull : Yaml → Bool
  | null => true
  | _ => false

def text? (v : Yaml) : Option String :=
  match v.untag with
  | str s => some s
  | _ => none

def flag? (v : Yaml) : Option Bool :=
  match v.untag with
  | bool b => some b
  | _ => none

variable {α : Type}

def list? (read : Yaml → Option α) (v : Yaml) : Option (List α) :=
  match v.untag with
  | null => some []
  | seq items => items.mapM read
  | _ => none

abbrev Fields := List (String × Yaml)

def fields? (v : Yaml) : Option Fields :=
  match v.untag with
  | null => some []
  | map pairs => pairs.mapM fun (key, value) => key.text?.map (·, value)
  | _ => none

def table? (read : Yaml → Option α) (v : Yaml) : Option (List (String × α)) := do
  (← v.fields?).mapM fun (key, value) => (read value).map (key, ·)

namespace Fields

def once? (fields : Fields) (key : String) : Option (Option Yaml) :=
  match fields.filter (·.1 = key) with
  | [] => some none
  | [(_, value)] => some (some value)
  | _ => none

def required? (fields : Fields) (key : String) (read : Yaml → Option α) : Option α := do
  read (← (← fields.once? key))

/-- The value of a field that may be missing or null. -/
def optional? (fields : Fields) (key : String) (read : Yaml → Option α) : Option (Option α) := do
  match ← fields.once? key with
  | none => some none
  | some value => if value.isNull then some none else (read value).map some

/-- The value of a field that may be missing. -/
def orElse? (fields : Fields) (key : String) (standard : α) (read : Yaml → Option α) :
    Option α := do
  match ← fields.once? key with
  | none => some standard
  | some value => read value

end Fields

mutual

/-- Whether the value is one of JSON: it has no tags, and all keys are texts. -/
def isPlainData : Yaml → Bool
  | tagged .. => false
  | seq items => itemsArePlain items
  | map pairs => pairsArePlain pairs
  | _ => true

def itemsArePlain : List Yaml → Bool
  | [] => true
  | v :: rest => v.isPlainData && itemsArePlain rest

def pairsArePlain : List (Yaml × Yaml) → Bool
  | [] => true
  | (key, value) :: rest => key.text?.isSome && value.isPlainData && pairsArePlain rest

end

end ClusterAccess.Yaml
