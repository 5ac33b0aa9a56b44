import ClusterAccess.Json.Reader
import ClusterAccess.Text.Timestamp

/-!
Shapes of JSON documents. A record is an object of which some fields must be there. Fields that
the shape does not name may hold anything, also parts that have no value, and every occurrence of
a repeated field must fit.
-/

namespace ClusterAccess.Json

inductive Shape where
  | anything
  | text
  | exactly (value : String)
  | flag
  | integer
  | instant
  | optional (shape : Shape)
  | list (item : Shape)
  | table (value : Shape)
  | record (required : List String) (fields : List (String × Shape))

namespace Shape

def acceptsScalar : Shape → Json → Bool
  | text, v => v.text?.isSome
  | exactly value, v => v.text? == some value
  | flag, .bool _ => true
  | integer, .int n => -Int.pow 2 63 ≤ n && n < Int.pow 2 63
  | instant, .str s => match Text.readTimestamp s with
    | .ok _ => true
    | .error _ => false
  | _, _ => false

mutual

/-- Whether a document in which at most `room` arrays and objects are open at a time, without
those that no shape names, has the shape. -/
def accepts (room : Nat) : Shape → Document → Bool
  | anything, d => (d.value? room).isSome
  | optional shape, d => d.isNull || shape.accepts room d
  | list item, .array items => match room with
    | 0 => false
    | room + 1 => items.all fun d => item.accepts room d
  | table value, .object fields => match room with
    | 0 => false
    | room + 1 => fields.all fun f => f.1.isSome && value.accepts room f.2
  | record required shapes, .object fields => match room with
    | 0 => false
    | room + 1 =>
      required.all (fun key => fields.any (·.1 == some key)) &&
        fields.all fun f => f.1.any fun key => acceptsField room shapes key f.2
  | shape, .scalar (some v) => shape.acceptsScalar v
  | _, _ => false

def acceptsField (room : Nat) : List (String × Shape) → String → Document → Bool
  | [], _, _ => true
  | (name, shape) :: rest, key, d =>
    if name = key then shape.accepts room d else acceptsField room rest key d

end

def optionals (fields : List (String × Shape)) : Shape :=
  record [] (fields.map fun (name, shape) => (name, optional shape))

/-- Whether a document that is read as a whole has the shape. -/
def fits (shape : Shape) (d : Document) : Bool := shape.accepts depthLimit d

end Shape

end ClusterAccess.Json
