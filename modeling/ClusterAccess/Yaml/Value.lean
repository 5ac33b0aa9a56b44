import ClusterAccess.Text.Decimal
import ClusterAccess.Yaml.Node

/-!
The values of YAML nodes. A plain scalar is what it looks like: nothing, a truth value, a number or
a text. No key stands twice in a mapping, collections are at most 128 deep, and repeating named
nodes does not make a document more than a hundred times as long.
-/

namespace ClusterAccess

inductive Yaml where
  | null
  | bool (value : Bool)
  | int (value : Int)
  | real (written : String)
  | str (value : String)
  | seq (items : List Yaml)
  | map (pairs : List (Yaml × Yaml))
  | tagged (tag : String) (value : Yaml)
  deriving Inhabited

namespace Yaml

mutual

/-- Whether two values are the same. The order of the pairs of a mapping does not matter. -/
def same : Yaml → Yaml → Bool
  | null, null => true
  | bool a, bool b => a == b
  | int a, int b => a == b
  | real a, real b => a == b
  | str a, str b => a == b
  | seq a, seq b => sameItems a b
  | map a, map b => a.length == b.length && samePairs a b
  | tagged t a, tagged u b => t == u && a.same b
  | _, _ => false

def sameItems : List Yaml → List Yaml → Bool
  | [], [] => true
  | a :: as, b :: bs => a.same b && sameItems as bs
  | _, _ => false

def samePairs : List (Yaml × Yaml) → List (Yaml × Yaml) → Bool
  | [], _ => true
  | (k, v) :: rest, others =>
    others.any (fun (l, w) => k.same l && v.same w) && samePairs rest others

end

def untag : Yaml → Yaml
  | tagged _ value => value.untag
  | value => value

def isNullWord (s : String) : Bool := s ∈ ["null", "Null", "NULL", "~"]

def boolean? (s : String) : Option Bool :=
  if s ∈ ["true", "True", "TRUE"] then some true
  else if s ∈ ["false", "False", "FALSE"] then some false
  else none

/-- The value of digits in a base, of which there is at least one. -/
def digits? (base : Nat) (cs : List Char) : Option Nat :=
  if cs.isEmpty then none
  else cs.foldlM (fun n c => match Text.hexValue? c with
    | some d => if d < base then some (base * n + d) else none
    | none => none) 0

def splitSign : List Char → Option Bool × List Char
  | '+' :: rest => (some false, rest)
  | '-' :: rest => (some true, rest)
  | cs => (none, cs)

/-- Digits that begin with a zero and look like a number but are none. -/
def isPadded (cs : List Char) : Bool :=
  match (splitSign cs).2 with
  | '0' :: c :: rest => (c :: rest).all Char.isDigit
  | _ => false

/-- The integer that a text writes: in decimal digits, or with the mark of another base. -/
def integer? (cs : List Char) : Option Int :=
  let (negative, size) := splitSign cs
  let value := match size with
    | '0' :: 'x' :: rest => digits? 16 rest
    | '0' :: 'o' :: rest => digits? 8 rest
    | '0' :: 'b' :: rest => digits? 2 rest
    | rest => if isPadded cs then none else digits? 10 rest
  value.map fun (n : Nat) => if negative = some true then -(n : Int) else n

/-- Whether a text is a decimal number with digits before or after a point and perhaps an exponent,
and not too large for a double. -/
def isDecimal (cs : List Char) : Bool :=
  let (_, cs) := splitSign cs
  let whole := cs.takeWhile Char.isDigit
  let (places, rest) := match cs.drop whole.length with
    | '.' :: rest => (rest.takeWhile Char.isDigit, rest.dropWhile Char.isDigit)
    | rest => ([], rest)
  let exponent : Option Int := match rest with
    | [] => some 0
    | e :: rest =>
      let (negative, digits) := splitSign rest
      if e = 'e' || e = 'E' then
        (digits? 10 digits).map fun (n : Nat) => if negative = some true then -(n : Int) else n
      else none
  !(whole ++ places).isEmpty &&
    exponent.any fun e => Text.isFinite (Text.digitsValue (whole ++ places)) (e - places.length)

def isReal (s : String) : Bool :=
  s ∈ [".inf", ".Inf", ".INF", "+.inf", "+.Inf", "+.INF", "-.inf", "-.Inf", "-.INF", ".nan", ".NaN",
    ".NAN"] || isDecimal s.toList

/-- The sizes that integers have. A larger one that has 128 bits is refused. -/
def ofInteger (n : Int) : Option (Option Yaml) :=
  if -Int.pow 2 63 ≤ n && n < Int.pow 2 64 then some (some (int n))
  else if -Int.pow 2 127 ≤ n && n < Int.pow 2 128 then some none
  else none

def ofPlain? (s : String) : Option Yaml :=
  if s = "" || isNullWord s then some null
  else match boolean? s with
    | some b => some (bool b)
    | none => match (integer? s.toList).bind ofInteger with
      | some value => value
      | none => some (if !isPadded s.toList && isReal s then real s else str s)

/-- The local tag of a node, without its mark. Other tags do not stay with the value. -/
def localTag? (tag : Option String) : Option String :=
  tag.bind fun t => match t.toList with
    | ['!'] => some "!"
    | '!' :: name => some (String.ofList name)
    | _ => none

def standardTag (name : String) : String := "tag:yaml.org,2002:" ++ name

/-- The value of a scalar. A standard tag says what it has to be. -/
def ofScalar? (tag : Option String) (isPlain : Bool) (s : String) : Option Yaml :=
  if tag = some (standardTag "bool") then (boolean? s).map bool
  else if tag = some (standardTag "int") then ((integer? s.toList).bind ofInteger).join
  else if tag = some (standardTag "float") then if isReal s then some (real s) else none
  else if tag = some (standardTag "null") then if isNullWord s then some null else none
  else match localTag? tag with
    | some name => (if isPlain then ofPlain? s else some (str s)).map (tagged name)
    | none => if isPlain && tag.isNone then ofPlain? s else some (str s)

def wrap (tag : Option String) (value : Yaml) : Yaml :=
  match localTag? tag with
  | some name => tagged name value
  | none => value

mutual

/-- The length of what is written: a collection counts for its beginning and for its end. -/
def length : Node → Nat
  | .scalar .. => 1
  | .sequence _ items => 2 + itemsLength items
  | .mapping _ pairs => 2 + pairsLength pairs
  | .again _ => 1

def itemsLength : List Node → Nat
  | [] => 0
  | node :: rest => length node + itemsLength rest

def pairsLength : List (Node × Node) → Nat
  | [] => 0
  | (key, value) :: rest => length key + length value + pairsLength rest

end

/-- Readers that count down the nodes that may be repeated, or fail. -/
abbrev Counting := StateT Nat Option

mutual

/-- The value of a node in which at most `room` collections are open at a time. -/
def ofNode (room : Nat) : Node → Counting Yaml
  | .scalar tag isPlain text => ofScalar? tag isPlain text
  | .sequence tag items => match room with
    | 0 => failure
    | room + 1 => do return wrap tag (seq (← ofItems room items))
  | .mapping tag pairs => match room with
    | 0 => failure
    | room + 1 => do return wrap tag (map (← ofPairs room [] pairs))
  | .again target => do
    match ← get with
    | 0 => failure
    | left + 1 =>
      set left
      ofNode room target

def ofItems (room : Nat) : List Node → Counting (List Yaml)
  | [] => return []
  | node :: rest => do
    let item ← ofNode room node
    return item :: (← ofItems room rest)

/-- The pairs of a mapping after those that have been read, newest first. -/
def ofPairs (room : Nat) (done : List (Yaml × Yaml)) :
    List (Node × Node) → Counting (List (Yaml × Yaml))
  | [] => return done.reverse
  | (key, value) :: rest => do
    let key ← ofNode room key
    if done.any fun pair => pair.1.same key then failure
    let value ← ofNode room value
    ofPairs room ((key, value) :: done) rest

end

def depthLimit : Nat := 128

def repetitionLimit : Nat := 100

def ofDocument? (node : Node) : Option Yaml :=
  ((ofNode depthLimit node).run (repetitionLimit * length node)).map (·.1)

/-- The values of the documents of a text, up to the first one that has none. -/
def values (cs : List Char) : List (Option Yaml) :=
  let read := (nodes cs).map (·.bind ofDocument?)
  read.takeWhile Option.isSome ++ (read.dropWhile Option.isSome).take 1

end Yaml

end ClusterAccess
