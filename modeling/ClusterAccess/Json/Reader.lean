import ClusterAccess.Json.Document
import ClusterAccess.Json.Number
import ClusterAccess.Text.Utf16

/-!
Reading JSON. The reader goes over the text once, one character at a time, and keeps the open
arrays and objects on a stack. A document may be nested as deep as it likes; a value that is read
from a text has at most 127 arrays and objects open at a time.
-/

namespace ClusterAccess.Json

open Text (hexValue?)

/-- Something still open: what it holds so far, newest first, and the key of the field that is
being read. -/
inductive Frame where
  | array (items : List Document)
  | object (fields : List (Option String × Document)) (key : Option String)

/-- What the next character may be part of. A string remembers its code points, newest first; those
that were written as numbers may be surrogates. -/
inductive Mode where
  | value
  | valueOrClose
  | key
  | keyOrClose
  | colon
  | comma
  | done (result : Document)
  | text (isKey : Bool) (units : List Nat)
  | backslash (isKey : Bool) (units : List Nat)
  | unicode (isKey : Bool) (units : List Nat) (left code : Nat)
  | number (chars : List Char)
  | word (left : List Char) (result : Document)

structure ReadState where
  stack : List Frame
  mode : Mode

def isSpace (c : Char) : Bool := c = ' ' || c = '\n' || c = '\t' || c = '\r'

def isNumberChar (c : Char) : Bool :=
  c.isDigit || c = '-' || c = '+' || c = '.' || c = 'e' || c = 'E'

/-- The number that the characters write. It may be too large to have a value. -/
def number? (cs : List Char) : Option Document :=
  (WrittenNumber.ofChars? cs).map fun n => .scalar (n.value? cs)

def finish (v : Document) : List Frame → ReadState
  | [] => ⟨[], .done v⟩
  | .array items :: rest => ⟨.array (v :: items) :: rest, .comma⟩
  | .object fields key :: rest => ⟨.object ((key, v) :: fields) none :: rest, .comma⟩

def finishText (isKey : Bool) (units : List Nat) (stack : List Frame) : Option ReadState :=
  let s := (Text.Utf16.ofUnits? [] units).map String.ofList
  if isKey then
    match stack with
    | .object fields _ :: rest => some ⟨.object fields s :: rest, .colon⟩
    | _ => none
  else some (finish (.scalar (s.map str)) stack)

def closeArray : List Frame → Option ReadState
  | .array items :: rest => some (finish (.array items.reverse) rest)
  | _ => none

def closeObject : List Frame → Option ReadState
  | .object fields _ :: rest => some (finish (.object fields.reverse) rest)
  | _ => none

def beginValue (stack : List Frame) (c : Char) : Option ReadState :=
  if c = '"' then some ⟨stack, .text false []⟩
  else if c = '[' then some ⟨.array [] :: stack, .valueOrClose⟩
  else if c = '\x7b' then some ⟨.object [] none :: stack, .keyOrClose⟩
  else if c = 't' then some ⟨stack, .word ['r', 'u', 'e'] (.scalar (some (bool true)))⟩
  else if c = 'f' then some ⟨stack, .word ['a', 'l', 's', 'e'] (.scalar (some (bool false)))⟩
  else if c = 'n' then some ⟨stack, .word ['u', 'l', 'l'] (.scalar (some null))⟩
  else if c = '-' || c.isDigit then some ⟨stack, .number [c]⟩
  else none

def between (stack : List Frame) (mode : Mode) (c : Char) : Option ReadState :=
  if isSpace c then some ⟨stack, mode⟩
  else match mode with
    | .value => beginValue stack c
    | .valueOrClose => if c = ']' then closeArray stack else beginValue stack c
    | .key => if c = '"' then some ⟨stack, .text true []⟩ else none
    | .keyOrClose =>
      if c = '\x7d' then closeObject stack
      else if c = '"' then some ⟨stack, .text true []⟩
      else none
    | .colon => if c = ':' then some ⟨stack, .value⟩ else none
    | .comma =>
      if c = ',' then
        match stack with
        | .array _ :: _ => some ⟨stack, .value⟩
        | .object _ _ :: _ => some ⟨stack, .key⟩
        | [] => none
      else if c = ']' then closeArray stack
      else if c = '\x7d' then closeObject stack
      else none
    | _ => none

def shortEscape? (c : Char) : Option Char :=
  if c = '"' || c = '\\' || c = '/' then some c
  else if c = 'b' then some '\x08'
  else if c = 'f' then some '\x0c'
  else if c = 'n' then some '\n'
  else if c = 'r' then some '\r'
  else if c = 't' then some '\t'
  else none

def step (s : ReadState) (c : Char) : Option ReadState :=
  match s.mode with
  | .text isKey units =>
    if c = '"' then finishText isKey units s.stack
    else if c = '\\' then some ⟨s.stack, .backslash isKey units⟩
    else if c.toNat < 0x20 then none
    else some ⟨s.stack, .text isKey (c.toNat :: units)⟩
  | .backslash isKey units =>
    if c = 'u' then some ⟨s.stack, .unicode isKey units 4 0⟩
    else (shortEscape? c).map fun e => ⟨s.stack, .text isKey (e.toNat :: units)⟩
  | .unicode isKey units left code =>
    (hexValue? c).map fun d =>
      if left ≤ 1 then ⟨s.stack, .text isKey ((16 * code + d) :: units)⟩
      else ⟨s.stack, .unicode isKey units (left - 1) (16 * code + d)⟩
  | .number chars =>
    if isNumberChar c then some ⟨s.stack, .number (c :: chars)⟩
    else match number? chars.reverse with
      | none => none
      | some v =>
        let next := finish v s.stack
        between next.stack next.mode c
  | .word (expected :: left) result =>
    if c = expected then
      (if left.isEmpty then some (finish result s.stack) else some ⟨s.stack, .word left result⟩)
    else none
  | .word [] _ => none
  | .done result => if isSpace c then some ⟨s.stack, .done result⟩ else none
  | mode => between s.stack mode c

/-- The document that stands alone in a text which ends in this state. -/
def result? (s : ReadState) : Option Document :=
  match s.stack, s.mode with
  | [], .done v => some v
  | [], .number chars => number? chars.reverse
  | _, _ => none

def document? (cs : List Char) : Option Document :=
  (cs.foldlM step ⟨[], .value⟩).bind result?

def depthLimit : Nat := 127

def parse? (cs : List Char) : Option Json := (document? cs).bind (·.value? depthLimit)

def read? (cs : List Char) : Option Json := (parse? cs).map canonical

end ClusterAccess.Json
