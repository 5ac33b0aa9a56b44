import ClusterAccess.Text.Decimal
import ClusterAccess.Text.Utf8
import ClusterAccess.Yaml.Character

/-!
Names in a YAML text other than scalars: anchors, tags, and the directives before a document.
-/

namespace ClusterAccess.Yaml

def runOf (p : Char → Bool) (cs : List Placed) : List Char × List Placed :=
  let run := cs.takeWhile (p ·.char)
  (run.map (·.char), cs.drop run.length)

def anchorName? (cs : List Placed) : Option (String × List Placed) :=
  let (name, rest) := runOf isNameChar cs
  let ends (c : Char) : Bool := isGap c || c ∈ ['?', ':', ',', ']', '\x7d', '%', '@', '\x60']
  if name.isEmpty || !nextIs ends rest then none else some (String.ofList name, rest)

def isUriChar (c : Char) : Bool :=
  isNameChar c || c ∈ [';', '/', '?', ':', '@', '&', '=', '+', '$', '.', '%', '!', '~', '*', '\'',
    '(', ')']

/-- The characters of a tag that stands in angle brackets, or of the front of tags. -/
def isWideUriChar (c : Char) : Bool := isUriChar c || c ∈ [',', '[', ']']

def uriBytes? : List Char → Option (List UInt8)
  | [] => some []
  | '%' :: a :: b :: rest => do
    return UInt8.ofNat (16 * (← Text.hexValue? a) + (← Text.hexValue? b)) :: (← uriBytes? rest)
  | c :: rest => do
    if c = '%' then none else return String.utf8EncodeChar c ++ (← uriBytes? rest)

def uri? (cs : List Char) : Option String := (uriBytes? cs).bind Text.Utf8.text?

/-- A tag: its handle, which is empty where the tag is written in full, and the rest of it. -/
structure Tag where
  handle : String
  suffix : String
  deriving DecidableEq

namespace Tag

def verbatim? (cs : List Placed) : Option (Tag × List Placed) := do
  let (name, rest) := runOf isWideUriChar cs
  if name.isEmpty || !nextIs (· = '>') rest then none
  return (⟨"", ← uri? name⟩, rest.tail)

/-- A tag after its exclamation mark. With a second mark it has a handle of its own. -/
def short? (cs : List Placed) : Option (Tag × List Placed) := do
  let (name, rest) := runOf isNameChar cs
  if nextIs (· = '!') rest then
    let (suffix, rest) := runOf isUriChar rest.tail
    if suffix.isEmpty then none
    return (⟨"!" ++ String.ofList name ++ "!", ← uri? suffix⟩, rest)
  else
    let (suffix, rest) := runOf isUriChar rest
    let name ← uri? (name ++ suffix)
    return (if name = "" then ⟨"", "!"⟩ else ⟨"!", name⟩, rest)

def read? (inFlow : Bool) (cs : List Placed) : Option (Tag × List Placed) := do
  let (tag, rest) ← if nextIs (· = '<') cs then verbatim? cs.tail else short? cs
  if nextIs isGap rest || (inFlow && nextIs (· = ',') rest) then return (tag, rest) else none

end Tag

inductive Directive where
  | version (major minor : Nat)
  | tag (handle front : String)
  deriving DecidableEq

namespace Directive

def versionNumber? (cs : List Placed) : Option (Nat × List Placed) :=
  let (digits, rest) := runOf Char.isDigit cs
  if digits.isEmpty || 9 < digits.length then none else some (Text.digitsValue digits, rest)

def version? (cs : List Placed) : Option (Directive × List Placed) := do
  let (major, rest) ← versionNumber? cs
  if !nextIs (· = '.') rest then none
  let (minor, rest) ← versionNumber? rest.tail
  return (version major minor, rest)

def tag? (cs : List Placed) : Option (Directive × List Placed) := do
  if !nextIs (· = '!') cs then none
  let (name, rest) := runOf isNameChar cs.tail
  let (handle, rest) ←
    if nextIs (· = '!') rest then some ("!" ++ String.ofList name ++ "!", rest.tail)
    else if name.isEmpty then some ("!", rest)
    else none
  if !nextIs isBlank rest then none
  let (front, rest) := runOf isWideUriChar (skipWhile isBlank rest)
  if front.isEmpty || !nextIs isGap rest then none
  return (tag handle (← uri? front), rest)

def read? (cs : List Placed) : Option (Directive × List Placed) := do
  let (name, rest) := runOf isNameChar cs
  if !nextIs isGap rest then none
  let rest := skipWhile isBlank rest
  let (directive, rest) ←
    if name = "YAML".toList then version? rest
    else if name = "TAG".toList then tag? rest
    else none
  return (directive, ← skipToLineEnd? rest)

end Directive

end ClusterAccess.Yaml
