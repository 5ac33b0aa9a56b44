import ClusterAccess.Text.Base64
import ClusterAccess.Text.Blank
import ClusterAccess.Text.Utf8

/-!
Blocks of bytes in a text: each stands in base 64 between two lines that name its kind, perhaps
after headers and an empty line. What is outside of blocks, or in one without an end, is left out.
-/

namespace ClusterAccess.Text

inductive PemFault where
  | noBegin
  | noEnd
  | mismatch (first last : String)
  | notText (cause : Malformed)
  | content (cause : Base64Fault)
  | header (line : String)
  deriving DecidableEq

def PemFault.message : PemFault → String
  | noBegin => "missing BEGIN tag"
  | noEnd => "missing END tag"
  | mismatch first last =>
    "mismatching BEGIN (\"" ++ first ++ "\") and END (\"" ++ last ++ "\") tags"
  | notText cause => "invalid utf-8 value: " ++ cause.message
  | content cause => "invalid data: " ++ cause.message
  | header line => "invalid header: " ++ line

structure PemBlock where
  kind : String
  content : List UInt8

structure WrittenPem where
  first : List UInt8
  headers : List UInt8
  body : List UInt8
  last : List UInt8

namespace WrittenPem

def ascii (s : String) : List UInt8 := Utf8.encode s.toList

/-- The bytes before a marker and those after it. `found` bytes of the marker have been seen; those
before are in `taken`, newest first. A byte that does not go on with the marker does not begin
another one. -/
def until? (marker : List UInt8) (found : Nat) (taken : List UInt8) :
    List UInt8 → Option (List UInt8 × List UInt8)
  | [] => none
  | b :: rest =>
    if marker[found]? ≠ some b then until? marker 0 (b :: taken) rest
    else if found + 1 = marker.length then some ((taken.drop found).reverse, rest)
    else until? marker (found + 1) (b :: taken) rest

def upTo? (marker : String) (bytes : List UInt8) : Option (List UInt8 × List UInt8) :=
  until? (ascii marker) 0 [] bytes

def skipSpace (bytes : List UInt8) : List UInt8 := bytes.dropWhile (· ∈ ascii " \n\r\t")

def next? (bytes : List UInt8) : Option (WrittenPem × List UInt8) := do
  let (_, rest) ← upTo? "-----BEGIN " bytes
  let (first, rest) ← upTo? "-----" rest
  let (inside, rest) ← upTo? "-----END " (skipSpace rest)
  let (last, rest) ← upTo? "-----" rest
  let (headers, body) :=
    ((upTo? "\n\n" inside).or (upTo? "\r\n\r\n" inside)).getD ([], inside)
  return (⟨first, headers, body, last⟩, rest)

def all : (most : Nat) → List UInt8 → List WrittenPem
  | 0, _ => []
  | most + 1, bytes => match next? bytes with
    | some (block, rest) => block :: all most rest
    | none => []

def text (bytes : List UInt8) : Except PemFault (List Char) :=
  (Utf8.decode bytes).mapError .notText

def lines (cs : List Char) : List (List Char) :=
  let parts := (cs.splitOn '\n').map fun line =>
    if line.getLast? = some '\r' then line.dropLast else line
  if parts.getLast? = some [] then parts.dropLast else parts

def read (w : WrittenPem) : Except PemFault PemBlock := do
  let first ← text w.first
  if first.isEmpty then throw .noBegin
  let last ← text w.last
  if last.isEmpty then throw .noEnd
  if first ≠ last then throw (.mismatch (String.ofList first) (String.ofList last))
  let body := (← text w.body).filter (!isBlank ·)
  let content ← (Base64.decode (Utf8.encode body)).mapError .content
  match (lines (← text w.headers)).find? (!·.contains ':') with
  | some line => throw (.header (String.ofList line))
  | none => return ⟨String.ofList first, content⟩

end WrittenPem

def readPem (bytes : List UInt8) : Except PemFault (List PemBlock) :=
  (WrittenPem.all bytes.length bytes).mapM (·.read)

end ClusterAccess.Text
