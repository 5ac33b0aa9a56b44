import ClusterAccess.Credential.Certificate
import ClusterAccess.Text.Base64
import ClusterAccess.Text.Escape

/-!
The certificate and the key that a user shows on a connection, as blocks of one text. A block stands
between a line that names its kind and one that ends it; another such line inside begins it anew.
-/

namespace ClusterAccess

inductive IdentificationFault where
  | badBeginning (line : List UInt8)
  | noEnd (ending : List UInt8)
  | content (cause : Text.Base64.LineFault)
  | unknownKey
  | noKey
  | noCertificate
  | badKey
  | badCertificate
  deriving DecidableEq

namespace IdentificationFault

def contentDetail : Text.Base64.LineFault → String
  | .symbol byte => "InvalidCharacter(" ++ toString byte.toNat ++ ")"
  | .fillingInside => "PrematurePadding"
  | .fillingAtEnd => "InvalidTrailingPadding"

def shown (bytes : List UInt8) : String := Text.quote (Text.Utf8.repaired bytes)

def message : IdentificationFault → String
  | badBeginning line => "identity PEM is invalid: illegal section start: " ++ shown line
  | noEnd ending => "identity PEM is invalid: section end " ++ shown ending ++ " missing"
  | content cause => "identity PEM is invalid: " ++ contentDetail cause
  | unknownKey => "unknown private key format"
  | noKey => "identity PEM is missing a private key: the key must be PKCS8 or RSA/PKCS1"
  | noCertificate => "identity PEM is missing certificate"
  | badKey =>
    "invalid private key: unexpected error: " ++
      "failed to parse private key as RSA, ECDSA, or EdDSA"
  | badCertificate => "invalid private key: invalid peer certificate: BadEncoding"

end IdentificationFault

namespace Identification

/-- The kinds of blocks that are read. Blocks of other kinds are left out. -/
inductive Kind where
  | certificate
  | key
  | rsaKey
  | ellipticKey
  | other
  deriving DecidableEq

def ascii (s : String) : List UInt8 := Text.Utf8.encode s.toList

def kinds : List (String × Kind) :=
  [("CERTIFICATE", .certificate), ("PRIVATE KEY", .key), ("RSA PRIVATE KEY", .rsaKey),
    ("EC PRIVATE KEY", .ellipticKey), ("PUBLIC KEY", .other), ("X509 CRL", .other),
    ("CERTIFICATE REQUEST", .other)]

def kind? (name : List UInt8) : Option Kind :=
  (kinds.find? fun known => ascii known.1 = name).map (·.2)

structure ReadState where
  /-- The name of the open block. -/
  name : Option (List UInt8) := none
  /-- What has been read inside of the open block. -/
  body : List UInt8 := []
  /-- The blocks before it. -/
  found : List (Kind × List UInt8) := []

def isLineEnd (b : UInt8) : Bool := b ∈ ascii "\n\r"

def ending (name : List UInt8) : List UInt8 := ascii "-----END " ++ name ++ ascii "-----"

/-- The name in a line with which a block begins: five hyphens follow it, with blanks among them at
most. -/
def nameOf? (line : List UInt8) : Option (List UInt8) :=
  let tail := line.reverse.takeWhile (· ∈ ascii "-\n\r ")
  let hyphens := tail.reverse.dropWhile (· ∉ ascii "-")
  let isClosed := (hyphens.filter (· ∈ ascii "-")).length = 5
  if isClosed then some ((line.take (line.length - hyphens.length)).drop 11) else none

def step (s : ReadState) (line : List UInt8) : Except IdentificationFault ReadState :=
  if (ascii "-----BEGIN ").isPrefixOf line then
    match nameOf? line with
    | some name => .ok { s with name := some name }
    | none => .error (.badBeginning line)
  else match s.name with
    | none => .ok s
    | some name =>
      if (ending name).isPrefixOf line then
        match kind? name with
        | none => .ok { found := s.found }
        | some kind => match Text.Base64.decodeLines s.body with
          | .ok content => .ok { found := s.found ++ [(kind, content)] }
          | .error cause => .error (.content cause)
      else .ok { s with body := s.body ++ line }

def blocks (bytes : List UInt8) : Except IdentificationFault (List (Kind × List UInt8)) := do
  let s ← (bytes.splitBy fun a _ => !isLineEnd a).foldlM step {}
  match s.name with
  | some name => throw (.noEnd (ending name))
  | none => return s.found

/-- Checks that the blocks of a text hold a key and a certificate. Of several keys those of the
first kind count, and of them the last one. -/
def check (bytes : List UInt8) : Except IdentificationFault Unit := do
  let found ← blocks bytes
  let ofKind (kind : Kind) := (found.filter (·.1 = kind)).map (·.2)
  if ofKind .other ≠ [] then throw .unknownKey
  match [Kind.key, .rsaKey, .ellipticKey].findSome? fun kind => (ofKind kind).getLast? with
  | none => throw .noKey
  | some key => match ofKind .certificate with
    | [] => throw .noCertificate
    | certificate :: _ =>
      if !isPrivateKey key then throw .badKey
      if !isCertificate certificate then throw .badCertificate

end Identification

end ClusterAccess
