import ClusterAccess.Credential.Identification
import ClusterAccess.Host
import ClusterAccess.Wire.Ipv6

/-!
What an encrypted connection is prepared with: the certificates that are trusted, the certificate
and the key that a user has, and the name of the server.
-/

namespace ClusterAccess

inductive EncryptionFault where
  | noRoots
  | badRoot
  | identification (cause : IdentificationFault)
  | badServerName
  deriving DecidableEq

def EncryptionFault.message : EncryptionFault → String
  | noRoots => "No valid native root CA certificates found"
  | badRoot => "failed to add a root certificate: invalid peer certificate: BadEncoding"
  | identification cause => cause.message
  | badServerName => "invalid server name: invalid dns name"

namespace ServerName

def labelLimit : Nat := 63

def nameLimit : Nat := 253

def isLabel (cs : List Char) : Bool :=
  cs ≠ [] && cs.length ≤ labelLimit && cs.head? ≠ some '-' && cs.getLast? ≠ some '-' &&
    cs.all fun c => c.isAlphanum || c = '-' || c = '_'

/-- Names of hosts: the last part is more than a number, and a dot may follow it. -/
def isHostName (cs : List Char) : Bool :=
  let labels := Ipv6.parts '.' cs
  let labels := if 1 < labels.length && labels.getLast? = some [] then labels.dropLast else labels
  cs.length ≤ nameLimit && labels.all isLabel && !(labels.getLastD []).all Char.isDigit

def isValid (name : String) : Bool :=
  let cs := name.toList
  isHostName cs || Ipv6.isIpv4 cs || Ipv6.isAddress cs

end ServerName

/-! Who is trusted. A cluster may name its own authority; for the others there are the certificates
of the machine, or instead of them those of a file or a directory that the environment names. Only
files are looked at, so that a directory adds nothing to them. -/

def rootsFileVariable : String := "SSL_CERT_FILE"

def rootsDirectoryVariable : String := "SSL_CERT_DIR"

def rootsFile? (host : Host) : Option PathName := (host.env rootsFileVariable).map (⟨·⟩)

/-- Whether the environment names certificates instead of those of the machine. -/
def namesRoots (host : Host) : Bool :=
  (rootsFile? host).isSome || (host.env rootsDirectoryVariable).isSome

/-- The certificates in the blocks of a text, none if it does not consist of blocks. -/
def certificatesIn (bytes : List UInt8) : List (List UInt8) :=
  match Identification.blocks bytes with
  | .ok blocks => (blocks.filter (·.1 = .certificate)).map (·.2)
  | .error _ => []

def namedRoots (host : Host) : List (List UInt8) :=
  match rootsFile? host with
  | some path => ((host.readBytes path).toOption.map certificatesIn).getD []
  | none => []

def checkRoots (host : Host) : Option (List (List UInt8)) → Except EncryptionFault Unit
  | some roots => if roots.all isCertificate then .ok () else .error .badRoot
  | none =>
    if namesRoots host && !(namedRoots host).any isCertificate then .error .noRoots else .ok ()

def checkEncryption (host : Host) (roots : Option (List (List UInt8)))
    (identification : Option (List UInt8)) (serverName : Option String) :
    Except EncryptionFault Unit := do
  checkRoots host roots
  if let some bytes := identification then
    (Identification.check bytes).mapError .identification
  if let some name := serverName then
    if !ServerName.isValid name then throw .badServerName

end ClusterAccess
