import ClusterAccess.Text.Blank
import ClusterAccess.Text.Utf8

/-!
Header names and values of a request. Names do not distinguish letter case. A value is bytes; it
can also be looked at as a text if all its bytes are visible ASCII, spaces or tabs.
-/

namespace ClusterAccess

def isTokenChar (c : Char) : Bool := c.isAlphanum || c ∈ "!#$%&'*+-.^_`|~".toList

structure HeaderName where
  text : String
  deriving DecidableEq

def HeaderName.lengthLimit : Nat := 65535

def HeaderName.ofText? (s : String) : Option HeaderName :=
  let cs := s.toList
  if cs ≠ [] ∧ cs.length ≤ lengthLimit ∧ cs.all isTokenChar then some ⟨Text.lowerAscii s⟩
  else none

abbrev HeaderValue := List UInt8

namespace HeaderValue

/-- Whether a byte may be sent in a header value: no control byte but the tab. -/
def isSendableByte (b : UInt8) : Bool := b = 9 || (0x20 ≤ b && b ≠ 0x7F)

def isVisibleByte (b : UInt8) : Bool := b = 9 || (0x20 ≤ b && b ≤ 0x7E)

def notSendable : String := "failed to parse header value"

def ofText (s : String) : HeaderValue := Text.Utf8.encode s.toList

def ofText? (s : String) : Option HeaderValue :=
  if (ofText s).all isSendableByte then some (ofText s) else none

def visible? (v : HeaderValue) : Option String :=
  if v.all isVisibleByte then some (String.ofList (v.map fun b => Char.ofNat b.toNat)) else none

end HeaderValue

/-- The headers of one request in their order. A name may be there several times. -/
abbrev Headers := List (HeaderName × HeaderValue)

/-- The first value under a name. -/
def Headers.first? (headers : Headers) (name : HeaderName) : Option HeaderValue :=
  headers.lookup name

end ClusterAccess
