import ClusterAccess.Text.Blank

/-!
Addresses on the network. What a request asks for is a path and perhaps a query; a full address
has a scheme and an authority before them. Nothing is decoded: the parts of an address are the
parts of its text. A fragment is dropped.
-/

namespace ClusterAccess

inductive UriFault where
  | empty
  | invalidCharacter
  | invalidAuthority
  | invalidFormat
  | schemeTooLong
  | tooLong
  deriving DecidableEq

def UriFault.message : UriFault → String
  | empty => "empty string"
  | invalidCharacter => "invalid uri character"
  | invalidAuthority => "invalid authority"
  | invalidFormat => "invalid format"
  | schemeTooLong => "scheme too long"
  | tooLong => "uri too long"

structure RequestTarget where
  path : String
  query : Option String
  deriving DecidableEq

namespace RequestTarget

def isPathChar (c : Char) : Bool :=
  let n := c.toNat
  n == 0x21 || n == 0x22 || (0x24 ≤ n && n ≤ 0x3B) || n == 0x3D || (0x40 ≤ n && n ≤ 0x5F) ||
    (0x61 ≤ n && n ≤ 0x7E) || 0x80 ≤ n

def isQueryChar (c : Char) : Bool :=
  let n := c.toNat
  n == 0x21 || (0x24 ≤ n && n ≤ 0x3B) || n == 0x3D || (0x3F ≤ n && n ≤ 0x7E) || 0x80 ≤ n

/-- The path of a text without a fragment ends at the first question mark. -/
def ofChars (cs : List Char) : Except UriFault RequestTarget :=
  let cs := cs.takeWhile (· ≠ '#')
  let path := cs.takeWhile (· ≠ '?')
  let query := match cs.dropWhile (· ≠ '?') with
    | [] => none
    | _ :: query => some query
  if path.all isPathChar && (query.getD []).all isQueryChar then
    .ok ⟨String.ofList path, query.map String.ofList⟩
  else .error .invalidCharacter

end RequestTarget

structure Uri where
  scheme : Option String
  authority : Option String
  target : RequestTarget
  deriving DecidableEq

namespace Uri

def lengthLimit : Nat := 65534

def schemeLimit : Nat := 64

def isSchemeChar (c : Char) : Bool := c.isAlphanum || c ∈ ['+', '-', '.', '~']

def isAuthorityChar (c : Char) : Bool := c.isAlphanum || c ∈ "!$&'()*+,-.:;=@[]_~".toList

/-- What has been seen of an authority: colons that are not in brackets or before an at sign,
brackets, and a percent sign that is in neither of the two places. -/
structure AuthorityScan where
  colons : Nat := 0
  opened : Bool := false
  closed : Bool := false
  percent : Bool := false

def AuthorityScan.step (s : AuthorityScan) (c : Char) : Except UriFault AuthorityScan :=
  if c = ':' then
    if 8 ≤ s.colons then .error .invalidAuthority else .ok { s with colons := s.colons + 1 }
  else if c = '[' then
    if s.percent || s.opened then .error .invalidAuthority else .ok { s with opened := true }
  else if c = ']' then
    if !s.opened || s.closed then .error .invalidAuthority
    else .ok { s with closed := true, colons := 0, percent := false }
  else if c = '@' then .ok { s with colons := 0, percent := false }
  else if c = '%' then .ok { s with percent := true }
  else if isAuthorityChar c then .ok s
  else .error .invalidCharacter

def endsAuthority (c : Char) : Bool := c = '/' || c = '?' || c = '#'

def takeAuthority (cs : List Char) : Except UriFault (List Char × List Char) := do
  let authority := cs.takeWhile (!endsAuthority ·)
  let seen ← authority.foldlM AuthorityScan.step {}
  if seen.opened != seen.closed || 1 < seen.colons || authority.getLast? = some '@' ||
      seen.percent then
    .error .invalidAuthority
  else .ok (authority, cs.dropWhile (!endsAuthority ·))

/-- The scheme at the front of a text, if there is one, and what follows it. Two schemes do not
distinguish letter case. -/
def takeScheme (cs : List Char) : Except UriFault (Option String × List Char) :=
  let scheme := cs.takeWhile isSchemeChar
  match cs.dropWhile isSchemeChar with
  | ':' :: '/' :: '/' :: rest =>
    let word := Text.lowerAscii (String.ofList scheme)
    if word = "http" ∨ word = "https" then .ok (some word, rest)
    else if cs.length ≤ 3 then .ok (none, cs)
    else if schemeLimit < scheme.length then .error .schemeTooLong
    else .ok (some (String.ofList scheme), rest)
  | _ => .ok (none, cs)

def ofChars (cs : List Char) : Except UriFault Uri := do
  let (scheme, rest) ← takeScheme cs
  let (authority, rest) ← takeAuthority rest
  let text := String.ofList authority
  match scheme with
  | none =>
    if rest = [] then .ok ⟨none, some text, ⟨"", none⟩⟩ else .error .invalidFormat
  | some scheme =>
    if authority = [] then .error (if rest = [] then .empty else .invalidFormat)
    else
      let target ← RequestTarget.ofChars rest
      let path := if target.path = "" then "/" else target.path
      .ok ⟨some scheme, some text, { target with path }⟩

def read (s : String) : Except UriFault Uri :=
  if lengthLimit < s.utf8ByteSize then .error .tooLong
  else match s.toList with
    | [] => .error .empty
    | ['*'] => .ok ⟨none, none, ⟨"*", none⟩⟩
    | '/' :: rest => do return ⟨none, none, ← RequestTarget.ofChars ('/' :: rest)⟩
    | [c] => do
      let (_, rest) ← takeAuthority [c]
      if rest = [] then .ok ⟨none, some s, ⟨"", none⟩⟩ else .error .invalidCharacter
    | cs => ofChars cs

def display (u : Uri) : String :=
  (match u.scheme with | some scheme => scheme ++ "://" | none => "") ++ u.authority.getD "" ++
    u.target.path ++ (match u.target.query with | some query => "?" ++ query | none => "")

end Uri

end ClusterAccess
