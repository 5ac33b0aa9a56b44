import ClusterAccess.Text.Decimal
import ClusterAccess.Text.Scan

/-!
The texts that are IPv6 addresses: eight groups of hexadecimal digits, of which a run may be left
out once and the last two may be written as an IPv4 address.
-/

namespace ClusterAccess.Ipv6

def parts (mark : Char) (cs : List Char) : List (List Char) :=
  cs.foldr (fun c done => match done with
    | [] => [[c]]
    | part :: rest => if c = mark then [] :: part :: rest else (c :: part) :: rest) [[]]

def isGroup (cs : List Char) : Bool :=
  cs ≠ [] && cs.length ≤ 4 && cs.all fun c => (Text.hexValue? c).isSome

def isOctet (cs : List Char) : Bool :=
  cs ≠ [] && cs.length ≤ 3 && cs.all Char.isDigit && (cs.length = 1 || cs.head? ≠ some '0') &&
    Text.digitsValue cs ≤ 255

def isIpv4 (cs : List Char) : Bool :=
  let octets := parts '.' cs
  octets.length = 4 && octets.all isOctet

/-- The number of groups that the text writes, which may end in an IPv4 address. -/
def groupCount (mayEndInIpv4 : Bool) (cs : List Char) : Option Nat :=
  if cs = [] then some 0
  else
    let groups := parts ':' cs
    let last := groups.getLast?.getD []
    if mayEndInIpv4 && isIpv4 last && groups.dropLast.all isGroup then some (groups.length + 1)
    else if groups.all isGroup then some groups.length
    else none

def splitAtGap : List Char → Option (List Char × List Char)
  | [] => none
  | ':' :: ':' :: rest => some ([], rest)
  | c :: rest => (splitAtGap rest).map fun (before, after) => (c :: before, after)

def isAddress (cs : List Char) : Bool :=
  match splitAtGap cs with
  | none => groupCount true cs = some 8
  | some (before, after) =>
    match groupCount false before, groupCount true after with
    | some m, some n => m + n ≤ 7
    | _, _ => false

end ClusterAccess.Ipv6
