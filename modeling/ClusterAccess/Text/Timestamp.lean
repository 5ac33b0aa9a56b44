import ClusterAccess.Text.Blank
import ClusterAccess.Text.Instant

/-!
Moments in the notation of RFC 3339, read leniently: numbers may have fewer digits, white space may
stand around the marks between them, a year may have a sign and then more digits, and a zone may
be written without a colon.
-/

namespace ClusterAccess.Text

inductive TimestampFault where
  | outOfRange
  | impossible
  | invalid
  | tooShort
  | tooLong
  deriving DecidableEq

def TimestampFault.message : TimestampFault → String
  | outOfRange => "input is out of range"
  | impossible => "no possible date and time matching input"
  | invalid => "input contains invalid characters"
  | tooShort => "premature end of input"
  | tooLong => "trailing input"

namespace Timestamp

/-- Readers that take what they read off the front of a text, or tell what is wrong. -/
abbrev Read := StateT (List Char) (Except TimestampFault)

def skipBlanks : Read Unit := modify (·.dropWhile isBlank)

def numberLimit : Nat := Nat.pow 2 63 - 1

/-- A number of one or more digits, of which at most so many are taken. -/
def number (most : Option Nat) : Read Nat := do
  let cs ← get
  let digits := match most with
    | some n => (cs.take n).takeWhile Char.isDigit
    | none => cs.takeWhile Char.isDigit
  if cs.isEmpty then throw .tooShort
  else if digits.isEmpty then throw .invalid
  else if numberLimit < digitsValue digits then throw .outOfRange
  else
    set (cs.drop digits.length)
    return digitsValue digits

def mark (c : Char) : Read Unit := do
  skipBlanks
  match ← get with
  | [] => throw .tooShort
  | d :: rest => if d = c then set rest else throw .invalid

def part (least most : Nat) : Read Nat := do
  skipBlanks
  let n ← number (some 2)
  if least ≤ n ∧ n ≤ most then return n else throw .outOfRange

/-- A year of at most four digits, or with a sign and then any number of them. -/
def year : Read Int := do
  skipBlanks
  let y : Int ← match ← get with
    | '-' :: rest => do set rest; return -(← number none : Nat)
    | '+' :: rest => do set rest; number none
    | _ => number (some 4)
  if -Int.pow 2 31 ≤ y ∧ y < Int.pow 2 31 then return y else throw .outOfRange

def joint : Read Unit := do
  match ← get with
  | [] => throw .tooShort
  | c :: rest => if c = 'T' ∨ c = 't' ∨ c = ' ' then set rest else throw .invalid

/-- The fraction of a second, which is left out. -/
def fraction : Read Unit := do
  match ← get with
  | '.' :: rest =>
    set rest
    let _ ← number (some 9)
    modify (·.dropWhile Char.isDigit)
  | _ => return ()

def pair (most : Nat) : Read Nat := do
  match ← get with
  | a :: b :: rest =>
    if a.isDigit && b.isDigit then
      let n := digitsValue [a, b]
      if n ≤ most then set rest; return n else throw .outOfRange
    else throw .invalid
  | [c] => if c.toNat < 0x80 then throw .tooShort else throw .invalid
  | [] => throw .tooShort

def offset : Read Nat := do
  let hours ← pair 99
  modify (·.dropWhile fun c => c = ':' || isBlank c)
  let minutes ← pair 59
  return hours * 3600 + minutes * 60

/-- How many seconds a zone is ahead of universal time. -/
def zone : Read Int := do
  skipBlanks
  match ← get with
  | [] => throw .tooShort
  | c :: rest =>
    if lowerAscii (String.ofList ((c :: rest).take 3)) = "utc" then set (rest.drop 2); return 0
    else
      set rest
      if c = 'Z' ∨ c = 'z' then return 0
      else if c = '+' then offset
      else if c = '-' ∨ c = '\u2212' then return -(← offset : Nat)
      else throw .invalid

def firstYear : Int := -262143

def lastYear : Int := 262142

open Calendar in
def read : Read Int := do
  let y ← year
  mark '-'
  let month ← part 1 12
  mark '-'
  let day ← part 1 31
  joint
  let hour ← part 0 23
  mark ':'
  let minute ← part 0 59
  mark ':'
  let second ← part 0 60
  fraction
  let ahead ← zone
  skipBlanks
  if !(← get).isEmpty then throw .tooLong
  if daysOfMonth y month < day ∨ y < firstYear ∨ lastYear < y ∨ 86400 ≤ ahead.natAbs then
    throw .outOfRange
  let moment := dayNumber y month day * 86400 + hour * 3600 + minute * 60 + min second 59 - ahead
  if moment < daysBefore firstYear * 86400 ∨ daysBefore (lastYear + 1) * 86400 ≤ moment then
    throw .impossible
  return moment

end Timestamp

/-- The moment that a text writes, in seconds since the first moment of 1970. -/
def readTimestamp (s : String) : Except TimestampFault Int :=
  (Timestamp.read s.toList).map (·.1)

end ClusterAccess.Text
