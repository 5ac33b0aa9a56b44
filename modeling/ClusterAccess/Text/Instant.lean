import ClusterAccess.Text.Decimal
import ClusterAccess.Text.Scan

/-!
The calendar of today carried on to all years, and dates and times of day in the strict notation of
RFC 3339.
-/

namespace ClusterAccess.Calendar

def isLeapYear (year : Int) : Bool := year % 4 = 0 && (year % 100 ≠ 0 || year % 400 = 0)

/-- The number of days of a month; there are none in a month that does not exist. -/
def daysOfMonth (year : Int) (month : Nat) : Nat :=
  if month = 2 then (if isLeapYear year then 29 else 28)
  else if month ∈ [4, 6, 9, 11] then 30
  else if month ∈ [1, 3, 5, 7, 8, 10, 12] then 31
  else 0

/-- The days from the first of January 1970 to the first of January of a year. -/
def daysBefore (year : Int) : Int :=
  let last := year - 1
  365 * (year - 1970) + (last / 4 - last / 100 + last / 400) - 477

/-- The number of a day, counted from the first of January 1970. -/
def dayNumber (year : Int) (month day : Nat) : Int :=
  let months := (List.range (month - 1)).map fun m => daysOfMonth year (m + 1)
  let days : Nat := months.foldl (· + ·) 0
  daysBefore year + days + day - 1

end ClusterAccess.Calendar

namespace ClusterAccess.Text.Instant

def digits (count : Nat) : Scan Nat := fun s =>
  let cs := s.take count
  if cs.length = count ∧ cs.all Char.isDigit then some (digitsValue cs, s.drop count) else none

def digitsUpTo (count most : Nat) : Scan Nat := do
  let n ← digits count
  if n ≤ most then return n else failure

def date : Scan Unit := do
  let year ← digits 4
  Scan.char '-'
  let month ← digits 2
  Scan.char '-'
  let day ← digits 2
  if 1 ≤ day ∧ day ≤ Calendar.daysOfMonth year month then return () else failure

/-- A time of day. A minute may have a leap second. -/
def time : Scan Unit := do
  let _ ← digitsUpTo 2 23
  Scan.char ':'
  let _ ← digitsUpTo 2 59
  Scan.char ':'
  let _ ← digitsUpTo 2 60
  if ← Scan.char? '.' then
    let fraction ← Scan.run Char.isDigit
    if fraction.isEmpty then failure

def joint : Scan Unit := Scan.char 'T' <|> Scan.char 't' <|> Scan.char ' '

def zone : Scan Unit :=
  Scan.char 'Z' <|> Scan.char 'z' <|> do
    Scan.char '+' <|> Scan.char '-'
    let _ ← digitsUpTo 2 23
    Scan.char ':'
    let _ ← digitsUpTo 2 59

/-- A zone may be missing; one that is begun has to be whole. -/
def zoneIfAny : Scan Unit := do
  match ← Scan.peek with
  | some c => if c ∈ ['Z', 'z', '+', '-'] then zone else return ()
  | none => return ()

end ClusterAccess.Text.Instant
