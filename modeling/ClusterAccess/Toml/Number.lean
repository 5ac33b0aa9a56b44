import ClusterAccess.Text.Instant
import ClusterAccess.Toml.Table

/-!
Numbers, dates and times of TOML. Integers have 64 bits, and no float may be too large.
-/

namespace ClusterAccess.Toml

open Text

/-- The digits of a number in which single underscores may stand between digits. -/
def underscored? (isDigit : Char → Bool) : List Char → Option (List Char)
  | [] => none
  | [c] => if isDigit c then some [c] else none
  | c :: '_' :: rest => if isDigit c then (underscored? isDigit rest).map (c :: ·) else none
  | c :: rest => if isDigit c then (underscored? isDigit rest).map (c :: ·) else none

def isDigitOrUnderscore (c : Char) : Bool := c.isDigit || c = '_'

def based? (base : Nat) (cs : List Char) : Option Toml := do
  let digits ← underscored? (fun c => (hexValue? c).any (· < base)) cs
  let n := digits.foldl (fun n c => base * n + (hexValue? c).getD 0) 0
  if n < Nat.pow 2 63 then some (integer n) else none

def exponent? (cs : List Char) : Option Int := do
  let (negative, unsigned) : Bool × List Char := match cs with
    | '-' :: rest => (true, rest)
    | '+' :: rest => (false, rest)
    | rest => (false, rest)
  let n : Int := digitsValue (← underscored? Char.isDigit unsigned)
  return if negative then -n else n

def decimal? (negative : Bool) (cs : List Char) : Option Toml := do
  let whole ← underscored? Char.isDigit (cs.takeWhile isDigitOrUnderscore)
  if whole.head? = some '0' ∧ whole.length ≠ 1 then none
  let written := String.ofList (if negative then '-' :: cs else cs)
  let checked (digits : Nat) (exponent : Int) : Option Toml :=
    if negative || isFinite digits exponent then some (float written) else none
  match cs.dropWhile isDigitOrUnderscore with
  | [] =>
    let n : Int := digitsValue whole
    let n := if negative then -n else n
    if -Int.pow 2 63 ≤ n ∧ n < Int.pow 2 63 then some (integer n) else none
  | '.' :: rest =>
    let places ← underscored? Char.isDigit (rest.takeWhile isDigitOrUnderscore)
    let exponent ← match rest.dropWhile isDigitOrUnderscore with
      | [] => some 0
      | c :: rest => if c = 'e' ∨ c = 'E' then exponent? rest else none
    checked (digitsValue (whole ++ places)) (exponent - places.length)
  | c :: rest =>
    if c = 'e' ∨ c = 'E' then checked (digitsValue whole) (← exponent? rest) else none

def number? (cs : List Char) : Option Toml :=
  match cs with
  | '0' :: 'x' :: rest => based? 16 rest
  | '0' :: 'o' :: rest => based? 8 rest
  | '0' :: 'b' :: rest => based? 2 rest
  | _ =>
    let (negative, unsigned) : Bool × List Char := match cs with
      | '-' :: rest => (true, rest)
      | '+' :: rest => (false, rest)
      | rest => (false, rest)
    if unsigned = ['i', 'n', 'f'] ∨ unsigned = ['n', 'a', 'n'] then
      some (float (String.ofList cs))
    else decimal? negative unsigned

def isNumberChar (c : Char) : Bool :=
  c.isAlphanum || c = '+' || c = '-' || c = '.' || c = '_'

/-- The number that the text writes, if it is at most `limit`. -/
def readNumber : Scan Toml := do
  let cs ← Scan.run isNumberChar
  match number? cs with
  | some v => return v
  | none => failure

def readTimeOfDay : Scan Unit := do
  Instant.joint
  Instant.time
  Instant.zoneIfAny

def readDateTime : Scan Toml := do
  let written ← Scan.taken ((do Instant.date; readTimeOfDay <|> pure ()) <|> Instant.time)
  return dateTime (String.ofList written)

end ClusterAccess.Toml
