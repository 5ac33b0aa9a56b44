import ClusterAccess.Text.Decimal

/-!
Strings of TOML. There are two kinds of quotes: between double quotes a backslash begins an
escape, between single quotes every character stands for itself. Either kind can be tripled, and
the string may then go over several lines.
-/

namespace ClusterAccess.Toml

structure Quoting where
  mark : Char
  escapes : Bool

def Quoting.basic : Quoting := ⟨'"', true⟩
def Quoting.literal : Quoting := ⟨'\'', false⟩

/-- The characters that a string or a comment may hold as they are. -/
def isPlain (c : Char) : Bool := c = '\t' || (0x20 ≤ c.toNat && c.toNat ≠ 0x7F)

def shortEscape? (c : Char) : Option Char :=
  if c = '"' || c = '\\' then some c
  else if c = 'b' then some '\x08'
  else if c = 'f' then some '\x0c'
  else if c = 'n' then some '\n'
  else if c = 'r' then some '\r'
  else if c = 't' then some '\t'
  else none

def scalar? (n : Nat) : Option Char := if n.isValidChar then some (Char.ofNat n) else none

inductive Place where
  | plain
  | backslash
  | code (left value : Nat)
  | lineEnd
  | indent
  | marks (count : Nat)

/-- The place after a backslash and a character, with what the two stand for if that is clear. -/
def afterBackslash (c : Char) : Option (Place × List Char) :=
  if c = 'u' then some (.code 4 0, [])
  else if c = 'U' then some (.code 8 0, [])
  else (shortEscape? c).map fun e => (.plain, [e])

def afterCodeDigit (left value : Nat) (c : Char) : Option (Place × List Char) :=
  match Text.hexValue? c with
  | none => none
  | some d =>
    if left ≤ 1 then (scalar? (16 * value + d)).map fun e => (.plain, [e])
    else some (.code (left - 1) (16 * value + d), [])

/-- The text and what follows it, with some characters put in front of the text. -/
def putBack (cs : List Char) (read : Option (List Char × List Char)) :
    Option (List Char × List Char) :=
  read.map fun (text, rest) => (cs ++ text, rest)

/-- What stands before the closing mark on one line, and what follows it. -/
def lineText (q : Quoting) (place : Place) : List Char → Option (List Char × List Char)
  | [] => none
  | c :: rest => match place with
    | .plain =>
      if c = q.mark then some ([], rest)
      else if q.escapes && c = '\\' then lineText q .backslash rest
      else if isPlain c then putBack [c] (lineText q .plain rest)
      else none
    | .backslash => match afterBackslash c with
      | some (next, made) => putBack made (lineText q next rest)
      | none => none
    | .code left value => match afterCodeDigit left value c with
      | some (next, made) => putBack made (lineText q next rest)
      | none => none
    | _ => none

/-- A character of a string of several lines that is no closing mark and in no escape. -/
def blockStep (q : Quoting) (c : Char) : Option (Place × List Char) :=
  if q.escapes && c = '\\' then some (.backslash, [])
  else if c = '\n' || isPlain c then some (.plain, [c])
  else none

/-- What stands before three closing marks, and what follows them. One or two more marks belong
to the text. A backslash at the end of a line takes all white space after it away. -/
def blockText (q : Quoting) (place : Place) : List Char → Option (List Char × List Char)
  | [] => match place with
    | .marks n => if 3 ≤ n then some (List.replicate (n - 3) q.mark, []) else none
    | _ => none
  | c :: rest =>
    let go (before : List Char) (step : Option (Place × List Char)) :=
      match step with
      | some (next, made) => putBack (before ++ made) (blockText q next rest)
      | none => none
    let start := if c = q.mark then some (Place.marks 1, []) else blockStep q c
    match place with
    | .plain => go [] start
    | .marks n =>
      if c = q.mark then (if n < 5 then go [] (some (.marks (n + 1), [])) else none)
      else if 3 ≤ n then some (List.replicate (n - 3) q.mark, c :: rest)
      else go (List.replicate n q.mark) start
    | .backslash =>
      if c = '\n' then go [] (some (.indent, []))
      else if c = ' ' || c = '\t' then go [] (some (.lineEnd, []))
      else go [] (afterBackslash c)
    | .code left value => go [] (afterCodeDigit left value c)
    | .lineEnd =>
      if c = '\n' then go [] (some (.indent, []))
      else if c = ' ' || c = '\t' then go [] (some (.lineEnd, []))
      else none
    | .indent =>
      if c = '\n' || c = ' ' || c = '\t' then go [] (some (.indent, [])) else go [] start

end ClusterAccess.Toml
