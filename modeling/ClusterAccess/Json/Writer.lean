import ClusterAccess.Json.Basic

/-!
Two written forms of a JSON value: the compact one of request bodies, and the indented one that
the command line prints. Strings show every character except the quote, the backslash and the
control characters below the space.
-/

namespace ClusterAccess.Json

def hexDigit (n : Nat) : Char := if n < 10 then Char.ofNat (48 + n) else Char.ofNat (87 + n)

def writeChar (c : Char) : List Char :=
  if c = '"' then ['\\', '"']
  else if c = '\\' then ['\\', '\\']
  else if c = '\n' then ['\\', 'n']
  else if c = '\r' then ['\\', 'r']
  else if c = '\t' then ['\\', 't']
  else if c = '\x08' then ['\\', 'b']
  else if c = '\x0c' then ['\\', 'f']
  else if c.toNat < 0x20 then
    ['\\', 'u', '0', '0', hexDigit (c.toNat / 16), hexDigit (c.toNat % 16)]
  else [c]

def writeText (s : String) : List Char := '"' :: s.toList.flatMap writeChar ++ ['"']

def writeInt (n : Int) : List Char :=
  if n < 0 then '-' :: Nat.toDigits 10 n.natAbs else Nat.toDigits 10 n.natAbs

mutual

def write : Json → List Char
  | null => ['n', 'u', 'l', 'l']
  | bool true => ['t', 'r', 'u', 'e']
  | bool false => ['f', 'a', 'l', 's', 'e']
  | int n => writeInt n
  | real w => w.toList
  | str s => writeText s
  | arr items => '[' :: writeItems items ++ [']']
  | obj fields => '\x7b' :: writeFields fields ++ ['\x7d']

def writeItems : List Json → List Char
  | [] => []
  | [v] => v.write
  | v :: w :: rest => v.write ++ ',' :: writeItems (w :: rest)

def writeFields : List (String × Json) → List Char
  | [] => []
  | [(k, v)] => writeText k ++ ':' :: v.write
  | (k, v) :: f :: rest => writeText k ++ ':' :: v.write ++ ',' :: writeFields (f :: rest)

end

def compact (v : Json) : String := String.ofList v.write

def newline (depth : Nat) : List Char := '\n' :: List.replicate (2 * depth) ' '

mutual

def indent (depth : Nat) : Json → List Char
  | arr [] => ['[', ']']
  | arr (v :: rest) => '[' :: indentItems (depth + 1) (v :: rest) ++ newline depth ++ [']']
  | obj [] => ['\x7b', '\x7d']
  | obj (f :: rest) =>
    '\x7b' :: indentFields (depth + 1) (f :: rest) ++ newline depth ++ ['\x7d']
  | null => ['n', 'u', 'l', 'l']
  | bool true => ['t', 'r', 'u', 'e']
  | bool false => ['f', 'a', 'l', 's', 'e']
  | int n => writeInt n
  | real w => w.toList
  | str s => writeText s

def indentItems (depth : Nat) : List Json → List Char
  | [] => []
  | [v] => newline depth ++ v.indent depth
  | v :: w :: rest => newline depth ++ v.indent depth ++ ',' :: indentItems depth (w :: rest)

def indentFields (depth : Nat) : List (String × Json) → List Char
  | [] => []
  | [(k, v)] => newline depth ++ writeText k ++ ':' :: ' ' :: v.indent depth
  | (k, v) :: f :: rest =>
    newline depth ++ writeText k ++ ':' :: ' ' :: v.indent depth ++
      ',' :: indentFields depth (f :: rest)

end

def pretty (v : Json) : String := String.ofList (v.indent 0)

end ClusterAccess.Json
