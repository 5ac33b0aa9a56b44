import ClusterAccess.Text.Printable
import ClusterAccess.Text.Utf8

/-!
Written forms of a text that show every character. The escaped form stands inside messages, the
quoted form inside records. They differ in the single quote and in characters that extend the one
before them. Bytes that need not be a text have a quoted form too.
-/

namespace ClusterAccess.Text

def hexText (n : Nat) : List Char := Nat.toDigits 16 n

def codePointEscape (c : Char) : List Char :=
  ['\\', 'u', '\x7b'] ++ hexText c.toNat ++ ['\x7d']

/-- The written form of one character. `extenders` and `apostrophe` say whether a character that
extends the one before it and a single quote are escaped. -/
def escapeChar (extenders apostrophe : Bool) (c : Char) : List Char :=
  if c = '\x00' then ['\\', '0']
  else if c = '\t' then ['\\', 't']
  else if c = '\r' then ['\\', 'r']
  else if c = '\n' then ['\\', 'n']
  else if c = '\\' then ['\\', '\\']
  else if c = '"' then ['\\', '"']
  else if c = '\'' then (if apostrophe then ['\\', '\''] else ['\''])
  else if (extenders && extendsGrapheme c) || !isPrintable c then codePointEscape c
  else [c]

/-- The form inside a message: a character that extends the one before it is escaped only where
there is none before it. -/
def escape (s : String) : String :=
  match s.toList with
  | [] => ""
  | c :: cs => String.ofList (escapeChar true true c ++ cs.flatMap (escapeChar false true))

/-- The form inside a record: in double quotes, with single quotes as they are. -/
def quote (s : String) : String :=
  String.ofList ('"' :: s.toList.flatMap (escapeChar true false) ++ ['"'])

def byteEscape (b : UInt8) : List Char :=
  ['\\', 'x'] ++ (hexText (b.toNat / 16) ++ hexText (b.toNat % 16)).map Char.toUpper

/-- The quoted form of bytes without the quotes. The first `skipped` bytes have been shown. -/
def quoteBytesFrom (skipped : Nat) : List UInt8 → List Char
  | [] => []
  | b :: rest => match skipped with
    | skipped + 1 => quoteBytesFrom skipped rest
    | 0 => match Utf8.first? (b :: rest) with
      | some (c, size) => escapeChar true false c ++ quoteBytesFrom (size - 1) rest
      | none => byteEscape b ++ quoteBytesFrom 0 rest

/-- The form inside a record of bytes that may be a text: characters as in a text, and every other
byte by its number. -/
def quoteBytes (bytes : List UInt8) : String :=
  String.ofList ('"' :: quoteBytesFrom 0 bytes ++ ['"'])

/-! ### Records: the name and the fields in order, each with its value, in braces -/

def recordFields (fields : List (String × String)) : String :=
  String.intercalate ", " (fields.map fun (name, value) => name ++ ": " ++ value)

def record (name : String) (fields : List (String × String)) : String :=
  name ++ " \x7b " ++ recordFields fields ++ " \x7d"

def partialRecord (name : String) (fields : List (String × String)) : String :=
  if fields.isEmpty then name ++ " \x7b .. \x7d"
  else name ++ " \x7b " ++ recordFields fields ++ ", .. \x7d"

def wrapped (name value : String) : String := name ++ "(" ++ value ++ ")"

def optional (show? : α → String) : Option α → String
  | none => "None"
  | some a => wrapped "Some" (show? a)

def truth : Bool → String
  | true => "true"
  | false => "false"

end ClusterAccess.Text
