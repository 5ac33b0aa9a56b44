/-!
Texts as bytes. A text in UTF-8 that is not well formed is refused with the place of the first byte
that belongs to no character, and with how many bytes there look like the beginning of one. In the
form encoding of query values ASCII letters, digits and four marks stand for themselves, a space is
a plus sign, and every other byte is a percent sign with two hexadecimal digits.
-/

namespace ClusterAccess.Text

inductive Malformed where
  | invalid (length index : Nat)
  | incomplete (index : Nat)
  deriving DecidableEq

def Malformed.message : Malformed → String
  | .invalid length index =>
    "invalid utf-8 sequence of " ++ toString length ++ " bytes from index " ++ toString index
  | .incomplete index => "incomplete utf-8 byte sequence from index " ++ toString index

namespace Utf8

def encode (cs : List Char) : List UInt8 := cs.flatMap String.utf8EncodeChar

/-- For the first byte of a character of several bytes: how many bytes follow it, and between
which bounds the second byte lies. -/
def lead (b : UInt8) : Option (Nat × UInt8 × UInt8) :=
  if b < 0xC2 then none
  else if b ≤ 0xDF then some (1, 0x80, 0xBF)
  else if b = 0xE0 then some (2, 0xA0, 0xBF)
  else if b = 0xED then some (2, 0x80, 0x9F)
  else if b ≤ 0xEF then some (2, 0x80, 0xBF)
  else if b = 0xF0 then some (3, 0x90, 0xBF)
  else if b ≤ 0xF3 then some (3, 0x80, 0xBF)
  else if b = 0xF4 then some (3, 0x80, 0x8F)
  else none

def isTail (b : UInt8) : Bool := 0x80 ≤ b && b ≤ 0xBF

def low (b : UInt8) : Nat := b.toNat % 64

def decodeFrom (index : Nat) : List UInt8 → Except Malformed (List Char)
  | [] => .ok []
  | a :: rest =>
    if a < 0x80 then (Char.ofNat a.toNat :: ·) <$> decodeFrom (index + 1) rest
    else match lead a with
      | none => .error (.invalid 1 index)
      | some (tails, least, most) => match rest with
        | [] => .error (.incomplete index)
        | b :: rest =>
          if b < least || most < b then .error (.invalid 1 index)
          else if tails = 1 then
            (Char.ofNat (a.toNat % 32 * 64 + low b) :: ·) <$> decodeFrom (index + 2) rest
          else match rest with
            | [] => .error (.incomplete index)
            | c :: rest =>
              if !isTail c then .error (.invalid 2 index)
              else if tails = 2 then
                (Char.ofNat ((a.toNat % 16 * 64 + low b) * 64 + low c) :: ·) <$>
                  decodeFrom (index + 3) rest
              else match rest with
                | [] => .error (.incomplete index)
                | d :: rest =>
                  if !isTail d then .error (.invalid 3 index)
                  else
                    (Char.ofNat (((a.toNat % 8 * 64 + low b) * 64 + low c) * 64 + low d) :: ·) <$>
                      decodeFrom (index + 4) rest

def decode (bytes : List UInt8) : Except Malformed (List Char) := decodeFrom 0 bytes

def text? (bytes : List UInt8) : Option String :=
  match decode bytes with
  | .ok cs => some (String.ofList cs)
  | .error _ => none

/-- What stands for bytes that belong to no character. -/
def replacement : Char := '\uFFFD'

/-- The text of bytes of which at most `most` sequences are not well formed. -/
def repairedUpTo : (most : Nat) → List UInt8 → List Char
  | 0, _ => []
  | most + 1, bytes =>
    let before (index : Nat) : List Char := (decode (bytes.take index)).toOption.getD []
    match decode bytes with
    | .ok cs => cs
    | .error (.incomplete index) => before index ++ [replacement]
    | .error (.invalid length index) =>
      before index ++ replacement :: repairedUpTo most (bytes.drop (index + length))

/-- The text of bytes, in which a sequence that is not well formed is replaced. -/
def repaired (bytes : List UInt8) : String := String.ofList (repairedUpTo (bytes.length + 1) bytes)

/-- The first character of bytes that begin with one, and how many bytes it takes. -/
def first? (bytes : List UInt8) : Option (Char × Nat) :=
  [1, 2, 3, 4].findSome? fun size => match decode (bytes.take size) with
    | .ok [c] => some (c, size)
    | _ => none

end Utf8

end ClusterAccess.Text

namespace ClusterAccess.Text.Form

def hexDigit (n : Nat) : Char := if n < 10 then Char.ofNat (48 + n) else Char.ofNat (55 + n)

def isPlain (b : UInt8) : Bool :=
  let c := Char.ofNat b.toNat
  b < 0x80 && (c.isAlphanum || c = '*' || c = '-' || c = '.' || c = '_')

def encodeByte (b : UInt8) : List Char :=
  if isPlain b then [Char.ofNat b.toNat]
  else if b = 0x20 then ['+']
  else ['%', hexDigit (b.toNat / 16), hexDigit (b.toNat % 16)]

def encode (s : String) : String :=
  String.ofList ((Utf8.encode s.toList).flatMap encodeByte)

end ClusterAccess.Text.Form
