/-!
The characters of a YAML text, each with its place. Lines end with a line feed, a carriage return
or both, a next-line character, or a line or paragraph separator; all but the last two become a
line feed. After the last character stands a null, which no text holds.
-/

namespace ClusterAccess.Yaml

structure Placed where
  char : Char
  index : Nat
  line : Nat
  column : Nat

def isBreak (c : Char) : Bool := c = '\n' || c = '\u2028' || c = '\u2029'

def isBlank (c : Char) : Bool := c = ' ' || c = '\t'

def isEnd (c : Char) : Bool := c = '\x00'

def isBreakOrEnd (c : Char) : Bool := isBreak c || isEnd c

def isGap (c : Char) : Bool := isBlank c || isBreakOrEnd c

def isNameChar (c : Char) : Bool := c.isAlphanum || c = '_' || c = '-'

def isAllowed (c : Char) : Bool :=
  let n := c.toNat
  n == 0x9 || n == 0xA || n == 0xD || (0x20 ≤ n && n ≤ 0x7E) || n == 0x85 ||
    (0xA0 ≤ n && n ≤ 0xFFFD) || 0x10000 ≤ n

/-- The characters placed so far, newest first, and the place of the next one. -/
structure Placing where
  done : List Placed := []
  index : Nat := 0
  line : Nat := 0
  column : Nat := 0
  afterReturn : Bool := false

namespace Placing

def push (p : Placing) (c : Char) : Placing :=
  let placed := ⟨c, p.index, p.line, p.column⟩ :: p.done
  if isBreak c then ⟨placed, p.index + 1, p.line + 1, 0, false⟩
  else ⟨placed, p.index + 1, p.line, p.column + 1, false⟩

def step (p : Placing) (c : Char) : Placing :=
  if c = '\n' && p.afterReturn then { p with index := p.index + 1, afterReturn := false }
  else if c = '\r' then { p.push '\n' with afterReturn := true }
  else if c = '\u0085' then p.push '\n'
  else p.push c

end Placing

/-- The characters of a text with their places, if all of them are allowed. -/
def placed? (cs : List Char) : Option (List Placed) :=
  if cs.all isAllowed then some ((cs.foldl Placing.step {}).push '\x00').done.reverse else none

/-- Whether the characters are at a mark of three hyphens or three dots that stands alone at the
beginning of a line. -/
def atMark (mark : Char) : List Placed → Bool
  | a :: b :: c :: d :: _ =>
    a.column == 0 && a.char == mark && b.char == mark && c.char == mark && isGap d.char
  | _ => false

def atDocumentMark (cs : List Placed) : Bool := atMark '-' cs || atMark '.' cs

def nextIs (p : Char → Bool) : List Placed → Bool
  | c :: _ => p c.char
  | [] => false

def skipWhile (p : Char → Bool) (cs : List Placed) : List Placed := cs.dropWhile (p ·.char)

/-- Leaves out blanks and a comment up to the end of the line, where there must be nothing else. -/
def skipToLineEnd? (cs : List Placed) : Option (List Placed) :=
  let cs := skipWhile isBlank cs
  let cs := if nextIs (· = '#') cs then skipWhile (!isBreakOrEnd ·) cs else cs
  match cs with
  | c :: rest => if isBreak c.char then some rest else if isEnd c.char then some cs else none
  | [] => none

end ClusterAccess.Yaml
