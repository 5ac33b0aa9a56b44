import ClusterAccess.Text.Decimal
import ClusterAccess.Yaml.Character

/-!
The notations of scalars: between quotes, plain, and as a block of lines. In the first two, and in
folded blocks, single line breaks become spaces.
-/

namespace ClusterAccess.Yaml

/-- A text that is being read, newest character first, with the white space after it: blanks on the
same line, or else the first line break and those that follow it. -/
structure Folding where
  text : List Char := []
  blanks : List Char := []
  first : Option (List Char) := none
  more : List Char := []

namespace Folding

def blank (f : Folding) (c : Char) : Folding :=
  if f.first.isSome then f else { f with blanks := c :: f.blanks }

def lineBreak (f : Folding) (c : Char) : Folding :=
  match f.first with
  | none => { f with blanks := [], first := some [c] }
  | some _ => { f with more := c :: f.more }

def settle (f : Folding) : Folding :=
  match f.first with
  | none => { text := f.blanks ++ f.text }
  | some ['\n'] => { text := (if f.more.isEmpty then [' '] else f.more) ++ f.text }
  | some first => { text := f.more ++ first ++ f.text }

def push (f : Folding) (c : Char) : Folding := { f with text := c :: f.text }

def isPending (f : Folding) : Bool := f.first.isSome || !f.blanks.isEmpty

def result (f : Folding) : String := String.ofList f.text.reverse

end Folding

def escape? (c : Char) : Option Char :=
  [('0', '\x00'), ('a', '\x07'), ('b', '\x08'), ('t', '\t'), ('\t', '\t'), ('n', '\n'),
    ('v', '\x0b'), ('f', '\x0c'), ('r', '\r'), ('e', '\x1b'), (' ', ' '), ('"', '"'), ('/', '/'),
    ('\\', '\\'), ('N', '\u0085'), ('_', '\u00a0'), ('L', '\u2028'), ('P', '\u2029')].lookup c

/-- The number of hexadecimal digits that follow a letter after a backslash. -/
def codeLength? (c : Char) : Option Nat := [('x', 2), ('u', 4), ('U', 8)].lookup c

def isScalarValue (n : Nat) : Bool := n < 0xD800 || (0xDFFF < n && n ≤ 0x10FFFF)

/-- The text up to the closing double quote. `left` digits of a code are still to come, after those
that make up `code`. -/
def doubleQuoted? (f : Folding) (left code : Nat) :
    List Placed → Option (String × List Placed)
  | [] => none
  | p :: rest => match left with
    | left + 1 => match Text.hexValue? p.char with
      | none => none
      | some d =>
        let code := 16 * code + d
        if left ≠ 0 then doubleQuoted? f left code rest
        else if isScalarValue code then doubleQuoted? (f.push (Char.ofNat code)) 0 0 rest
        else none
    | 0 =>
      if isEnd p.char || atDocumentMark (p :: rest) then none
      else if isBlank p.char then doubleQuoted? (f.blank p.char) 0 0 rest
      else if isBreak p.char then doubleQuoted? (f.lineBreak p.char) 0 0 rest
      else
        let f := f.settle
        if p.char = '"' then some (f.result, rest)
        else if p.char ≠ '\\' then doubleQuoted? (f.push p.char) 0 0 rest
        else match rest with
          | [] => none
          | e :: rest =>
            if isBreak e.char then doubleQuoted? { f with first := some [] } 0 0 rest
            else match escape? e.char, codeLength? e.char with
              | some c, _ => doubleQuoted? (f.push c) 0 0 rest
              | none, some length => doubleQuoted? f length 0 rest
              | none, none => none

/-- The text up to the closing single quote. A quote in the text is written twice. -/
def singleQuoted? (f : Folding) : List Placed → Option (String × List Placed)
  | [] => none
  | p :: rest =>
    if isEnd p.char || atDocumentMark (p :: rest) then none
    else if isBlank p.char then singleQuoted? (f.blank p.char) rest
    else if isBreak p.char then singleQuoted? (f.lineBreak p.char) rest
    else
      let f := f.settle
      if p.char ≠ '\'' then singleQuoted? (f.push p.char) rest
      else match rest with
        | [] => none
        | q :: after =>
          if q.char = '\'' then singleQuoted? (f.push '\'') after else some (f.result, q :: after)

def isFlowMark (c : Char) : Bool := c ∈ [',', '[', ']', '\x7b', '\x7d']

/-- Whether a plain scalar ends before this character, with white space before it or not. -/
def endsPlain (inFlow : Bool) (indent : Int) (afterGap : Bool) (cs : List Placed) : Bool :=
  match cs with
  | [] => true
  | p :: rest =>
    isEnd p.char || (p.char = ':' && nextIs isGap rest) || (inFlow && isFlowMark p.char) ||
      (afterGap && (p.char = '#' || (!inFlow && p.column < indent) || atDocumentMark cs))

/-- A plain scalar and what follows it. The continuation lines of a scalar in a block are indented
at least to `indent`. -/
def plain? (inFlow : Bool) (indent : Int) (f : Folding) :
    List Placed → Option (Folding × List Placed)
  | [] => some (f, [])
  | p :: rest =>
    if p.char = '\t' && f.first.isSome && p.column < indent then none
    else if isBlank p.char then plain? inFlow indent (f.blank p.char) rest
    else if isBreak p.char then plain? inFlow indent (f.lineBreak p.char) rest
    else if endsPlain inFlow indent f.isPending (p :: rest) then some (f, p :: rest)
    else if inFlow && p.char = ':' && nextIs (fun c => isFlowMark c || c = '?') rest then none
    else plain? inFlow indent (f.settle.push p.char) rest

/-- What becomes of the line breaks at the end of a block. -/
inductive Chomping where
  | strip
  | clip
  | keep
  deriving DecidableEq

structure BlockHeader where
  chomping : Chomping
  indent : Option Nat

def chomping? (c : Char) : Option Chomping :=
  if c = '+' then some .keep else if c = '-' then some .strip else none

def blockIndent? (c : Char) : Option Nat :=
  if c.isDigit && c ≠ '0' then some (c.toNat - '0'.toNat) else none

def blockHeader (cs : List Placed) : BlockHeader × List Placed :=
  let take {α : Type} (read : Char → Option α) (cs : List Placed) : Option α × List Placed :=
    match cs with
    | c :: rest => match read c.char with
      | some a => (some a, rest)
      | none => (none, cs)
    | [] => (none, [])
  match take chomping? cs with
  | (some chomping, rest) =>
    let (indent, rest) := take blockIndent? rest
    (⟨chomping, indent⟩, rest)
  | (none, rest) =>
    let (indent, rest) := take blockIndent? rest
    let (chomping, rest) := if indent.isSome then take chomping? rest else (none, rest)
    (⟨chomping.getD .clip, indent⟩, rest)

/-- Leaves out indentation and empty lines before the next line of a block: the largest column,
the line breaks, newest first, and what follows. -/
def emptyLines? (indent : Option Nat) (most : Nat) (breaks : List Char) :
    List Placed → Option (Nat × List Char × List Placed)
  | [] => none
  | p :: rest =>
    let isIndentation := indent.all (p.column < ·)
    if p.char = ' ' && isIndentation then emptyLines? indent most breaks rest
    else if p.char = '\t' && isIndentation then none
    else if isBreak p.char then emptyLines? indent (max most p.column) (p.char :: breaks) rest
    else some (max most p.column, breaks, p :: rest)

/-- A block that is being read, newest character first: the line break after the last line, the
empty lines after it, and whether that line begins with a blank. -/
structure Block where
  text : List Char := []
  lineBreak : List Char := []
  breaks : List Char
  startsBlank : Bool := false

namespace Block

/-- Takes the line breaks into the text, before a line that begins with a blank or not. -/
def join (b : Block) (literal startsBlank : Bool) : List Char :=
  let folds := !literal && b.lineBreak = ['\n'] && !b.startsBlank && !startsBlank
  let between := if folds then (if b.breaks.isEmpty then [' '] else []) else b.lineBreak
  b.breaks ++ between ++ b.text

def result (b : Block) : Chomping → String
  | .strip => String.ofList b.text.reverse
  | .clip => String.ofList (b.lineBreak ++ b.text).reverse
  | .keep => String.ofList (b.breaks ++ b.lineBreak ++ b.text).reverse

/-- The lines of a block, of which there are at most `most`. -/
def lines? (literal : Bool) (indent : Nat) (b : Block) :
    (most : Nat) → List Placed → Option (Block × List Placed)
  | 0, cs => some (b, cs)
  | most + 1, cs => match cs with
    | [] => none
    | p :: _ =>
      if p.column ≠ indent || isEnd p.char then some (b, cs)
      else
        let startsBlank := isBlank p.char
        let line := cs.takeWhile (!isBreakOrEnd ·.char)
        let after := cs.drop line.length
        let (lineBreak, after) := match after with
          | q :: rest => if isBreak q.char then ([q.char], rest) else ([], after)
          | [] => ([], [])
        match emptyLines? (some indent) 0 [] after with
        | none => none
        | some (_, breaks, after) =>
          let text := (line.map (·.char)).reverse ++ b.join literal startsBlank
          lines? literal indent ⟨text, lineBreak, breaks, startsBlank⟩ most after

end Block

/-- A block after the mark that begins it, inside a collection that is indented to `outer`. -/
def block? (literal : Bool) (outer : Int) (cs : List Placed) :
    Option (String × List Placed) := do
  let (header, cs) := blockHeader cs
  let cs ← skipToLineEnd? cs
  let given := header.indent.map fun n => (max outer 0).toNat + n
  let (most, breaks, cs) ← emptyLines? given 0 [] cs
  let indent := given.getD (max (max most 1) (outer + 1).toNat)
  let (b, cs) ← Block.lines? literal indent { breaks } cs.length cs
  return (b.result header.chomping, cs)

end ClusterAccess.Yaml
