import ClusterAccess.Yaml.Scalar
import ClusterAccess.Yaml.Tag

/-!
The tokens of a YAML text. Indentation becomes tokens of its own: a block collection has a start
and an end like one in brackets. A key needs no mark before it as long as its colon follows on the
same line and not too far away; whether a token was one is only known when the colon comes.
-/

namespace ClusterAccess.Yaml

inductive Token where
  | directive (directive : Directive)
  | documentStart
  | documentEnd
  | streamEnd
  | blockSequenceStart
  | blockMappingStart
  | blockEnd
  | flowSequenceStart
  | flowSequenceEnd
  | flowMappingStart
  | flowMappingEnd
  | entry
  | separator
  | key
  | value
  | anchor (name : String)
  | alias (name : String)
  | tag (tag : Tag)
  | scalar (text : String) (isPlain : Bool)
  deriving DecidableEq

/-- The tokens of a text as far as it is well formed; the last one of a whole text is the end of the
stream. -/
abbrev Tokens := List Token

/-- Something that may turn out to be a key: the number of its first token and where it begins.
In a block it is required to be one if nothing else can stand there. -/
structure KeyCandidate where
  number : Nat
  place : Placed
  required : Bool

/-- What has been read of a text: the characters left; the tokens, newest first; the columns of the
open block collections, innermost first; for each open bracket, innermost first, and at last for
the block around them, what may be a key; and whether a key may come next. -/
structure Scanner where
  input : List Placed
  tokens : List Token := []
  count : Nat := 0
  indents : List Nat := []
  keys : List (Option KeyCandidate) := [none]
  mayBeKey : Bool := true

namespace Scanner

def inFlow (s : Scanner) : Bool := 1 < s.keys.length

/-- The column of the innermost block collection; there is none before the first. -/
def indent (s : Scanner) : Int :=
  match s.indents with
  | [] => -1
  | column :: _ => column

def emit (s : Scanner) (t : Token) : Scanner :=
  { s with tokens := t :: s.tokens, count := s.count + 1 }

def insert (s : Scanner) (number : Nat) (t : Token) : Scanner :=
  let later := s.count - number
  { s with tokens := s.tokens.take later ++ t :: s.tokens.drop later, count := s.count + 1 }

/-- Opens a block collection at a column that is indented further than the last one. -/
def roll (s : Scanner) (column number : Nat) (t : Token) : Scanner :=
  if s.inFlow || column ≤ s.indent then s
  else { s.insert number t with indents := column :: s.indents }

def unroll (s : Scanner) (column : Int) : Scanner :=
  if s.inFlow then s
  else
    let closed := s.indents.takeWhile fun (n : Nat) => column < n
    closed.foldl (fun s _ => s.emit .blockEnd) { s with indents := s.indents.drop closed.length }

/-- Gives up the innermost candidate, unless it has to be a key. -/
def dropKey? (s : Scanner) : Option Scanner :=
  match s.keys with
  | some candidate :: outer =>
    if candidate.required then none else some { s with keys := none :: outer }
  | _ => some s

/-- Makes the next token a candidate, if a key may come next. -/
def saveKey? (s : Scanner) (p : Placed) : Option Scanner := do
  if !s.mayBeKey then return s
  let s ← s.dropKey?
  let required := !s.inFlow && s.indent == p.column
  return { s with keys := some ⟨s.count, p, required⟩ :: s.keys.tail }

def keyLimit : Nat := 1024

/-- Gives up the candidates whose colon does not come in time before the character `p`. -/
def dropStaleKeys? (s : Scanner) (p : Placed) : Option Scanner := do
  let keys ← s.keys.mapM fun
    | none => some none
    | some candidate =>
      if candidate.place.line < p.line || candidate.place.index + keyLimit < p.index then
        (if candidate.required then none else some none)
      else some (some candidate)
  return { s with keys }

/-- Goes to the next token, over white space and comments. In a block no tab stands where a key may
begin, and each new line may begin with a key. -/
def skipGap (inFlow : Bool) (mayBeKey inComment : Bool) : List Placed → Bool × List Placed
  | [] => (mayBeKey, [])
  | p :: rest =>
    let c := p.char
    if isBreak c then skipGap inFlow (mayBeKey || !inFlow) false rest
    else if isEnd c then (mayBeKey, p :: rest)
    else if inComment || c = '#' then skipGap inFlow mayBeKey true rest
    else if c = ' ' || (c = '\t' && (inFlow || !mayBeKey)) || (c = '\ufeff' && p.column = 0) then
      skipGap inFlow mayBeKey false rest
    else (mayBeKey, p :: rest)

def openFlow? (s : Scanner) (p : Placed) (t : Token) : Option Scanner := do
  let s ← s.saveKey? p
  return { s with keys := none :: s.keys, mayBeKey := true }.emit t

def closeFlow? (s : Scanner) (t : Token) : Option Scanner := do
  let s ← s.dropKey?
  let keys := if s.inFlow then s.keys.tail else s.keys
  return { s with keys, mayBeKey := false }.emit t

def entry? (s : Scanner) (p : Placed) : Option Scanner := do
  if !s.inFlow && !s.mayBeKey then none
  let s ← (s.roll p.column s.count .blockSequenceStart).dropKey?
  return { s with mayBeKey := true }.emit .entry

def key? (s : Scanner) (p : Placed) : Option Scanner := do
  if !s.inFlow && !s.mayBeKey then none
  let s ← (s.roll p.column s.count .blockMappingStart).dropKey?
  return { s with mayBeKey := !s.inFlow }.emit .key

def value? (s : Scanner) (p : Placed) : Option Scanner :=
  match s.keys with
  | some candidate :: outer =>
    let s := (s.insert candidate.number .key).roll candidate.place.column candidate.number
      .blockMappingStart
    some ({ s with keys := none :: outer, mayBeKey := false }.emit .value)
  | _ =>
    if !s.inFlow && !s.mayBeKey then none
    else
      let s := s.roll p.column s.count .blockMappingStart
      some ({ s with mayBeKey := !s.inFlow }.emit .value)

/-- A directive or a mark between documents, at the beginning of a line. -/
def betweenDocuments? (s : Scanner) (t : Token) (rest : List Placed) : Option Scanner := do
  let s ← (s.unroll (-1)).dropKey?
  return { s with mayBeKey := false, input := rest }.emit t

def startsPlain (inFlow : Bool) (c : Char) (rest : List Placed) : Bool :=
  let marks := ['-', '?', ':', ',', '[', ']', '\x7b', '\x7d', '#', '&', '*', '!', '|', '>', '\'',
    '"', '%', '@', '\x60']
  (!isGap c && c ∉ marks) || (c = '-' && !nextIs isBlank rest) ||
    (!inFlow && (c = '?' || c = ':') && !nextIs isGap rest)

/-- Reads a token that may be a key or the beginning of one. -/
def content? (s : Scanner) (p : Placed) (rest : List Placed) : Option Scanner := do
  let c := p.char
  if c = '|' && !s.inFlow || c = '>' && !s.inFlow then
    let s ← s.dropKey?
    let (text, rest) ← block? (c = '|') s.indent rest
    return { s with mayBeKey := true, input := rest }.emit (.scalar text false)
  let s ← s.saveKey? p
  let s := { s with mayBeKey := false }
  let (token, mayBeKey, rest) ←
    if c = '*' then (anchorName? rest).map fun (name, rest) => (Token.alias name, false, rest)
    else if c = '&' then (anchorName? rest).map fun (name, rest) => (.anchor name, false, rest)
    else if c = '!' then (Tag.read? s.inFlow rest).map fun (tag, rest) => (.tag tag, false, rest)
    else if c = '\'' then
      (singleQuoted? {} rest).map fun (text, rest) => (.scalar text false, false, rest)
    else if c = '"' then
      (doubleQuoted? {} 0 0 rest).map fun (text, rest) => (.scalar text false, false, rest)
    else if startsPlain s.inFlow c rest then
      (plain? s.inFlow (s.indent + 1) {} (p :: rest)).map fun (f, rest) =>
        (.scalar f.result true, f.first.isSome, rest)
    else none
  return { s with mayBeKey, input := rest }.emit token

def token? (s : Scanner) (p : Placed) (rest : List Placed) : Option Scanner :=
  let c := p.char
  let after : Scanner := { s with input := rest }
  if c = '%' && p.column = 0 then
    (Directive.read? rest).bind fun (d, rest) => s.betweenDocuments? (.directive d) rest
  else if atMark '-' (p :: rest) then s.betweenDocuments? .documentStart (rest.drop 2)
  else if atMark '.' (p :: rest) then s.betweenDocuments? .documentEnd (rest.drop 2)
  else if c = '[' then after.openFlow? p .flowSequenceStart
  else if c = '\x7b' then after.openFlow? p .flowMappingStart
  else if c = ']' then after.closeFlow? .flowSequenceEnd
  else if c = '\x7d' then after.closeFlow? .flowMappingEnd
  else if c = ',' then
    after.dropKey?.map fun s => { s with mayBeKey := true }.emit .separator
  else if c = '-' && nextIs isGap rest then after.entry? p
  else if c = '?' && (s.inFlow || nextIs isGap rest) then after.key? p
  else if c = ':' && (s.inFlow || nextIs isGap rest) then after.value? p
  else s.content? p rest

/-- Reads the next token. At the end everything that is open is closed. -/
def next? (s : Scanner) : Option Scanner :=
  let (mayBeKey, input) := skipGap s.inFlow s.mayBeKey false s.input
  match input with
  | [] => none
  | p :: rest => do
    let s ← { s with mayBeKey, input }.dropStaleKeys? p
    let s := s.unroll p.column
    if isEnd p.char then
      let s ← (s.unroll (-1)).dropKey?
      return { s with input := [] }.emit .streamEnd
    else s.token? p rest

def run : (most : Nat) → Scanner → Tokens
  | 0, s => s.tokens.reverse
  | most + 1, s =>
    if s.input.isEmpty then s.tokens.reverse
    else match s.next? with
      | some s => run most s
      | none => s.tokens.reverse

end Scanner

/-- The tokens of a text. Each step takes at least one character. -/
def tokens (cs : List Placed) : Tokens := Scanner.run (cs.length + 1) { input := cs }

end ClusterAccess.Yaml
