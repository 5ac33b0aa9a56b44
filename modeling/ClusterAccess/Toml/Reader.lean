import ClusterAccess.Text.Blank
import ClusterAccess.Toml.Number
import ClusterAccess.Toml.Quoted

/-!
Reading TOML documents. A document is read statement by statement, each of which ends with its
line; the statements then make up the tables. Values may be nested less than 80 deep, and a key
may have less than 80 parts.
-/

namespace ClusterAccess.Toml

open Text (Scan)

/-- The text with every line ended by a line feed alone. A carriage return that does not end a
line is refused. -/
def unifyLines : List Char → Option (List Char)
  | [] => some []
  | ['\r'] => none
  | '\r' :: '\n' :: rest => (unifyLines rest).map ('\n' :: ·)
  | c :: rest => if c = '\r' then none else (unifyLines rest).map (c :: ·)

def isSpace (c : Char) : Bool := c = ' ' || c = '\t'

def spaces : Scan Unit := do
  let _ ← Scan.run isSpace

/-- Goes to the beginning of the next line, over blanks and a comment. -/
def endLine (inComment : Bool) : List Char → Option (Unit × List Char)
  | [] => some ((), [])
  | c :: rest =>
    if c = '\n' then some ((), rest)
    else if inComment then (if isPlain c then endLine true rest else none)
    else if isSpace c then endLine false rest
    else if c = '#' then endLine true rest
    else none

def gap (inComment : Bool) : List Char → Option (Unit × List Char)
  | [] => some ((), [])
  | c :: rest =>
    if inComment then
      if c = '\n' then gap false rest else if isPlain c then gap true rest else none
    else if isSpace c || c = '\n' then gap false rest
    else if c = '#' then gap true rest
    else some ((), c :: rest)

def readText (q : Quoting) : Scan String := do
  Scan.char q.mark
  let cs ← lineText q .plain
  return String.ofList cs

def readBlock (q : Quoting) : Scan String := do
  Scan.literal [q.mark, q.mark, q.mark]
  let _ ← Scan.char? '\n'
  let cs ← blockText q .plain
  return String.ofList cs

def isBareKeyChar (c : Char) : Bool := c.isAlphanum || c = '-' || c = '_'

def readKeyPart : Scan String := do
  spaces
  let name ← match ← Scan.peek with
    | some '"' => readText .basic
    | some '\'' => readText .literal
    | _ => do
      let cs ← Scan.run isBareKeyChar
      if cs.isEmpty then failure
      pure (String.ofList cs)
  spaces
  return name

def depthLimit : Nat := 80

def readKey : Scan Key := do
  let parts ← Scan.separated readKeyPart '.' (depthLimit - 1)
  match parts.getLast? with
  | some name => return ⟨parts.dropLast, name⟩
  | none => failure

def readEntry (value : Scan Toml) : Scan (Key × Toml) := do
  let k ← readKey
  Scan.char '='
  spaces
  let v ← value
  spaces
  return (k, v)

def readScalar : Scan Toml := do
  match ← Scan.peek with
  | some '"' => .text <$> (readBlock .basic <|> readText .basic)
  | some '\'' => .text <$> (readBlock .literal <|> readText .literal)
  | some 't' => do
    Scan.literal ['t', 'r', 'u', 'e']
    return .boolean true
  | some 'f' => do
    Scan.literal ['f', 'a', 'l', 's', 'e']
    return .boolean false
  | _ => readDateTime <|> readNumber

def readItems (value : Scan Toml) (most : Nat) : Scan (List Toml) :=
  match most with
  | 0 => failure
  | most + 1 => do
    gap false
    if ← Scan.char? ']' then return []
    let v ← value
    gap false
    if ← Scan.char? ',' then return v :: (← readItems value most)
    Scan.char ']'
    return [v]

/-- As much as can be read of what is left. -/
def asFarAsThere (read : Nat → Scan α) : Scan α := fun s => read (s.length + 1) s

def readInline (value : Scan Toml) : Scan Toml := do
  spaces
  if ← Scan.char? '\x7d' then return .table []
  let entries ← asFarAsThere (Scan.separated (readEntry value) ',')
  Scan.char '\x7d'
  match ofEntries entries with
  | some t => return t
  | none => failure

/-- A value whose parts go at most so deep. -/
def readValue : Nat → Scan Toml
  | 0 => readScalar
  | depth + 1 => do
    if ← Scan.char? '[' then .array <$> asFarAsThere (readItems (readValue depth))
    else if ← Scan.char? '\x7b' then readInline (readValue depth)
    else readScalar

def readStatement : Scan Statement := do
  spaces
  match ← Scan.peek with
  | none | some '\n' | some '#' => return .blank
  | some '[' => do
    Scan.skip
    if ← Scan.char? '[' then
      let k ← readKey
      Scan.literal [']', ']']
      return .element k
    let k ← readKey
    Scan.char ']'
    return .header k
  | some _ => do
    let (k, v) ← readEntry (readValue (depthLimit - 1))
    return .entry k v

def readStatements : Nat → List Char → Option (List Statement)
  | _, [] => some []
  | 0, _ :: _ => none
  | most + 1, s => do
    let (first, s) ← readStatement s
    let (_, s) ← endLine false s
    return first :: (← readStatements most s)

def parse? (cs : List Char) : Option Toml := do
  let cs ← unifyLines (Text.withoutByteOrderMark cs)
  ofStatements (← readStatements cs.length cs)

end ClusterAccess.Toml
