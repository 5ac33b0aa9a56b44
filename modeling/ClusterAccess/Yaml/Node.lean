import ClusterAccess.Yaml.Token

/-!
The nodes of a YAML text: scalars as they are written, collections, and other names for a node that
stands before. The reader follows the tokens; how deep it goes is bounded.
-/

namespace ClusterAccess.Yaml

inductive Node where
  | scalar (tag : Option String) (isPlain : Bool) (text : String)
  | sequence (tag : Option String) (items : List Node)
  | mapping (tag : Option String) (pairs : List (Node × Node))
  | again (target : Node)
  deriving Inhabited

def Node.empty : Node := .scalar none true ""

/-- What is left of the tokens, and what has been named in the document: the number of the node that
has each name now, the nodes that are complete by their numbers, and the handles of tags. -/
structure NodeState where
  tokens : Tokens
  names : List (String × Nat) := []
  complete : List (Nat × Node) := []
  handles : List (String × String) := []

abbrev NodeReader := StateT NodeState Option

/-- Where a node stands. A sequence that is part of a mapping need not be indented further. -/
inductive Position where
  | flow
  | block
  | mappingPart
  deriving DecidableEq

namespace NodeReader

def peek : NodeReader Token := do
  match (← get).tokens with
  | t :: _ => return t
  | [] => failure

def skip : NodeReader Unit := modify fun s => { s with tokens := s.tokens.tail }

/-- Reads a node unless one of these tokens comes, which show that it is empty. -/
def emptyAt (ends : List Token) (read : NodeReader Node) : NodeReader Node := do
  if (← peek) ∈ ends then return .empty else read

def valuePart (ends : List Token) (read : NodeReader Node) : NodeReader Node := do
  if (← peek) = .value then
    skip
    emptyAt ends read
  else return .empty

def blockItems (node : Position → NodeReader Node) :
    (most : Nat) → List Node → NodeReader (List Node)
  | 0, _ => failure
  | most + 1, done => do
    match ← peek with
    | .entry =>
      skip
      let item ← emptyAt [.entry, .blockEnd] (node .block)
      blockItems node most (item :: done)
    | .blockEnd =>
      skip
      return done.reverse
    | _ => failure

/-- The entries of a sequence that is not indented further than the mapping around it. -/
def flatItems (node : Position → NodeReader Node) :
    (most : Nat) → List Node → NodeReader (List Node)
  | 0, _ => failure
  | most + 1, done => do
    match ← peek with
    | .entry =>
      skip
      let item ← emptyAt [.entry, .key, .value, .blockEnd] (node .block)
      flatItems node most (item :: done)
    | _ => return done.reverse

def blockPairs (node : Position → NodeReader Node) :
    (most : Nat) → List (Node × Node) → NodeReader (List (Node × Node))
  | 0, _ => failure
  | most + 1, done => do
    match ← peek with
    | .key =>
      skip
      let ends := [.key, .value, .blockEnd]
      let key ← emptyAt ends (node .mappingPart)
      let value ← valuePart ends (node .mappingPart)
      blockPairs node most ((key, value) :: done)
    | .blockEnd =>
      skip
      return done.reverse
    | _ => failure

/-- A pair in a sequence in brackets, after the mark before its key. -/
def pairItem (node : Position → NodeReader Node) : NodeReader Node := do
  let key ← if (← peek) ∈ [.value, .separator, .flowSequenceEnd] then
      skip
      pure .empty
    else node .flow
  let value ← valuePart [.separator, .flowSequenceEnd] (node .flow)
  return .mapping none [(key, value)]

/-- Goes to the next element of a collection in brackets; there is none before the closing one. -/
def hasNext (isFirst : Bool) (closing : Token) : NodeReader Bool := do
  if (← peek) = closing then
    skip
    return false
  if !isFirst then
    if (← peek) ≠ .separator then failure
    skip
  if (← peek) = closing then
    skip
    return false
  return true

def flowItems (node : Position → NodeReader Node) :
    (most : Nat) → List Node → NodeReader (List Node)
  | 0, _ => failure
  | most + 1, done => do
    if !(← hasNext done.isEmpty .flowSequenceEnd) then return done.reverse
    let item ← if (← peek) = .key then
        skip
        pairItem node
      else node .flow
    flowItems node most (item :: done)

def flowPairs (node : Position → NodeReader Node) :
    (most : Nat) → List (Node × Node) → NodeReader (List (Node × Node))
  | 0, _ => failure
  | most + 1, done => do
    if !(← hasNext done.isEmpty .flowMappingEnd) then return done.reverse
    let pair ← if (← peek) = .key then
        skip
        let ends := [.separator, .flowMappingEnd]
        let key ← emptyAt (.value :: ends) (node .flow)
        let value ← valuePart ends (node .flow)
        pure (key, value)
      else
        let key ← node .flow
        pure (key, .empty)
    flowPairs node most (pair :: done)

def anchor? : NodeReader (Option String) := do
  match ← peek with
  | .anchor name =>
    skip
    return some name
  | _ => return none

def tag? : NodeReader (Option String) := do
  match ← peek with
  | .tag tag =>
    skip
    if tag.handle = "" then return some tag.suffix
    match (← get).handles.lookup tag.handle with
    | some front => return some (front ++ tag.suffix)
    | none => failure
  | _ => return none

/-- What stands before a node, in either order: its name and its tag. -/
def properties : NodeReader (Option String × Option String) := do
  match ← anchor? with
  | some name => return (some name, ← tag?)
  | none =>
    let tag ← tag?
    return (← anchor?, tag)

def content (node : Position → NodeReader Node) (position : Position) (named : Bool)
    (tag : Option String) : NodeReader Node := do
  let most := (← get).tokens.length
  let inBlock := position ≠ .flow
  match ← peek with
  | .scalar text isPlain =>
    skip
    return .scalar (tag.filter (· ≠ "!")) isPlain text
  | .entry =>
    if position = .mappingPart then return .sequence tag (← flatItems node most [])
    else rest named tag
  | .flowSequenceStart =>
    skip
    return .sequence tag (← flowItems node most [])
  | .flowMappingStart =>
    skip
    return .mapping tag (← flowPairs node most [])
  | .blockSequenceStart =>
    if !inBlock then rest named tag
    else
      skip
      return .sequence tag (← blockItems node most [])
  | .blockMappingStart =>
    if !inBlock then rest named tag
    else
      skip
      return .mapping tag (← blockPairs node most [])
  | _ => rest named tag
where
  /-- A node of which nothing but its name or tag is written. -/
  rest (named : Bool) (tag : Option String) : NodeReader Node :=
    if named || tag.isSome then return .scalar tag true "" else failure

def again (name : String) : NodeReader Node := do
  let s ← get
  match (s.names.lookup name).bind fun number => s.complete.lookup number with
  | some target => return .again target
  | none => failure

/-- A node in which at most `room` collections are open at a time. -/
def read : (room : Nat) → Position → NodeReader Node
  | 0, _ => failure
  | room + 1, position => do
    match ← peek with
    | .alias name =>
      skip
      again name
    | _ =>
      let (name, tag) ← properties
      let number := (← get).names.length
      if let some name := name then
        modify fun s => { s with names := (name, number) :: s.names }
      let node ← content (read room) position name.isSome tag
      if name.isSome then modify fun s => { s with complete := (number, node) :: s.complete }
      return node

/-- More collections than may be open at a time in a document. -/
def depthBound : Nat := 160

/-- The handles that every document has, unless it gives them another meaning. -/
def standardHandles : List (String × String) := [("!", "!"), ("!!", "tag:yaml.org,2002:")]

def directives (hasVersion : Bool) (handles : List (String × String)) :
    Tokens → Option (List (String × String) × Tokens)
  | .directive (.version major minor) :: rest =>
    if hasVersion || major ≠ 1 || !(minor = 1 || minor = 2) then none
    else directives true handles rest
  | .directive (.tag handle front) :: rest =>
    if (handles.lookup handle).isSome then none
    else directives hasVersion ((handle, front) :: handles) rest
  | rest => some (handles, rest)

/-- The root of a document. Only the first one may begin without a mark. -/
def root (isFirst : Bool) : NodeReader Node := do
  let isMarked := match ← peek with
    | .directive _ | .documentStart => true
    | _ => !isFirst
  if !isMarked then
    set { (← get) with handles := standardHandles }
    read depthBound .block
  else
    match directives false [] (← get).tokens with
    | some (handles, .documentStart :: tokens) =>
      set ({ tokens, handles := handles ++ standardHandles } : NodeState)
      match ← peek with
      | .directive _ | .documentStart | .documentEnd | .streamEnd => return .empty
      | _ => read depthBound .block
    | _ => failure

def document (isFirst : Bool) : NodeReader Node := do
  let node ← root isFirst
  if (← peek) = .documentEnd then skip
  return node

end NodeReader

/-- The documents of a text, of which there are at most `most`. Nothing is read after one that is
malformed. -/
def laterDocuments (most : Nat) (tokens : Tokens) : List (Option Node) :=
  match most with
  | 0 => []
  | most + 1 => match tokens.dropWhile (· = .documentEnd) with
    | [.streamEnd] => []
    | rest => match NodeReader.document false { tokens := rest } with
      | some (node, s) => some node :: laterDocuments most s.tokens
      | none => [none]

def documents (tokens : Tokens) : List (Option Node) :=
  match tokens with
  | [.streamEnd] => [some .empty]
  | _ => match NodeReader.document true { tokens } with
    | some (node, s) => some node :: laterDocuments s.tokens.length s.tokens
    | none => [none]

def nodes (cs : List Char) : List (Option Node) :=
  match placed? cs with
  | some placed => documents (tokens placed)
  | none => [none]

end ClusterAccess.Yaml
