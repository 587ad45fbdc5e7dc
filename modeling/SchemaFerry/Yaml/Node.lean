/-
**The nodes of a YAML text.**

`Document.ofTokens?` reads tokens by the grammar: a scalar, or a sequence or a mapping in block or
flow form, each perhaps with an anchor and a tag. A text holds at most one document.

An anchor gets as its number how many names other anchors before it have, so a name that is anchored
again may take the number of another name. An alias holds the number that its name has at that
place, and stands for the node of the document that starts last among those with the number.
-/

import SchemaFerry.Yaml.Tokens

namespace SchemaFerry.Yaml

/-- A node. Aliases hold the number of the anchor they stand for. -/
inductive Node where
  | scalar (text : String) (style : Style) (tag : Option String)
  | sequence (items : List Node)
  | mapping (pairs : List (Node × Node))
  | alias (anchor : Nat)
  deriving Repr, Inhabited

/-- A document: its root, if there is one, and the anchored nodes by number, those that start later
first. -/
structure Document where
  root : Option Node
  anchored : List (Nat × Node)
  deriving Repr

/-- How far tokens have been read: those left, the numbers of the anchors by name, the anchored
nodes, those that start later first, and the tag handles with what they stand for. -/
structure Reading where
  tokens : List Token
  anchors : List (String × Nat)
  anchored : List (Nat × Node)
  handles : List (String × String)
  deriving Repr

/-- Steps of reading, each of which may find that the tokens do not follow the grammar. -/
abbrev Reader := StateT Reading Option

namespace Reader

/-- The next token. -/
def peek : Reader Token := do
  return (← get).tokens.headD .streamEnd

/-- Goes past the next token. -/
def advance : Reader Unit :=
  modify fun reading => { reading with tokens := reading.tokens.drop 1 }

/-- Goes past the next token if it is the given one, and says whether it was. -/
def accept (token : Token) : Reader Bool := do
  if (← peek) == token then
    advance
    return true
  else return false

/-- Goes past the next token, which must be the given one. -/
def expect (token : Token) : Reader Unit := do
  if !(← accept token) then failure

/-- Whether the next token is one of those given. -/
def isAt (tokens : List Token) : Reader Bool := do
  return tokens.contains (← peek)

/-! ### Properties -/

/-- An anchor: its number, and how many anchored nodes are complete before its node starts. -/
structure Anchor where
  number : Nat
  older : Nat
  deriving Repr, DecidableEq

/-- An anchor, with the number it gets. -/
def anchor? : Reader (Option Anchor) := do
  match ← peek with
  | .anchor name =>
    advance
    let reading ← get
    let number := reading.anchors.length
    let others := reading.anchors.filter fun anchor => anchor.1 != name
    set { reading with anchors := (name, number) :: others }
    return some ⟨number, reading.anchored.length⟩
  | _ => return none

/-- A tag, with its handle replaced by what it stands for. -/
def tag? : Reader (Option String) := do
  match ← peek with
  | .tag handle suffix =>
    advance
    if handle.isEmpty then return some suffix
    else
      match (← get).handles.lookup handle with
      | some lead => return some (lead ++ suffix)
      | none => failure
  | _ => return none

/-- An anchor and a tag in either order. -/
def properties : Reader (Option Anchor × Option String) := do
  match ← anchor? with
  | some anchor => return (some anchor, ← tag?)
  | none =>
    let tag ← tag?
    if tag.isSome then return (← anchor?, tag) else return (none, none)

/-- Keeps a node under the number of its anchor, behind the anchored nodes within it. -/
def keep (anchor : Option Anchor) (node : Node) : Reader Node := do
  match anchor with
  | some ⟨number, older⟩ => modify fun reading =>
      { reading with
        anchored := reading.anchored.insertIdx (reading.anchored.length - older) (number, node) }
  | none => pure ()
  return node

/-- A node without text. -/
def emptyNode : Node :=
  .scalar "" .plain none

/-! ### Nodes -/

mutual

/-- A node. A block collection may stand only where `block` says so, and a sequence at the
indentation of the mapping around it only where `indentless` does. -/
def node (fuel : Nat) (block indentless : Bool) : Reader Node :=
  match fuel with
  | 0 => failure
  | fuel + 1 => do
    match ← peek with
    | .alias name =>
      advance
      match (← get).anchors.lookup name with
      | some number => return .alias number
      | none => failure
    | _ =>
      let (anchor, tag) ← properties
      match ← peek with
      | .scalar text style =>
        advance
        keep anchor (.scalar text style tag)
      | .flowSequenceStart =>
        advance
        keep anchor (.sequence (← flowItems fuel true))
      | .flowMappingStart =>
        advance
        keep anchor (.mapping (← flowPairs fuel true))
      | .blockEntry =>
        if indentless then keep anchor (.sequence (← indentlessItems fuel))
        else if anchor.isSome || tag.isSome then keep anchor (.scalar "" .plain tag)
        else failure
      | .blockSequenceStart =>
        if block then
          advance
          keep anchor (.sequence (← blockItems fuel))
        else if anchor.isSome || tag.isSome then keep anchor (.scalar "" .plain tag)
        else failure
      | .blockMappingStart =>
        if block then
          advance
          keep anchor (.mapping (← blockPairs fuel))
        else if anchor.isSome || tag.isSome then keep anchor (.scalar "" .plain tag)
        else failure
      | _ =>
        if anchor.isSome || tag.isSome then keep anchor (.scalar "" .plain tag) else failure

/-- A node, or an empty one before any of some tokens. -/
def nodeUnlessAt (fuel : Nat) (block indentless : Bool) (ends : List Token) : Reader Node :=
  match fuel with
  | 0 => failure
  | fuel + 1 => do
    if ← isAt ends then return emptyNode else node fuel block indentless

/-- The items of a block sequence, with its end. -/
def blockItems (fuel : Nat) : Reader (List Node) :=
  match fuel with
  | 0 => failure
  | fuel + 1 => do
    if ← accept .blockEntry then
      let item ← nodeUnlessAt fuel true false [.blockEntry, .blockEnd]
      return item :: (← blockItems fuel)
    else
      expect .blockEnd
      return []

/-- The items of a sequence at the indentation of the mapping around it. -/
def indentlessItems (fuel : Nat) : Reader (List Node) :=
  match fuel with
  | 0 => failure
  | fuel + 1 => do
    if ← accept .blockEntry then
      let item ← nodeUnlessAt fuel true false [.blockEntry, .key, .value, .blockEnd]
      return item :: (← indentlessItems fuel)
    else return []

/-- The pairs of a block mapping, with its end. -/
def blockPairs (fuel : Nat) : Reader (List (Node × Node)) :=
  match fuel with
  | 0 => failure
  | fuel + 1 => do
    if ← accept .key then
      let key ← nodeUnlessAt fuel true true [.key, .value, .blockEnd]
      let value ←
        if ← accept .value then nodeUnlessAt fuel true true [.key, .value, .blockEnd]
        else pure emptyNode
      return (key, value) :: (← blockPairs fuel)
    else
      expect .blockEnd
      return []

/-- The items of a flow sequence, with its end; a pair among them is a mapping of its own. -/
def flowItems (fuel : Nat) (isFirst : Bool) : Reader (List Node) :=
  match fuel with
  | 0 => failure
  | fuel + 1 => do
    if ← accept .flowSequenceEnd then return []
    if !isFirst then
      expect .flowEntry
    if ← accept .key then
      let pair ← flowItemPair fuel
      return .mapping [pair] :: (← flowItems fuel false)
    else if ← accept .flowSequenceEnd then return []
    else
      let item ← node fuel false false
      return item :: (← flowItems fuel false)

/-- A pair among the items of a flow sequence. After the mark of an empty key one token is passed
over, whichever it is. -/
def flowItemPair (fuel : Nat) : Reader (Node × Node) :=
  match fuel with
  | 0 => failure
  | fuel + 1 => do
    let key ←
      if ← isAt [.value, .flowEntry, .flowSequenceEnd] then
        advance
        pure emptyNode
      else node fuel false false
    let value ←
      if ← accept .value then nodeUnlessAt fuel false false [.flowEntry, .flowSequenceEnd]
      else pure emptyNode
    return (key, value)

/-- The pairs of a flow mapping, with its end. -/
def flowPairs (fuel : Nat) (isFirst : Bool) : Reader (List (Node × Node)) :=
  match fuel with
  | 0 => failure
  | fuel + 1 => do
    if ← accept .flowMappingEnd then return []
    if !isFirst then
      expect .flowEntry
    if ← accept .key then
      let key ← nodeUnlessAt fuel false false [.value, .flowEntry, .flowMappingEnd]
      let value ←
        if ← accept .value then nodeUnlessAt fuel false false [.flowEntry, .flowMappingEnd]
        else pure emptyNode
      return (key, value) :: (← flowPairs fuel false)
    else if ← accept .flowMappingEnd then return []
    else
      let key ← node fuel false false
      return (key, emptyNode) :: (← flowPairs fuel false)

end

/-! ### Documents -/

/-- Directives before a document: whether a version was given, and the tag handles. -/
def directives : Nat → Bool → Reader Unit
  | 0, _ => failure
  | fuel + 1, versioned => do
    match ← peek with
    | .versionDirective major minor =>
      if versioned || major != 1 || (minor != 1 && minor != 2) then failure
      else
        advance
        directives fuel true
    | .tagDirective handle lead =>
      let reading ← get
      if (reading.handles.lookup handle).isSome then failure
      else
        set { reading with
          tokens := reading.tokens.drop 1, handles := (handle, lead) :: reading.handles }
        directives fuel versioned
    | _ => return ()

/-- The handles that stand for something without a directive. -/
def standardHandles : List (String × String) :=
  [("!", "!"), ("!!", "tag:yaml.org,2002:")]

/-- Whether a token starts the part before a document. -/
def startsHead : Token → Bool
  | .versionDirective .. | .tagDirective .. | .documentStart => true
  | _ => false

/-- Whether a token stands where a document has no content. -/
def endsContent (token : Token) : Bool :=
  startsHead token || token == .documentEnd || token == .streamEnd

/-- The root of the only document. -/
def root (fuel : Nat) : Reader (Option Node) := do
  let first ← peek
  if first == .streamEnd then return none
  let content ←
    if startsHead first then
      directives fuel false
      expect .documentStart
      modify fun reading => { reading with handles := reading.handles ++ standardHandles }
      if endsContent (← peek) then pure emptyNode else node fuel true false
    else
      modify fun reading => { reading with handles := standardHandles }
      node fuel true false
  modify fun reading =>
    { reading with tokens := reading.tokens.dropWhile (· == .documentEnd) }
  expect .streamEnd
  return some content

end Reader

/-- The document that tokens make up, unless they do not follow the grammar. -/
def Document.ofTokens? (tokens : List Token) : Option Document :=
  ((Reader.root (4 * tokens.length + 4)).run ⟨tokens, [], [], []⟩).map fun (root, reading) =>
    ⟨root, reading.anchored⟩

/-- The document of a text, unless it is no YAML. -/
def Document.ofText? (text : String) : Option Document :=
  (tokens? text).bind Document.ofTokens?

end SchemaFerry.Yaml
