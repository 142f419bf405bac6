import TestPlan.Data.Datum
import TestPlan.Data.Yaml.Token

/-! The nodes of a YAML document, which may refer to one another, and how tokens form them. -/

namespace TestPlan.Yaml

/-- A node of a document. -/
inductive Node where
  | scalar (scalar : Scalar)
  | sequence (items : List Node)
  | mapping (entries : List (Node × Node))
  /-- The node that goes by a number. -/
  | reference (number : Nat)

/-! ### Reading tokens -/

/-- The names given to nodes so far. A name is taken over by the last node that it is given to,
and its number is the count of the names in use before; what a number stands for is in turn the
last node that it is given to. -/
structure Anchors where
  /-- The number of each name. -/
  numbers : List (String × Nat) := []
  /-- For each number, how many nodes were named before the node that it stands for. -/
  latest : List (Nat × Nat) := []
  /-- The number of nodes that were named. -/
  count : Nat := 0
  /-- The nodes that were named and are complete. -/
  nodes : List (Nat × Node) := []

/-- The tokens that are left, and what those before them say. -/
structure Progress where
  tokens : List Token
  /-- The expansions of the tag handles. -/
  handles : List (String × String) := []
  anchors : Anchors := {}

/-- A reading step. -/
abbrev Parse := StateT Progress Option

/-- Refuses the tokens. -/
def refuse {α : Type} : Parse α :=
  fun _ => none

/-- The next token, if there is one. -/
def peek : Parse (Option Token) := do
  return (← get).tokens.head?

/-- Moves past the next token. -/
def advance : Parse Unit :=
  modify fun progress => { progress with tokens := progress.tokens.tail }

/-- Whether the next token is among some, of which the end of all tokens is not one. -/
def nextIs (isExpected : Token → Bool) : Parse Bool := do
  return (← get).tokens.head?.any isExpected

/-- Moves past the next token if it is as expected. -/
def take (isExpected : Token → Bool) : Parse Bool := do
  let found ← nextIs isExpected
  if found then advance
  return found

/-- Requires a token and moves past it. -/
def expect (isExpected : Token → Bool) : Parse Unit := do
  if !(← take isExpected) then refuse

/-! ### Names and tags -/

/-- Gives a name to the node that starts here, and returns how many were named before it. -/
def name (name : String) : Parse Nat := do
  let progress ← get
  let anchors := progress.anchors
  let number := anchors.numbers.length
  set { progress with anchors := { anchors with
    numbers := (name, number) :: anchors.numbers.filter (·.1 != name)
    latest := (number, anchors.count) :: anchors.latest
    count := anchors.count + 1 } }
  return anchors.count

/-- Keeps a node that is complete and was named after so many. -/
def keep (count : Nat) (node : Node) : Parse Unit :=
  modify fun progress => { progress with anchors := { progress.anchors with
    nodes := (count, node) :: progress.anchors.nodes } }

/-- The node that was given a name. -/
def repeatNode (name : String) : Parse Node := do
  match (← get).anchors.numbers.lookup name with
  | some number => return .reference number
  | none => refuse

/-- The name and tag before a node, each at most once. -/
structure Properties where
  name : Option String := none
  tag : Option WrittenTag := none

/-- The properties of the node that starts here. -/
def properties : Parse Properties := do
  match (← get).tokens with
  | .anchor name :: .tag tag :: rest | .tag tag :: .anchor name :: rest =>
    modify ({ · with tokens := rest })
    return ⟨some name, some tag⟩
  | .anchor name :: rest =>
    modify ({ · with tokens := rest })
    return ⟨some name, none⟩
  | .tag tag :: rest =>
    modify ({ · with tokens := rest })
    return ⟨none, some tag⟩
  | _ => return {}

/-- The tag that is meant by a written one. -/
def expand : Option WrittenTag → Parse (Option String)
  | none => return none
  | some ⟨"", tag⟩ => return some tag
  | some ⟨handle, suffix⟩ => do
    match (← get).handles.lookup handle with
    | some expansion => return some (expansion ++ suffix)
    | none => refuse

/-! ### Nodes -/

/-- Whether no node stands before a token of a block mapping. -/
def endsBlockEntry : Token → Bool
  | .key | .value | .blockEnd => true
  | _ => false

/-- Whether no node stands before a token of a block sequence. -/
def endsBlockItem : Token → Bool
  | .blockEntry | .blockEnd => true
  | _ => false

/-- Whether no node stands before a token of a block sequence that is not indented. -/
def endsLooseItem (token : Token) : Bool :=
  endsBlockItem token || endsBlockEntry token

/-- Whether no node stands before a token of a flow collection that ends in a bracket. -/
def endsFlowEntry (bracket : Token → Bool) : Token → Bool
  | .flowEntry => true
  | token => bracket token

/-- Whether a token ends a flow sequence. -/
def endsFlowSequence (token : Token) : Bool :=
  token matches .flowSequenceEnd

/-- Whether a token ends a flow mapping. -/
def endsFlowMapping (token : Token) : Bool :=
  token matches .flowMappingEnd

/-- Whether no key stands before a token of a flow collection that ends in a bracket. -/
def endsFlowKey (bracket : Token → Bool) : Token → Bool
  | .value => true
  | token => endsFlowEntry bracket token

/-- The node where nothing is written. -/
def Node.empty : Node := .scalar .empty

mutual

/-- The node that starts here, which may be a block collection, and may be a block sequence that
is not indented; the fuel bounds the number of steps. -/
def node : Nat → Bool → Bool → Parse Node
  | 0, _, _ => refuse
  | fuel + 1, block, loose => do
    if let some (.reference name) ← peek then
      advance
      return ← repeatNode name
    let properties ← properties
    let tag ← expand properties.tag
    let count ← properties.name.mapM name
    let node ← content fuel block loose tag (properties.name.isSome || tag.isSome)
    if let some count := count then keep count node
    return node

/-- The node that starts here after its properties, and may be left out if there are any. -/
def content : Nat → Bool → Bool → Option String → Bool → Parse Node
  | 0, _, _, _, _ => refuse
  | fuel + 1, block, loose, tag, optional => do
    match ← peek with
    | some .blockEntry =>
      if loose then .sequence <$> looseItems fuel
      else if optional then return .scalar ⟨.plain, tag, ""⟩
      else refuse
    | some (.scalar style text) =>
      advance
      -- A single mark names no type.
      return .scalar ⟨style, if tag = some "!" then none else tag, text⟩
    | some .flowSequenceStart =>
      advance
      .sequence <$> flowItems fuel true
    | some .flowMappingStart =>
      advance
      .mapping <$> flowEntries fuel true
    | some .blockSequenceStart =>
      if block then
        advance
        .sequence <$> blockItems fuel
      else if optional then return .scalar ⟨.plain, tag, ""⟩
      else refuse
    | some .blockMappingStart =>
      if block then
        advance
        .mapping <$> blockEntries fuel
      else if optional then return .scalar ⟨.plain, tag, ""⟩
      else refuse
    | _ => if optional then return .scalar ⟨.plain, tag, ""⟩ else refuse

/-- A block node, unless a token that may follow it stands here. -/
def blockNode : Nat → Bool → (Token → Bool) → Parse Node
  | 0, _, _ => refuse
  | fuel + 1, loose, isEnd => do
    if ← nextIs isEnd then return .empty else node fuel true loose

/-- A flow node, unless a token that may follow it stands here. -/
def flowNode : Nat → (Token → Bool) → Parse Node
  | 0, _ => refuse
  | fuel + 1, isEnd => do
    if ← nextIs isEnd then return .empty else node fuel false false

/-- The items of a block sequence. -/
def blockItems : Nat → Parse (List Node)
  | 0 => refuse
  | fuel + 1 => do
    if ← take (· matches .blockEnd) then return []
    expect (· matches .blockEntry)
    let item ← blockNode fuel false endsBlockItem
    return item :: (← blockItems fuel)

/-- The items of a block sequence that is not indented. -/
def looseItems : Nat → Parse (List Node)
  | 0 => refuse
  | fuel + 1 => do
    if !(← take (· matches .blockEntry)) then return []
    let item ← blockNode fuel false endsLooseItem
    return item :: (← looseItems fuel)

/-- The entries of a block mapping. -/
def blockEntries : Nat → Parse (List (Node × Node))
  | 0 => refuse
  | fuel + 1 => do
    if ← take (· matches .blockEnd) then return []
    expect (· matches .key)
    let key ← blockNode fuel true endsBlockEntry
    let value ← if ← take (· matches .value) then blockNode fuel true endsBlockEntry else
      pure .empty
    return (key, value) :: (← blockEntries fuel)

/-- The items of a flow sequence, of which none or some were read. -/
def flowItems : Nat → Bool → Parse (List Node)
  | 0, _ => refuse
  | fuel + 1, first => do
    if ← take (· matches .flowSequenceEnd) then return []
    if !first then
      expect (· matches .flowEntry)
    if ← take (· matches .flowSequenceEnd) then return []
    let item ← if ← take (· matches .key) then flowPair fuel else node fuel false false
    return item :: (← flowItems fuel false)

/-- The one entry of a mapping that is an item of a flow sequence, after its mark. -/
def flowPair : Nat → Parse Node
  | 0 => refuse
  | fuel + 1 => do
    let key ←
      -- The token that stands where a key is left out does not count.
      if ← take (endsFlowKey endsFlowSequence) then pure .empty
      else node fuel false false
    return .mapping [(key, ← flowValue fuel endsFlowSequence)]

/-- The value of an entry of a flow collection that ends in a bracket, empty without a colon. -/
def flowValue : Nat → (Token → Bool) → Parse Node
  | 0, _ => refuse
  | fuel + 1, bracket => do
    if ← take (· matches .value) then flowNode fuel (endsFlowEntry bracket) else return .empty

/-- The entries of a flow mapping, of which none or some were read. -/
def flowEntries : Nat → Bool → Parse (List (Node × Node))
  | 0, _ => refuse
  | fuel + 1, first => do
    if ← take (· matches .flowMappingEnd) then return []
    if !first then
      expect (· matches .flowEntry)
    if ← take (· matches .flowMappingEnd) then return []
    if ← take (· matches .key) then
      let key ← flowNode fuel (endsFlowKey endsFlowMapping)
      let value ← flowValue fuel endsFlowMapping
      return (key, value) :: (← flowEntries fuel false)
    else
      let key ← node fuel false false
      return (key, .empty) :: (← flowEntries fuel false)

end

/-! ### Documents -/

/-- A document: its outermost node, and what the names in it stand for. -/
structure Document where
  root : Node
  anchors : Anchors := {}

namespace Document

/-- The handles that need no directive. -/
def usualHandles : List (String × String) :=
  [("!", "!"), ("!!", Scalar.usualTags)]

/-- Takes note of the directives here: one version that is understood, and each handle once. -/
def directives : Nat → Bool → Parse Unit
  | 0, _ => refuse
  | fuel + 1, versioned => do
    match ← peek with
    | some (.directive (.version major minor)) =>
      if versioned || major != 1 || (minor != 1 && minor != 2) then refuse
      advance
      directives fuel true
    | some (.directive (.handle name expansion)) =>
      let handles := (← get).handles
      if (handles.lookup name).isSome then refuse
      modify ({ · with handles := handles ++ [(name, expansion)] })
      advance
      directives fuel versioned
    | _ => modify fun progress => { progress with handles := progress.handles ++ usualHandles }

/-- Whether a token belongs to no document. -/
def isOutside : Token → Bool
  | .directive _ | .documentStart | .documentEnd => true
  | _ => false

/-- The outermost node; nothing need be written after a mark that starts the document. -/
def outermost (fuel : Nat) : Parse Node := do
  match ← peek with
  | none => return .empty
  | some (.directive _) | some .documentStart =>
    directives fuel false
    expect (· matches .documentStart)
    match ← peek with
    | none => return .empty
    | some token => if isOutside token then return .empty else node fuel true false
  | some _ =>
    directives fuel false
    node fuel true false

/-- The one document that tokens form. -/
def ofTokens (tokens : List Token) : Option Document := do
  let (root, progress) ← (outermost (6 * tokens.length + 16)).run { tokens }
  let left := progress.tokens.dropWhile (· matches .documentEnd)
  if left.isEmpty then some ⟨root, progress.anchors⟩ else none

/-- The node itself, or the one that it refers to. -/
def resolve (document : Document) : Node → Option Node
  | .reference number => do
    document.anchors.nodes.lookup (← document.anchors.latest.lookup number)
  | node => some node

/-- The text of a key, which must be a scalar. -/
def keyText? (document : Document) (key : Node) : Option String :=
  match document.resolve key with
  | some (.scalar scalar) => some scalar.text
  | _ => none

/-- The data of a node down to so many levels of collections, with all references followed. -/
def unfoldNode (document : Document) : Nat → Node → Datum
  | 0, node =>
    match document.resolve node with
    | some (.scalar scalar) => .scalar scalar
    | _ => .unreadable
  | levels + 1, node =>
    match document.resolve node with
    | some (.scalar scalar) => .scalar scalar
    | some (.sequence items) => .list (items.map (unfoldNode document levels))
    | some (.mapping entries) =>
      let entries? := entries.mapM fun (key, value) =>
        (document.keyText? key).map (·, unfoldNode document levels value)
      (entries?.map Datum.record).getD .unreadable
    | some (.reference _) | none => .unreadable

/-- The data of a document down to so many levels of collections. -/
def unfold (document : Document) (levels : Nat) : Datum :=
  document.unfoldNode levels document.root

end Document

/-- The document of a text. -/
def parse (input : String) : Option Document :=
  tokenize input >>= Document.ofTokens

end TestPlan.Yaml
