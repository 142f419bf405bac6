import TestPlan.Data.Scalar
import TestPlan.Data.Yaml.Tag
import TestPlan.Data.Yaml.Text

/-! The tokens of a YAML text, in which the layout of blocks is made explicit. -/

namespace TestPlan.Yaml

/-- A piece of a YAML text. -/
inductive Token where
  | directive (directive : Directive)
  | documentStart
  | documentEnd
  | blockSequenceStart
  | blockMappingStart
  | blockEnd
  | flowSequenceStart
  | flowSequenceEnd
  | flowMappingStart
  | flowMappingEnd
  | blockEntry
  | flowEntry
  | key
  | value
  /-- Gives a name to the node after it. -/
  | anchor (name : String)
  /-- Stands for the node that was given a name. -/
  | reference (name : String)
  | tag (tag : WrittenTag)
  | scalar (style : ScalarStyle) (text : String)

/-! ### Layout -/

/-- A node that turns out to be a key if a colon follows it. -/
structure PossibleKey where
  /-- The number of tokens before the node. -/
  position : Nat
  /-- Where the node starts. -/
  start : Place
  /-- Whether the node can be nothing but a key. -/
  required : Bool

/-- Whether a colon at a place comes too late: a key is on one line, and not too long. -/
def PossibleKey.isLate (key : PossibleKey) (place : Place) : Bool :=
  key.start.line < place.line || key.start.index + 1024 < place.index

/-- A place in a text, and what the text before it means for the tokens that follow. -/
structure Layout where
  place : Place
  tokens : Array Token := #[]
  /-- The columns of the open block collections, innermost first. -/
  blocks : List Nat := []
  /-- The possible key directly inside the innermost flow collection. -/
  key : Option PossibleKey := none
  /-- The possible keys around each open flow collection, innermost first. -/
  outerKeys : List (Option PossibleKey) := []
  /-- Whether a key without a mark may start here. -/
  keyAllowed : Bool := true

namespace Layout

/-- Whether a flow collection is open. -/
def inFlow (layout : Layout) : Bool :=
  !layout.outerKeys.isEmpty

/-- The least column of what belongs to the innermost block collection. -/
def least (layout : Layout) : Nat :=
  match layout.blocks with
  | [] => 0
  | column :: _ => column + 1

/-- Adds a token. -/
def push (layout : Layout) (token : Token) : Layout :=
  { layout with tokens := layout.tokens.push token }

/-- Adds a token and moves past so many characters. -/
def mark (layout : Layout) (token : Token) (count : Nat) : Layout :=
  { layout.push token with place := layout.place.skip count }

/-- Closes the block collections whose columns are like that, unless a flow collection is open. -/
def closeBlocks (layout : Layout) (isInner : Nat → Bool) : Layout :=
  if layout.inFlow then layout
  else
    let closed := layout.blocks.takeWhile isInner
    { layout with
      tokens := layout.tokens ++ Array.replicate closed.length Token.blockEnd
      blocks := layout.blocks.drop closed.length }

/-- Opens a block collection before the tokens after a position, if its column is farther in. -/
def openBlock (layout : Layout) (column position : Nat) (token : Token) : Layout :=
  if layout.inFlow || !layout.blocks.head?.all (· < column) then layout
  else
    { layout with
      tokens := layout.tokens.insertIdxIfInBounds position token
      blocks := column :: layout.blocks }

/-! ### Possible keys -/

/-- Gives up the possible key, unless it can be nothing but a key. -/
def dropKey (layout : Layout) : Option Layout :=
  if layout.key.any (·.required) then none else some { layout with key := none }

/-- Takes note that a key may start here. -/
def noteKey (layout : Layout) : Option Layout := do
  if !layout.keyAllowed then return layout
  let layout ← layout.dropKey
  let required := !layout.inFlow && layout.blocks.head? == some layout.place.column
  return { layout with key := some ⟨layout.tokens.size, layout.place, required⟩ }

/-- Gives up the possible keys for which a colon would come too late. -/
def expireKeys (layout : Layout) : Option Layout := do
  let expire (key : Option PossibleKey) : Option (Option PossibleKey) :=
    match key with
    | some key =>
      if !key.isLate layout.place then some (some key)
      else if key.required then none
      else some none
    | none => some none
  return { layout with
    key := ← expire layout.key
    outerKeys := ← layout.outerKeys.mapM expire }

/-! ### Between tokens -/

/-- Moves past blanks, comments and line ends. -/
def settleFrom (layout : Layout) (comment : Bool) : List Char → Layout
  | [] => layout
  | c :: rest =>
    let onward := { layout with place := layout.place.pass c }
    if isBreak c then
      -- A key may start in a line of its own.
      settleFrom { onward with keyAllowed := layout.keyAllowed || !layout.inFlow } false rest
    else if comment then settleFrom onward true rest
    -- A byte order mark may open the text.
    else if layout.place.index = 0 ∧ c = '\uFEFF' then settleFrom onward false rest
    else if c == ' ' then settleFrom onward false rest
    -- A tab does not indent.
    else if c == '\t' && (layout.inFlow || !layout.keyAllowed) then settleFrom onward false rest
    else if c == '#' then settleFrom onward true rest
    else layout

/-- Moves to the next token. -/
def settle (layout : Layout) : Layout :=
  layout.settleFrom false layout.place.rest

/-! ### Tokens -/

/-- A directive and the end of its line. -/
def scanDirective (layout : Layout) : Option Layout := do
  let layout ← (layout.closeBlocks fun _ => true).dropKey
  let (directive, rest) ← Yaml.scanDirective layout.place.rest.tail
  let place := (layout.place.upTo rest).skip 1
  return { layout.push (.directive directive) with place, keyAllowed := false }

/-- A mark between documents. -/
def scanMarker (layout : Layout) (token : Token) : Option Layout := do
  let layout ← (layout.closeBlocks fun _ => true).dropKey
  return { layout.mark token 3 with keyAllowed := false }

/-- The bracket that opens a flow collection. -/
def openFlow (layout : Layout) (token : Token) : Option Layout := do
  let layout ← layout.noteKey
  return { layout.mark token 1 with
    key := none, outerKeys := layout.key :: layout.outerKeys, keyAllowed := true }

/-- The bracket that closes a flow collection. -/
def closeFlow (layout : Layout) (token : Token) : Option Layout := do
  let layout ← layout.dropKey
  let layout := { layout.mark token 1 with keyAllowed := false }
  match layout.outerKeys with
  | [] => return layout
  | key :: outerKeys => return { layout with key, outerKeys }

/-- The comma between the entries of a flow collection. -/
def separateFlow (layout : Layout) : Option Layout := do
  let layout ← layout.dropKey
  return { layout.mark .flowEntry 1 with keyAllowed := true }

/-- The dash before an entry of a block sequence. -/
def scanDash (layout : Layout) : Option Layout := do
  if !layout.inFlow && !layout.keyAllowed then none
  let place := layout.place
  let layout := layout.openBlock place.column layout.tokens.size .blockSequenceStart
  let layout ← layout.dropKey
  return { layout.mark .blockEntry 1 with keyAllowed := true }

/-- The mark before a key. -/
def scanKeyMark (layout : Layout) : Option Layout := do
  if !layout.inFlow && !layout.keyAllowed then none
  let place := layout.place
  let layout := layout.openBlock place.column layout.tokens.size .blockMappingStart
  let layout ← layout.dropKey
  return { layout.mark .key 1 with keyAllowed := !layout.inFlow }

/-- The colon before a value, which makes a key of the possible key before it. -/
def scanColon (layout : Layout) : Option Layout :=
  match layout.key with
  | some key =>
    let layout := { layout with
      tokens := layout.tokens.insertIdxIfInBounds key.position Token.key
      key := none
      keyAllowed := false }
    let layout := layout.openBlock key.start.column key.position .blockMappingStart
    some (layout.mark .value 1)
  | none =>
    if !layout.inFlow && !layout.keyAllowed then none
    else
      let place := layout.place
      let layout := layout.openBlock place.column layout.tokens.size .blockMappingStart
      some { layout.mark .value 1 with keyAllowed := !layout.inFlow }

/-- Whether the name of a node may end before a text. -/
def endsName (rest : List Char) : Bool :=
  startsGap rest
    || rest.head?.any fun c => "?:,]\x7d%@".toList.contains c || c.toNat == 96

/-- A name for a node, after the character that gives or recalls it. -/
def scanName (layout : Layout) (token : String → Token) : Option Layout := do
  let layout ← layout.noteKey
  let name := layout.place.rest.tail.takeWhile isNameCharacter
  let place := layout.place.skip (name.length + 1)
  if name.isEmpty || !endsName place.rest then none
  return { layout.push (token (String.ofList name)) with place, keyAllowed := false }

/-- A tag. -/
def scanTag (layout : Layout) : Option Layout := do
  let layout ← layout.noteKey
  let (tag, rest) ← Yaml.scanTag layout.inFlow layout.place.rest.tail
  return { layout.push (.tag tag) with place := layout.place.upTo rest, keyAllowed := false }

/-- Adds a scalar with its text. -/
def pushScalar (layout : Layout) (style : ScalarStyle) (scanned : Scanned) : Layout :=
  { layout.push (.scalar style (String.ofList scanned.text)) with place := scanned.place }

/-- A scalar on lines of its own. -/
def scanBlock (layout : Layout) (style : ScalarStyle) : Option Layout := do
  let layout ← layout.dropKey
  let scanned ← Yaml.scanBlock layout.least layout.place
  return { layout.pushScalar style scanned with keyAllowed := true }

/-- A scalar between quotes. -/
def scanQuoted (layout : Layout) : Option Layout := do
  let layout ← layout.noteKey
  return { layout.pushScalar .quoted (← Yaml.scanQuoted layout.place) with keyAllowed := false }

/-- A scalar without quotes. -/
def scanPlain (layout : Layout) : Option Layout := do
  let layout ← layout.noteKey
  let scanned ← Yaml.scanPlain layout.inFlow layout.least layout.place
  -- A key may start in the line after the scalar.
  return { layout.pushScalar .plain scanned with keyAllowed := scanned.broken }

/-- Whether a character that marks nothing here may start a scalar without quotes. -/
def startsPlain (flow : Bool) (c : Char) : Bool :=
  c == '-' || (!flow && (c == '?' || c == ':'))
    || !(isGap c || "-?:,[]\x7b\x7d#&*!|>'\"%@".toList.contains c || c.toNat == 96)

/-- The token that starts here. -/
def scanToken (layout : Layout) : Option Layout :=
  let place := layout.place
  let flow := layout.inFlow
  if place.column == 0 && place.next? == some '%' then layout.scanDirective
  else if place.atMarker then
    layout.scanMarker (if place.next? == some '-' then .documentStart else .documentEnd)
  else
    match place.rest with
    | [] => some layout
    | '[' :: _ => layout.openFlow .flowSequenceStart
    | '{' :: _ => layout.openFlow .flowMappingStart
    | ']' :: _ => layout.closeFlow .flowSequenceEnd
    | '}' :: _ => layout.closeFlow .flowMappingEnd
    | ',' :: _ => layout.separateFlow
    | '*' :: _ => layout.scanName .reference
    | '&' :: _ => layout.scanName .anchor
    | '!' :: _ => layout.scanTag
    | '"' :: _ | '\'' :: _ => layout.scanQuoted
    | c :: rest =>
      if c == '-' && startsGap rest then layout.scanDash
      else if c == '?' && (flow || startsGap rest) then layout.scanKeyMark
      else if c == ':' && (flow || startsGap rest) then layout.scanColon
      else if c == '|' && !flow then layout.scanBlock .literal
      else if c == '>' && !flow then layout.scanBlock .folded
      else if startsPlain flow c then layout.scanPlain
      else none

/-- The tokens from here on, after those before; the fuel bounds their number. -/
def tokensFrom : Nat → Layout → Option (List Token)
  | 0, _ => none
  | fuel + 1, layout => do
    let layout ← layout.settle.expireKeys
    let layout := layout.closeBlocks (layout.place.column < ·)
    if layout.place.rest.isEmpty then
      let layout ← (layout.closeBlocks fun _ => true).dropKey
      return layout.tokens.toList
    tokensFrom fuel (← layout.scanToken)

end Layout

/-- The tokens of a text. -/
def tokenize (input : String) : Option (List Token) := do
  if !input.toList.all isAllowed then none
  let characters := unifyLineEnds input.toList
  Layout.tokensFrom (characters.length + 1) { place := { rest := characters } }

end TestPlan.Yaml
