import TestPlan.Data.Yaml.Place
import TestPlan.Number.Digits

/-! The texts of YAML scalars: how each style ends, folds its lines and escapes characters. -/

namespace TestPlan.Yaml

/-! ### Gaps between words -/

/-- What stands between two words of a text that may go on over several lines. -/
structure Gap where
  /-- The blanks before the first line end. -/
  blanks : List Char := []
  /-- Whether a line ends in the gap. -/
  broken : Bool := false
  /-- The first line end, nothing if it is escaped. -/
  first : List Char := []
  /-- The other line ends. -/
  further : List Char := []

namespace Gap

/-- The text that a gap becomes: one line feed folds to a blank, the first of several is dropped. -/
def text (gap : Gap) : List Char :=
  if !gap.broken then gap.blanks
  else if gap.first != ['\n'] then gap.first ++ gap.further
  else if gap.further.isEmpty then [' ']
  else gap.further

/-- Adds a character to a gap; a tab is refused where a line must be indented with blanks. -/
def add (least : Nat) (state : Gap × Place) (c : Char) : Option (Gap × Place) :=
  let (gap, place) := state
  if isBreak c then
    if gap.broken then some ({ gap with further := gap.further ++ [c] }, place.pass c)
    else some ({ gap with broken := true, first := [c] }, place.pass c)
  else if !gap.broken then some ({ gap with blanks := gap.blanks ++ [c] }, place.pass c)
  else if c == '\t' && place.column < least then none
  else some (gap, place.pass c)

/-- The gap here, added to what there is of it, and the place after it. -/
def scan (least : Nat) (gap : Gap) (place : Place) : Option (Gap × Place) :=
  (place.rest.takeWhile isGap).foldlM (add least) (gap, place)

end Gap

/-! ### Plain texts -/

/-- The word of a plain text that starts here, empty where the text ends. -/
def plainWord (flow : Bool) : List Char → Option (List Char)
  | [] => some []
  | c :: rest =>
    if isGap c then some []
    else if flow && c == ':' && rest.head?.any fun next => isFlowIndicator next || next == '?' then
      none
    else if (c == ':' && startsGap rest) || (flow && isFlowIndicator c) then some []
    else (c :: ·) <$> plainWord flow rest

/-- A text, and where it ends. -/
structure Scanned where
  text : List Char
  place : Place
  /-- Whether a line end follows the text, and is passed. -/
  broken : Bool := false

/-- The words of a plain text from here on, of which a gap was passed before. -/
def plainWords (flow : Bool) (least : Nat) : Nat → Gap → Place → Option Scanned
  | 0, _, _ => none
  | fuel + 1, gap, place => do
    let word ← if place.atMarker || place.next? == some '#' then some [] else
      plainWord flow place.rest
    if word.isEmpty then return ⟨[], place, gap.broken⟩
    let text := gap.text ++ word
    let (gap, place) ← Gap.scan least {} (place.passAll word)
    -- A line that is indented less does not belong to the text.
    if !flow && gap.broken && place.column < least then return ⟨text, place, true⟩
    let more ← plainWords flow least fuel gap place
    return { more with text := text ++ more.text }

/-- The plain text that starts here. -/
def scanPlain (flow : Bool) (least : Nat) (place : Place) : Option Scanned :=
  plainWords flow least (place.rest.length + 1) {} place

/-! ### Quoted texts -/

/-- A character given by so many hexadecimal digits, and their number and one more. -/
def scanCode (width : Nat) (rest : List Char) : Option (Char × Nat) := do
  if (rest.take width).length < width then none
  let code ← Digits.natural? 16 (rest.take width)
  if code.isValidChar then some (Char.ofNat code, width + 1) else none

/-- The character that an escape stands for, and the number of characters after the backslash. -/
def scanEscape : List Char → Option (Char × Nat)
  | '0' :: _ => some ('\x00', 1)
  | 'a' :: _ => some ('\x07', 1)
  | 'b' :: _ => some ('\x08', 1)
  | 't' :: _ | '\t' :: _ => some ('\t', 1)
  | 'n' :: _ => some ('\n', 1)
  | 'v' :: _ => some ('\x0b', 1)
  | 'f' :: _ => some ('\x0c', 1)
  | 'r' :: _ => some ('\r', 1)
  | 'e' :: _ => some ('\x1b', 1)
  | ' ' :: _ => some (' ', 1)
  | '"' :: _ => some ('"', 1)
  | '/' :: _ => some ('/', 1)
  | '\\' :: _ => some ('\\', 1)
  | 'N' :: _ => some ('\u0085', 1)
  | '_' :: _ => some ('\u00a0', 1)
  | 'L' :: _ => some ('\u2028', 1)
  | 'P' :: _ => some ('\u2029', 1)
  | 'x' :: rest => scanCode 2 rest
  | 'u' :: rest => scanCode 4 rest
  | 'U' :: rest => scanCode 8 rest
  | _ => none

/-- The word of a quoted text that starts here, after so many characters that are already read,
and what is left after it. -/
def quotedWord (quote : Char) : Nat → List Char → Option (List Char × List Char)
  | _, [] => some ([], [])
  | skip + 1, _ :: rest => quotedWord quote skip rest
  | 0, c :: rest =>
    if isGap c then some ([], c :: rest)
    else if c == quote then
      -- A single quote inside a text is written twice.
      if quote == '\'' && rest.head? == some '\'' then
        (quotedWord quote 1 rest).map (.map (c :: ·) id)
      else some ([], c :: rest)
    else if c == '\\' && quote == '"' then
      if rest.head?.any isBreak then some ([], c :: rest)
      else do
        let (escaped, width) ← scanEscape rest
        (quotedWord quote width rest).map (.map (escaped :: ·) id)
    else (quotedWord quote 0 rest).map (.map (c :: ·) id)

/-- The words of a quoted text from here on, through the closing quote. -/
def quotedWords (quote : Char) : Nat → Place → Option Scanned
  | 0, _ => none
  | fuel + 1, place => do
    if place.atMarker || place.rest.isEmpty then none
    let (word, rest) ← quotedWord quote 0 place.rest
    let place := place.upTo rest
    if place.next? == some quote then return ⟨word, place.skip 1, false⟩
    let (gap, place) ←
      -- An escaped line end joins its line to the next one.
      if place.next? == some '\\' then Gap.scan 0 { broken := true } (place.skip 2)
      else Gap.scan 0 {} place
    let more ← quotedWords quote fuel place
    return { more with text := word ++ gap.text ++ more.text }

/-- The quoted text that starts here with its opening quote. -/
def scanQuoted (place : Place) : Option Scanned := do
  quotedWords (← place.next?) (place.rest.length + 1) (place.skip 1)

/-! ### Block texts -/

/-- What is done with the line ends after the last line of a block text. -/
inductive Chomping where
  | strip
  | clip
  | keep
  deriving DecidableEq

/-- What the first line of a block text says about it. -/
structure BlockHeader where
  folded : Bool
  chomping : Chomping
  /-- The indentation beyond that of the surroundings, when it is given. -/
  increment : Option Nat

/-- The sign that says how line ends are chomped. -/
def scanChomping : List Char → Option Chomping × List Char
  | '+' :: rest => (some .keep, rest)
  | '-' :: rest => (some .strip, rest)
  | rest => (none, rest)

/-- The digit that gives the indentation, which is not zero. -/
def scanIncrement : List Char → Option (Option Nat × List Char)
  | c :: rest =>
    if c == '0' then none
    else if c.isDigit then some (Digits.value? 10 c, rest)
    else some (none, c :: rest)
  | [] => some (none, [])

/-- The header of a block text, through the end of its line. -/
def scanHeader (place : Place) : Option (BlockHeader × Place) := do
  let folded := place.next? == some '>'
  let (before, rest) := scanChomping place.rest.tail
  let (increment, rest) ← scanIncrement rest
  -- The two signs may stand in either order.
  let (chomping, rest) := if before.isSome || increment.isNone then (before, rest) else
    scanChomping rest
  let rest := rest.dropWhile isBlank
  let rest := if rest.head? == some '#' then rest.dropWhile (!isBreak ·) else rest
  if !rest.head?.all isBreak then none
  return (⟨folded, chomping.getD .clip, increment⟩, (place.upTo rest).skip 1)

/-- The empty lines from here on. -/
structure EmptyLines where
  /-- The greatest column that their blanks reach. -/
  deepest : Nat := 0
  /-- Their line ends. -/
  breaks : List Char := []

/-- The empty lines from here on, and the place in the first line that is not empty: after its
indentation if it is known, and else after its blanks. -/
def scanEmptyLines (indent : Option Nat) : Nat → EmptyLines → Place → Option (EmptyLines × Place)
  | 0, _, _ => none
  | fuel + 1, lines, place =>
    let blanks := place.rest.takeWhile (· == ' ')
    let blanks := match indent with
      | some indent => blanks.take (indent - place.column)
      | none => blanks
    let place := place.passAll blanks
    let lines := { lines with deepest := max lines.deepest place.column }
    match place.next? with
    | some c =>
      if isBreak c then
        scanEmptyLines indent fuel { lines with breaks := lines.breaks ++ [c] } (place.pass c)
      -- A tab does not indent.
      else if c == '\t' && indent.all (place.column < ·) then none
      else some (lines, place)
    | none => some (lines, place)

/-- The lines of a block text from here on, after a line end and empty lines, where `spaced` says
whether the line before starts with a blank. -/
def blockLines (header : BlockHeader) (indent : Nat) :
    Nat → Bool → List Char → List Char → Place → Option Scanned
  | 0, _, _, _, _ => none
  | fuel + 1, spaced, first, further, place =>
    if place.rest.isEmpty || place.column != indent then
      let ending := match header.chomping with
        | .strip => []
        | .clip => first
        | .keep => first ++ further
      some ⟨ending, place, false⟩
    else do
      let spacedHere := place.next?.any isBlank
      -- A line end between two ordinary lines folds like that of a plain text.
      let joint :=
        if header.folded && !spaced && !spacedHere then
          Gap.text { broken := true, first, further }
        else first ++ further
      let line := place.rest.takeWhile (!isBreak ·)
      let place := place.passAll line
      let first := place.next?.toList
      let (lines, place) ←
        scanEmptyLines (some indent) (place.rest.length + 1) {} (place.passAll first)
      let more ← blockLines header indent fuel spacedHere first lines.breaks place
      return { more with text := joint ++ line ++ more.text }

/-- The block text that starts here with its header, inside a block collection whose entries are
indented by at least so many columns. -/
def scanBlock (least : Nat) (place : Place) : Option Scanned := do
  let (header, place) ← scanHeader place
  let given := header.increment.map (least - 1 + ·)
  let (lines, place) ← scanEmptyLines given (place.rest.length + 1) {} place
  let indent := given.getD (max lines.deepest (max least 1))
  blockLines header indent (place.rest.length + 1) false [] lines.breaks place

end TestPlan.Yaml
