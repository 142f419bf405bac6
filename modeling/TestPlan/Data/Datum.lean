import TestPlan.Data.Scalar
import TestPlan.Number.Binary

/-! Self-describing data trees and the rules by which typed values are read from them. -/

namespace TestPlan

/-- A tree of data, as a structured text describes it. -/
inductive Datum where
  | null
  | boolean (value : Bool)
  | integer (value : Int)
  | real (value : Binary64)
  | text (value : String)
  /-- A scalar whose notation leaves its type to the reader. -/
  | scalar (scalar : Scalar)
  | list (items : List Datum)
  | record (entries : List (String × Datum))
  /-- Well-formed text that denotes no value and may only be skipped. -/
  | unreadable
  deriving Inhabited

namespace Datum

mutual

/-- The number of lists and records along the deepest path. -/
def depth : Datum → Nat
  | .list items => depthOfItems items + 1
  | .record entries => depthOfEntries entries + 1
  | _ => 0

/-- The depth of the deepest item. -/
def depthOfItems : List Datum → Nat
  | [] => 0
  | item :: rest => max item.depth (depthOfItems rest)

/-- The depth of the deepest entry. -/
def depthOfEntries : List (String × Datum) → Nat
  | [] => 0
  | (_, value) :: rest => max value.depth (depthOfEntries rest)

end

mutual

/-- Whether every part of the tree denotes a value. -/
def isReadable : Datum → Bool
  | .list items => itemsReadable items
  | .record entries => entriesReadable entries
  | .unreadable => false
  | _ => true

/-- Whether every item denotes a value. -/
def itemsReadable : List Datum → Bool
  | [] => true
  | item :: rest => item.isReadable && itemsReadable rest

/-- Whether every entry denotes a value. -/
def entriesReadable : List (String × Datum) → Bool
  | [] => true
  | (_, value) :: rest => value.isReadable && entriesReadable rest

end

/-- Whether a tree can be read in full before its parts are interpreted. -/
def canBeHeld (room : Nat) (datum : Datum) : Bool :=
  datum.isReadable && decide (datum.depth ≤ room)

end Datum

/-! ### Reading scalars and lists -/

namespace Datum

/-- Reads a text, which a scalar of any kind is. -/
def asText : Datum → Option String
  | .text value => some value
  | .scalar written => some written.text
  | _ => none

/-- Reads a truth value. -/
def asBoolean : Datum → Option Bool
  | .boolean value => some value
  | .scalar written => written.boolean?
  | _ => none

/-- Reads an integer between two bounds; a number written as a real is none. -/
def asIntegerIn (low high : Int) (datum : Datum) : Option Int := do
  let value ← match datum with
    | .integer value => some value
    | .scalar written => Int.ofNat <$> written.natural?
    | _ => none
  if low ≤ value ∧ value ≤ high then some value else none

/-- Reads an optional value, absent when null. -/
def asOption {α : Type} (read : Datum → Option α) : Datum → Option (Option α)
  | .null => some none
  | .scalar written => do
    if ← written.isAbsent? then return none
    some <$> read (.scalar written)
  | datum => some <$> read datum

/-- Reads a natural number. -/
def asNatural : Datum → Option Nat
  | .integer value => value.toNat?
  | _ => none

/-- Reads every item of a list. -/
def asList {α : Type} (read : Datum → Option α) : Datum → Option (List α)
  | .list items => items.mapM read
  | _ => none

/-- The data of an optional value, null when it is absent. -/
def ofOption {α : Type} (encode : α → Datum) (value : Option α) : Datum :=
  (value.map encode).getD .null

end Datum

/-! ### Reading records -/

/-- How a list may stand for a structured value, its items being the parts in their order. -/
inductive ListRule where
  /-- No list does. -/
  | refused
  /-- A list with no more items than there are parts does. -/
  | fitting
  /-- Every list does, and the items past the last part are skipped. -/
  | leading
  deriving DecidableEq, Repr

/-- The named parts of a structured value, each name at most once. -/
structure Fields where
  entries : List (String × Datum)

namespace Fields

/-- The value of a part, if it is given. -/
def get? (fields : Fields) (name : String) : Option Datum :=
  fields.entries.lookup name

/-- Reads a part that must be given. -/
def required {α : Type} (fields : Fields) (name : String) (read : Datum → Option α) : Option α :=
  fields.get? name >>= read

/-- Reads a part that has a value of its own when it is not given. -/
def withDefault {α : Type} (fields : Fields) (name : String) (default : α)
    (read : Datum → Option α) : Option α :=
  match fields.get? name with
  | none => some default
  | some datum => read datum

end Fields

namespace Datum

/-- The known entries of a record, unless one is repeated; others are skipped. -/
def knownEntries (names : List String) (entries : List (String × Datum)) : Option Fields :=
  let known := entries.filter fun entry => names.contains entry.1
  if (known.map (·.1)).Nodup then some ⟨known⟩ else none

/-- The parts of a structured value, given by name or by position in the order of the names. -/
def fieldsBy (rule : ListRule) (names : List String) : Datum → Option Fields
  | .record entries => knownEntries names entries
  | .list items =>
    match rule with
    | .refused => none
    | .fitting => if items.length ≤ names.length then some ⟨names.zip items⟩ else none
    | .leading => some ⟨names.zip items⟩
  -- Where nothing is written there is a record with no entries.
  | .scalar written => if written.isEmpty then some ⟨[]⟩ else none
  | _ => none

/-- The parts of a structured value, where a list may stand for it if it fits. -/
def fields (names : List String) (datum : Datum) : Option Fields :=
  datum.fieldsBy .fitting names

/-- The name and content of a variant written as a record with one entry. -/
def variant? : Datum → Option (String × Datum)
  | .record [entry] => some entry
  | _ => none

/-- Whether a tree may stand as the content of a variant that has none. -/
def isUnit (held : Bool) : Datum → Bool
  | .null => true
  | .record [] => held
  | _ => false

/-- The name of a variant without content: a text, or a record with one empty entry. -/
def unitVariant? (held : Bool) (room : Nat) : Datum → Option String
  | .text name => some name
  | .record [(name, content)] => if 0 < room ∧ content.isUnit held then some name else none
  | _ => none

/-- The value of a part of a record, unless it is absent or null. -/
def part? (datum : Datum) (name : String) : Option Datum :=
  match datum with
  | .record entries => (entries.lookup name).filter fun found => !(found matches .null)
  | _ => none

/-- Reads a part that may be absent or null. -/
def optionalPart {α : Type} (datum : Datum) (name : String) (read : Datum → Option α) :
    Option (Option α) :=
  match datum.part? name with
  | none => some none
  | some found => some <$> read found

/-- A variant given by a tag and its content under two names of a record. -/
structure Tagged where
  tag : Datum
  content : Option Datum
  /-- Whether the content is written before the tag that says how to read it. -/
  contentFirst : Bool

/-- The tag and content of a variant, given by name or as a list of the two. -/
def tagged? (tagName contentName : String) : Datum → Option Tagged
  | .record entries => do
    let fields ← knownEntries [tagName, contentName] entries
    let tag ← fields.get? tagName
    return ⟨tag, fields.get? contentName, (fields.entries.map (·.1)).head? == some contentName⟩
  | .list [tag, content] => some ⟨tag, some content, false⟩
  | _ => none

/-- The tag of a variant written among its parts, and the parts without it. -/
def selfTagged? (tagName : String) : Datum → Option (Datum × Datum)
  | .record entries =>
    match entries.filter (·.1 == tagName) with
    | [(_, tag)] => some (tag, .record (entries.filter (·.1 != tagName)))
    | _ => none
  | .list (tag :: parts) => some (tag, .list parts)
  | _ => none

/-- The variant a tag names; a tag held since an outer variant may also be a position. -/
def tagName? (held : Bool) (names : List String) : Datum → Option String
  | .text name => some name
  | .integer position =>
    if held ∧ 0 ≤ position then names[position.toNat]? else none
  | _ => none

/-- Reads a value from a tree that is already complete, with room for all of its levels. -/
def readWith {α : Type} (read : Nat → Datum → Option α) (datum : Datum) : Option α :=
  read datum.depth datum

end Datum

end TestPlan
