import Mathlib.Data.List.Forall2
import Mathlib.Data.List.Nodup
import TestPlan.Data.Datum

/-! Data that readers turn back into a value, in whatever order the entries of its records stand. -/

namespace TestPlan

/-- The same data with the entries of each record in any order. -/
inductive Datum.Reordered : Datum → Datum → Prop
  | refl (datum : Datum) : Reordered datum datum
  | list {items others : List Datum} : List.Forall₂ Reordered items others →
      Reordered (.list items) (.list others)
  | record {entries others : List (String × Datum)} {values : List Datum} :
      List.Forall₂ Reordered (entries.map (·.2)) values →
      ((entries.map (·.1)).zip values).Perm others → Reordered (.record entries) (.record others)

namespace Datum

/-! ### Depth and readability -/

variable {room : Nat} {items : List Datum} {entries others : List (String × Datum)}

/-- A record fits when its entries do. -/
theorem depthOfEntries_le_iff :
    depthOfEntries entries ≤ room ↔ ∀ entry ∈ entries, entry.2.depth ≤ room := by
  induction entries with
  | nil => simp [depthOfEntries]
  | cons first rest ih => rw [depthOfEntries, Nat.max_le, ih, List.forall_mem_cons]

/-- Entries are readable together when each one is. -/
theorem entriesReadable_of_forall (readable : ∀ entry ∈ entries, entry.2.isReadable = true) :
    entriesReadable entries = true := by
  induction entries with
  | nil => rfl
  | cons first rest ih =>
    have parts := List.forall_mem_cons.mp readable
    rw [entriesReadable, parts.1, ih parts.2, Bool.and_self]

/-- An integer between the bounds is read. -/
theorem asIntegerIn_integer {low high value : Int} (above : low ≤ value) (below : value ≤ high) :
    (integer value).asIntegerIn low high = some value := by
  simp [asIntegerIn, above, below]

/-! ### Records in another order -/

namespace Reordered

/-- Each entry of a reordered record stands for an entry of the same name. -/
theorem exists_of_mem {values : List Datum}
    (related : List.Forall₂ Reordered (entries.map (·.2)) values)
    (moved : ((entries.map (·.1)).zip values).Perm others) {found : String × Datum}
    (member : found ∈ others) :
    ∃ entry ∈ entries, entry.1 = found.1 ∧ entry.2.Reordered found.2 := by
  have kept := moved.mem_iff.mpr member
  clear moved member
  -- The induction follows the entries and the values that stand for theirs.
  induction entries generalizing values with
  | nil => simp at kept
  | cons first rest ih =>
    obtain ⟨name, value⟩ := first
    cases related with
    | cons same later =>
      rcases List.mem_cons.mp kept with rfl | after
      · exact ⟨_, List.mem_cons_self, rfl, same⟩
      · obtain ⟨entry, inside, facts⟩ := ih later after
        exact ⟨entry, List.mem_cons_of_mem _ inside, facts⟩

/-- Each entry of a record stands in a reordered one under its name. -/
theorem exists_mem {values : List Datum}
    (related : List.Forall₂ Reordered (entries.map (·.2)) values)
    (moved : ((entries.map (·.1)).zip values).Perm others) {entry : String × Datum}
    (member : entry ∈ entries) :
    ∃ other, (entry.1, other) ∈ others ∧ entry.2.Reordered other := by
  suffices ∃ other, (entry.1, other) ∈ (entries.map (·.1)).zip values ∧ entry.2.Reordered other by
    obtain ⟨other, kept, same⟩ := this
    exact ⟨other, moved.mem_iff.mp kept, same⟩
  clear moved
  induction entries generalizing values with
  | nil => cases member
  | cons first rest ih =>
    cases related with
    | cons same later =>
      rcases List.mem_cons.mp member with rfl | after
      · exact ⟨_, List.mem_cons_self, same⟩
      · obtain ⟨other, inside, facts⟩ := ih later after
        exact ⟨other, List.mem_cons_of_mem _ inside, facts⟩

/-- A reordered record has the same names. -/
theorem names_perm {values : List Datum}
    (related : List.Forall₂ Reordered (entries.map (·.2)) values)
    (moved : ((entries.map (·.1)).zip values).Perm others) :
    (others.map (·.1)).Perm (entries.map (·.1)) := by
  have lengths := related.length_eq
  have names : ((entries.map (·.1)).zip values).map (·.1) = entries.map (·.1) := by
    apply List.map_fst_zip
    rw [List.length_map] at lengths ⊢
    exact Nat.le_of_eq lengths
  exact names ▸ (moved.map (·.1)).symm

/-- What is a record in another order is one. -/
theorem exists_record {datum : Datum} (reordered : Reordered (.record entries) datum) :
    ∃ others values, datum = .record others ∧
      List.Forall₂ Reordered (entries.map (·.2)) values ∧
      ((entries.map (·.1)).zip values).Perm others := by
  cases reordered with
  | refl =>
    refine ⟨entries, entries.map (·.2), rfl, List.forall₂_same.mpr fun value _ => .refl value, ?_⟩
    rw [← List.unzip_fst, ← List.unzip_snd, List.zip_unzip]
  | record related moved => exact ⟨_, _, rfl, related, moved⟩

/-- A record with one entry has only one order. -/
theorem exists_entry {name : String} {datum other : Datum}
    (reordered : Reordered (.record [(name, datum)]) other) :
    ∃ value, other = .record [(name, value)] ∧ datum.Reordered value := by
  obtain ⟨others, values, rfl, related, moved⟩ := reordered.exists_record
  obtain _ | ⟨same, ⟨⟩⟩ := related
  obtain rfl := List.singleton_perm.mp moved
  exact ⟨_, rfl, same⟩

/-- Texts have no other order. -/
theorem eq_texts {texts : List String} {values : List Datum}
    (related : List.Forall₂ Reordered (texts.map .text) values) : values = texts.map .text := by
  induction texts generalizing values with
  | nil =>
    cases related
    rfl
  | cons first rest ih =>
    obtain _ | ⟨⟨⟩, later⟩ := related
    rw [ih later, List.map_cons]

/-- A record of texts in another order has the same entries. -/
theorem exists_texts {entries : List (String × String)} {datum : Datum}
    (reordered : Reordered (.record (entries.map fun entry => (entry.1, .text entry.2))) datum) :
    ∃ others : List (String × String),
      datum = .record (others.map fun entry => (entry.1, .text entry.2)) ∧
      others.Perm entries := by
  obtain ⟨others, values, rfl, related, moved⟩ := reordered.exists_record
  have kept : (entries.map fun entry => (entry.1, Datum.text entry.2)).Perm others := by
    have same : values = (entries.map (·.2)).map .text := eq_texts (by simpa using related)
    rw [same] at moved
    simpa [List.zip_map', Function.comp_def] using moved
  -- The texts are taken out of the entries, which puts them back as they were.
  let texts := others.map fun entry => (entry.1, (entry.2.asText).getD "")
  have texts_perm : texts.Perm entries := by
    have taken := (kept.map fun entry => (entry.1, (entry.2.asText).getD "")).symm
    simp only [List.map_map, Function.comp_def, asText, Option.getD_some, List.map_id'] at taken
    exact taken
  have restored : others = texts.map fun entry => (entry.1, .text entry.2) := by
    rw [List.map_map]
    refine (List.map_id' others).symm.trans (List.map_congr_left fun entry member => ?_)
    obtain ⟨found, -, rfl⟩ := List.mem_map.mp (kept.mem_iff.mpr member)
    rfl
  exact ⟨texts, by rw [← restored], texts_perm⟩

/-- What is a list with its records in another order is a list. -/
theorem exists_list {datum : Datum} (reordered : Reordered (.list items) datum) :
    ∃ others, datum = .list others ∧ List.Forall₂ Reordered items others := by
  cases reordered with
  | refl => exact ⟨items, rfl, List.forall₂_same.mpr fun value _ => .refl value⟩
  | list related => exact ⟨_, rfl, related⟩

/-- Items in another order of their records fit where the items do. -/
theorem depthOfItems_le {items others : List Datum} {room : Nat}
    (related : List.Forall₂ Reordered items others)
    (each : ∀ item ∈ items, ∀ other, item.Reordered other → other.depth ≤ item.depth)
    (fits : depthOfItems items ≤ room) : depthOfItems others ≤ room := by
  induction related with
  | nil => exact fits
  | cons same _ ih =>
    have parts := List.forall_mem_cons.mp each
    have bounds := Nat.max_le.mp fits
    rw [depthOfItems]
    exact Nat.max_le.mpr ⟨Nat.le_trans (parts.1 _ same) bounds.1, ih parts.2 bounds.2⟩

/-- Data in another order is no deeper. -/
theorem depth_le {datum other : Datum} (reordered : datum.Reordered other) :
    other.depth ≤ datum.depth := by
  -- The recursion is on the data, whose items and entries are smaller.
  match datum with
  | .list items =>
    obtain ⟨others, rfl, related⟩ := reordered.exists_list
    exact Nat.succ_le_succ (depthOfItems_le related
      (fun item member other same => depth_le same) (Nat.le_refl _))
  | .record entries =>
    obtain ⟨others, values, rfl, related, moved⟩ := reordered.exists_record
    refine Nat.succ_le_succ (depthOfEntries_le_iff.mpr fun found member => ?_)
    obtain ⟨entry, inside, -, same⟩ := exists_of_mem related moved member
    exact Nat.le_trans (depth_le same) (depthOfEntries_le_iff.mp (Nat.le_refl _) entry inside)
  | .null | .boolean _ | .integer _ | .real _ | .text _ | .scalar _ | .unreadable =>
    cases reordered
    exact Nat.le_refl _
termination_by sizeOf datum
decreasing_by
  · have smaller := List.sizeOf_lt_of_mem member
    simp only [list.sizeOf_spec]
    omega
  · have smaller := List.sizeOf_lt_of_mem inside
    have part : sizeOf entry.2 < sizeOf entry := by
      cases entry
      simp only [Prod.mk.sizeOf_spec]
      omega
    simp only [record.sizeOf_spec]
    omega

end Reordered

/-- Data in which every reader of a kind, given room for it, finds a value. -/
structure ReadsBack {α : Type} (read : Nat → Datum → Option α) (datum : Datum) (value : α) :
    Prop where
  readable : ∀ {other : Datum}, datum.Reordered other → other.isReadable = true
  reads : ∀ {other : Datum} {room : Nat}, datum.Reordered other → other.depth ≤ room →
    read room other = some value

end Datum

/-- A part is given, in some order, by data that fits the room. -/
def Fields.Holds (fields : Fields) (room : Nat) (name : String) (datum : Datum) : Prop :=
  ∃ other, fields.get? name = some other ∧ datum.Reordered other ∧ other.depth ≤ room

namespace Fields.Holds

variable {α : Type} {fields : Fields} {room : Nat} {name : String} {datum : Datum}
  {read : Nat → Datum → Option α} {value : α}

/-- A part that must be given is read. -/
theorem required (holds : fields.Holds room name datum) (back : datum.ReadsBack read value) :
    fields.required name (read room) = some value := by
  obtain ⟨other, given, reordered, fits⟩ := holds
  rw [Fields.required, given, Option.bind_eq_bind, Option.bind_some, back.reads reordered fits]

/-- A part that need not be given is read where it is. -/
theorem withDefault (holds : fields.Holds room name datum) (back : datum.ReadsBack read value)
    (default : α) : fields.withDefault name default (read room) = some value := by
  obtain ⟨other, given, reordered, fits⟩ := holds
  rw [Fields.withDefault, given]
  exact back.reads reordered fits

end Fields.Holds

namespace Datum.ReadsBack

/-! ### Scalars -/

/-- A text reads back. -/
theorem text (value : String) : ReadsBack (fun _ => asText) (.text value) value where
  readable reordered := by cases reordered; rfl
  reads reordered _ := by cases reordered; rfl

/-- A truth value reads back. -/
theorem boolean (value : Bool) : ReadsBack (fun _ => asBoolean) (.boolean value) value where
  readable reordered := by cases reordered; rfl
  reads reordered _ := by cases reordered; rfl

/-! ### Lists -/

section Lists

variable {β : Type} {values : List β} {encode : β → Datum} {items : List Datum}
  {read : Nat → Datum → Option β} {room : Nat}

/-- Items that read back one by one are readable. -/
theorem items_readable (each : ∀ value ∈ values, ReadsBack read (encode value) value)
    (reordered : List.Forall₂ Reordered (values.map encode) items) :
    itemsReadable items = true := by
  -- The induction follows the values and the items that stand for them.
  induction values generalizing items with
  | nil =>
    cases reordered
    rfl
  | cons first rest ih =>
    cases reordered with
    | cons same later =>
      have parts := List.forall_mem_cons.mp each
      rw [itemsReadable, parts.1.readable same, ih parts.2 later, Bool.and_self]

/-- Items that read back one by one are read one after the other. -/
theorem mapM_eq (each : ∀ value ∈ values, ReadsBack read (encode value) value)
    (reordered : List.Forall₂ Reordered (values.map encode) items)
    (fits : depthOfItems items ≤ room) : items.mapM (read room) = some values := by
  induction values generalizing items with
  | nil =>
    cases reordered
    rfl
  | cons first rest ih =>
    cases reordered with
    | cons same later =>
      have parts := List.forall_mem_cons.mp each
      have bounds := Nat.max_le.mp fits
      rw [List.mapM_cons, parts.1.reads same bounds.1, ih parts.2 later bounds.2]
      rfl

/-- A list of data that reads back item by item reads back. -/
theorem list {readAll : Nat → Datum → Option (List β)}
    (unfolds : ∀ room datum, readAll (room + 1) datum = datum.asList (read room))
    (each : ∀ value ∈ values, ReadsBack read (encode value) value) :
    ReadsBack readAll (.list (values.map encode)) values where
  readable reordered := by
    obtain ⟨others, rfl, related⟩ := reordered.exists_list
    exact items_readable each related
  reads {other room} reordered fits := by
    obtain ⟨others, rfl, related⟩ := reordered.exists_list
    -- A list takes one level itself, and the items fit what is left.
    obtain ⟨inner, rfl⟩ : ∃ inner, room = inner + 1 :=
      Nat.exists_eq_add_of_le' (Nat.le_trans (Nat.le_add_left 1 _) fits)
    rw [unfolds, asList]
    exact mapM_eq each related (Nat.le_of_succ_le_succ fits)

end Lists

end Datum.ReadsBack

namespace Datum

/-! ### Optional values -/

/-- Whether the data is written out: neither null nor a scalar whose type is left open. -/
def isGiven : Datum → Bool
  | .null | .scalar _ => false
  | _ => true

/-- Data that is written out stays so in another order. -/
theorem Reordered.isGiven_eq {datum other : Datum} (reordered : datum.Reordered other) :
    other.isGiven = datum.isGiven := by
  cases reordered <;> rfl

/-- An optional value is read from data that is written out as the value itself. -/
theorem asOption_of_isGiven {α : Type} {datum : Datum} (read : Datum → Option α)
    (given : datum.isGiven = true) : datum.asOption read = some <$> read datum := by
  cases datum <;> first | rfl | cases given

/-- An optional value reads back, whether it is present or not. -/
theorem ReadsBack.option {β : Type} {value : Option β} {encode : β → Datum}
    {read : Nat → Datum → Option β}
    (given : ∀ found ∈ value, (encode found).isGiven = true)
    (each : ∀ found ∈ value, ReadsBack read (encode found) found) :
    ReadsBack (fun room => asOption (read room)) (ofOption encode value) value := by
  cases value with
  | none =>
    refine ⟨fun reordered => ?_, fun reordered _ => ?_⟩
    · cases reordered
      rfl
    · cases reordered
      rfl
  | some found =>
    have back := each found rfl
    refine ⟨back.readable, fun {other room} reordered fits => ?_⟩
    have present : other.isGiven = true := reordered.isGiven_eq.trans (given found rfl)
    change other.asOption (read room) = _
    rw [asOption_of_isGiven _ present, back.reads reordered fits]
    rfl

end Datum

namespace Fields.Holds

variable {fields : Fields} {room : Nat} {name : String}

/-- A text that must be given is read. -/
theorem text {value : String} (holds : fields.Holds room name (.text value)) :
    fields.required name Datum.asText = some value :=
  holds.required (.text value)

/-- A text that need not be given is read where it is. -/
theorem textOr {value : String} (holds : fields.Holds room name (.text value))
    (default : String) : fields.withDefault name default Datum.asText = some value :=
  holds.withDefault (.text value) default

/-- A truth value is read. -/
theorem boolean {value : Bool} (holds : fields.Holds room name (.boolean value))
    (default : Bool) : fields.withDefault name default Datum.asBoolean = some value :=
  holds.withDefault (.boolean value) default

end Fields.Holds

namespace Datum

/-! ### Records -/

/-- The value at a name that stands once. -/
theorem lookup_of_mem {entries : List (String × Datum)} {name : String} {datum : Datum}
    (distinct : (entries.map (·.1)).Nodup) (member : (name, datum) ∈ entries) :
    entries.lookup name = some datum := by
  induction entries with
  | nil => cases member
  | cons first rest ih =>
    have ⟨unique, others⟩ := List.nodup_cons.mp distinct
    rcases List.mem_cons.mp member with rfl | later
    · exact List.lookup_cons_self
    · -- The first name is another one, since this name stands further on.
      have apart : (name == first.1) = false := by
        rw [beq_eq_false_iff_ne]
        rintro rfl
        exact unique (List.mem_map.mpr ⟨_, later, rfl⟩)
      rw [List.lookup_cons, apart]
      exact ih others later

/-- Data of which every order is readable. -/
def Complete (datum : Datum) : Prop :=
  ∀ other, datum.Reordered other → other.isReadable = true

/-- A text is complete. -/
@[simp]
theorem complete_text (value : String) : (text value).Complete := by
  rintro _ ⟨⟩
  rfl

/-- A truth value is complete. -/
@[simp]
theorem complete_boolean (value : Bool) : (boolean value).Complete := by
  rintro _ ⟨⟩
  rfl

/-- Data that reads back is complete. -/
theorem ReadsBack.complete {α : Type} {read : Nat → Datum → Option α} {datum : Datum} {value : α}
    (back : datum.ReadsBack read value) : datum.Complete :=
  fun _ reordered => back.readable reordered

/-- A record takes one level itself. -/
theorem exists_inner_of_record {entries : List (String × Datum)} {room : Nat}
    (fits : (record entries).depth ≤ room) : ∃ inner, room = inner + 1 :=
  Nat.exists_eq_add_of_le' (Nat.le_trans (Nat.le_add_left 1 _) fits)

/-- A record in some order gives all of its parts, under names that are all known. -/
theorem Reordered.holds {entries others : List (String × Datum)} {given : List String}
    {room : Nat} (reordered : Reordered (.record entries) (.record others)) (names : List String)
    (named : entries.map (·.1) = given) (distinct : given.Nodup) (usual : given ⊆ names)
    (fits : depthOfEntries others ≤ room) :
    knownEntries names others = some ⟨others⟩ ∧
      ∀ entry ∈ entries, (⟨others⟩ : Fields).Holds room entry.1 entry.2 := by
  obtain ⟨_, values, ⟨⟩, related, moved⟩ := reordered.exists_record
  have sameNames := names_perm related moved
  rw [named] at sameNames
  have once := sameNames.symm.nodup distinct
  have known : (others.filter fun entry => names.contains entry.1) = others := by
    refine List.filter_eq_self.mpr fun entry member => ?_
    exact List.contains_iff_mem.mpr (usual (sameNames.mem_iff.mp (List.mem_map_of_mem member)))
  refine ⟨by rw [knownEntries, known, if_pos once], fun entry member => ?_⟩
  obtain ⟨other, inside, same⟩ := exists_mem related moved member
  exact ⟨other, lookup_of_mem once inside, same, depthOfEntries_le_iff.mp fits _ inside⟩

/-- A record whose parts are all complete is complete. -/
theorem complete_record {entries : List (String × Datum)}
    (each : ∀ entry ∈ entries, entry.2.Complete) : (record entries).Complete := by
  intro datum reordered
  obtain ⟨others, values, rfl, related, moved⟩ := reordered.exists_record
  refine entriesReadable_of_forall fun found member => ?_
  obtain ⟨entry, inside, -, same⟩ := Reordered.exists_of_mem related moved member
  exact each entry inside _ same

/-- A record reads back when its parts are complete and its reader finds the value by them. -/
theorem ReadsBack.record {α : Type} {read : Nat → Datum → Option α} {value : α}
    {entries : List (String × Datum)} (names : List String)
    (named : entries.map (·.1) = names) (distinct : names.Nodup)
    (complete : ∀ entry ∈ entries, entry.2.Complete)
    (reads : ∀ room fields others, knownEntries names others = some fields →
      (∀ entry ∈ entries, fields.Holds room entry.1 entry.2) →
      read (room + 1) (.record others) = some value) :
    ReadsBack read (.record entries) value where
  readable reordered := complete_record complete _ reordered
  reads {other room} reordered fits := by
    obtain ⟨others, values, rfl, -, -⟩ := reordered.exists_record
    obtain ⟨inner, rfl⟩ := exists_inner_of_record fits
    obtain ⟨known, holds⟩ := reordered.holds names named distinct (List.Subset.refl _)
      (Nat.le_of_succ_le_succ fits)
    exact reads inner _ others known holds

/-! ### Records with a tag among their parts -/

/-- A tag among the parts of a record is taken out, wherever it stands. -/
theorem Reordered.selfTagged {tagName tag : String} {parts others : List (String × Datum)}
    (reordered : Reordered (.record ((tagName, .text tag) :: parts)) (.record others))
    (apart : tagName ∉ parts.map (·.1)) :
    (Datum.record others).selfTagged? tagName
        = some (.text tag, .record (others.filter (·.1 != tagName))) ∧
      Reordered (.record parts) (.record (others.filter (·.1 != tagName))) := by
  obtain ⟨_, _, ⟨⟩, related, moved⟩ := reordered.exists_record
  obtain _ | @⟨_, _, _, values, ⟨⟩, related⟩ := related
  -- No part has the name of the tag, so the two are told apart by it.
  have differs : ∀ entry ∈ (parts.map (·.1)).zip values, entry.1 ≠ tagName := by
    rintro ⟨name, value⟩ member rfl
    exact apart (List.of_mem_zip member).1
  have alone : ((parts.map (·.1)).zip values).filter (·.1 == tagName) = [] := by
    refine List.filter_eq_nil_iff.mpr fun entry member => ?_
    simpa using differs entry member
  have kept : ((parts.map (·.1)).zip values).filter (·.1 != tagName)
      = (parts.map (·.1)).zip values := by
    refine List.filter_eq_self.mpr fun entry member => ?_
    simpa using differs entry member
  have tags := moved.filter (·.1 == tagName)
  have rest := moved.filter (·.1 != tagName)
  simp only [List.map_cons, List.zip_cons_cons, List.filter_cons, beq_self_eq_true, if_true,
    alone] at tags
  simp only [List.map_cons, List.zip_cons_cons, List.filter_cons, bne_self_eq_false, kept] at rest
  refine ⟨?_, .record related (by simpa using rest)⟩
  rw [selfTagged?, ← List.singleton_perm.mp tags]

/-- A record with a tag reads back when its parts are complete and its reader finds the value. -/
theorem ReadsBack.selfTagged {α : Type} {read : Nat → Datum → Option α} {value : α}
    {tagName tag : String} {parts : List (String × Datum)} (names : List String)
    (named : parts.map (·.1) = names) (distinct : (tagName :: names).Nodup)
    (complete : ∀ entry ∈ parts, entry.2.Complete)
    (reads : ∀ room datum rest fields, datum.canBeHeld (room + 1) = true →
      datum.selfTagged? tagName = some (.text tag, rest) → rest.fields names = some fields →
      (∀ entry ∈ parts, fields.Holds room entry.1 entry.2) →
      read (room + 1) datum = some value) :
    ReadsBack read (.record ((tagName, .text tag) :: parts)) value := by
  have whole : (Datum.record ((tagName, .text tag) :: parts)).Complete :=
    complete_record (List.forall_mem_cons.mpr ⟨complete_text tag, complete⟩)
  refine ⟨whole _, fun {other room} reordered fits => ?_⟩
  obtain ⟨others, values, rfl, -, -⟩ := reordered.exists_record
  obtain ⟨inner, rfl⟩ := exists_inner_of_record fits
  obtain ⟨unique, distinct⟩ := List.nodup_cons.mp distinct
  obtain ⟨tagged, rest⟩ := reordered.selfTagged (named ▸ unique)
  have holdable : (Datum.record others).canBeHeld (inner + 1) = true := by
    rw [canBeHeld, whole _ reordered, decide_eq_true fits]
    rfl
  -- What is left without the tag is no deeper than the whole.
  have shallow : depthOfEntries (others.filter (·.1 != tagName)) ≤ inner :=
    depthOfEntries_le_iff.mpr fun entry member =>
      depthOfEntries_le_iff.mp (Nat.le_of_succ_le_succ fits) entry (List.mem_of_mem_filter member)
  obtain ⟨known, holds⟩ := rest.holds names named distinct (List.Subset.refl _) shallow
  exact reads inner _ _ _ holdable tagged known holds

end Datum

end TestPlan
