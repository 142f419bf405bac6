import TestPlan.Config.Codec
import TestPlan.Proofs.Data.Json
import TestPlan.Proofs.Data.ReadsBack

/-! Configurations read back from their data. -/

namespace TestPlan

open Datum

/-! ### Tables of routines -/

namespace RoutineTable

variable {entries others : List (String × String)} {table : RoutineTable}

/-- Placing an entry under a name that is not there yet only adds the entry. -/
theorem place_perm {entry : String × String} (fresh : entry.1 ∉ entries.map (·.1)) :
    (place entry entries).Perm (entry :: entries) := by
  induction entries with
  | nil => exact .refl _
  | cons first rest ih =>
    rw [List.map_cons, List.mem_cons, not_or] at fresh
    unfold place
    split
    · exact .refl _
    · rw [if_neg fresh.1]
      exact ((ih fresh.2).cons first).trans (.swap _ _ _)

/-- Entries of distinct names that are inserted one after the other are all in the table. -/
theorem foldl_insert_perm (distinct : ((table.entries ++ entries).map (·.1)).Nodup) :
    (entries.foldl (fun table entry => table.insert entry.1 entry.2) table).entries.Perm
      (table.entries ++ entries) := by
  induction entries generalizing table with
  | nil => simp
  | cons first rest ih =>
    -- The first entry moves from the list into the table.
    have moved : ((first :: table.entries) ++ rest).Perm (table.entries ++ first :: rest) :=
      List.perm_middle.symm
    have fresh : first.1 ∉ table.entries.map (·.1) := by
      have once := (moved.map (·.1)).symm.nodup distinct
      rw [List.cons_append, List.map_cons, List.nodup_cons, List.map_append] at once
      exact fun member => once.1 (List.mem_append_left _ member)
    have placed : ((table.insert first.1 first.2).entries ++ rest).Perm
        (table.entries ++ first :: rest) :=
      ((place_perm fresh).append_right rest).trans moved
    rw [List.foldl_cons]
    exact (ih ((placed.map (·.1)).symm.nodup distinct)).trans placed

/-- The names of a table are distinct. -/
theorem nodup_names (table : RoutineTable) : (table.entries.map (·.1)).Nodup := by
  refine List.pairwise_map.mpr (table.ascending.imp fun {first second} before same => ?_)
  exact String.lt_irrefl _ (same ▸ before)

/-- A table is made again from its entries in any order. -/
theorem ofList_of_perm (same : others.Perm table.entries) : ofList others = table := by
  have distinct := (same.map (·.1)).symm.nodup table.nodup_names
  have together : (ofList others).entries.Perm table.entries := by
    have inserted : (ofList others).entries.Perm (empty.entries ++ others) :=
      foldl_insert_perm distinct
    exact inserted.trans same
  -- There is only one ascending order of the same entries.
  have entriesEq : (ofList others).entries = table.entries :=
    together.eq_of_pairwise (fun _ _ _ _ before after => absurd after (String.lt_asymm before))
      (ofList others).ascending table.ascending
  cases table
  cases made : ofList others
  rw [made] at entriesEq
  cases entriesEq
  rfl

/-- A table reads back. -/
theorem readsBack (table : RoutineTable) : ReadsBack RoutineTable.read table.toDatum table := by
  have complete : table.toDatum.Complete := complete_record fun entry member => by
    obtain ⟨_, _, rfl⟩ := List.mem_map.mp member
    exact complete_text _
  refine ⟨complete _, fun {other room} reordered fits => ?_⟩
  obtain ⟨others, rfl, moved⟩ := reordered.exists_texts
  obtain ⟨inner, rfl⟩ := exists_inner_of_record fits
  -- What is read of each entry is the entry itself.
  have texts : others.mapM some = some others :=
    (List.mapM_pure (f := id)).trans (by rw [List.map_id]; rfl)
  rw [RoutineTable.read, List.mapM_map]
  exact (congrArg (ofList <$> ·) texts).trans (congrArg some (ofList_of_perm moved))

end RoutineTable

/-! ### Families and libraries -/

/-- A family reads back, whatever the rule for lists. -/
theorem HelperFamily.readsBack (rule : ListRule) (family : HelperFamily) :
    ReadsBack (HelperFamily.readBy rule) family.toDatum family := by
  have tableBack := family.specialized.readsBack
  refine .record ["generic", "specialized"] rfl (by decide) (by simp [tableBack.complete])
    fun room fields others known holds => ?_
  simp only [List.forall_mem_cons] at holds
  obtain ⟨generic, specialized, -⟩ := holds
  simp [HelperFamily.readBy, fieldsBy, known, generic.text, specialized.withDefault tableBack]

/-- A library reads back, whatever the rule for lists. -/
theorem HelperLibrary.readsBack (rule : ListRule) (library : HelperLibrary) :
    ReadsBack (HelperLibrary.readBy rule) library.toDatum library := by
  have familyBack := HelperFamily.readsBack rule
  refine .record ["package", "class_name", "new_instance", "new_array", "get_field", "set_field",
    "get_element", "set_element"] rfl (by decide) (by simp [(familyBack _).complete])
    fun room fields others known holds => ?_
  simp only [List.forall_mem_cons] at holds
  obtain ⟨package, className, newInstance, newArray, getField, setField, getElement, setElement,
    -⟩ := holds
  simp [HelperLibrary.readBy, fieldsBy, known, package.textOr, className.textOr,
    newInstance.textOr, newArray.withDefault (familyBack _), getField.withDefault (familyBack _),
    setField.withDefault (familyBack _), getElement.withDefault (familyBack _),
    setElement.withDefault (familyBack _)]

/-- Log settings read back, whatever the rule for lists. -/
theorem LogSettings.readsBack (rule : ListRule) (settings : LogSettings) :
    ReadsBack (LogSettings.readBy rule) settings.toDatum settings := by
  refine .record ["filter", "json"] rfl (by decide) (by simp)
    fun room fields others known holds => ?_
  simp only [List.forall_mem_cons] at holds
  obtain ⟨filter, json, -⟩ := holds
  simp [LogSettings.readBy, fieldsBy, known, filter.textOr, json.boolean]

/-! ### Configurations -/

namespace CompilerConfig

/-- A nesting limit reads back. -/
theorem readsBack_depth (depth : UInt64) :
    ReadsBack (fun _ => readDepth) (.integer depth.toNat) depth := by
  refine ⟨by rintro _ ⟨⟩; rfl, ?_⟩
  rintro _ room ⟨⟩ -
  have range := depth.toNat_lt
  rw [readDepth, asIntegerIn_integer (Int.natCast_nonneg _)
    (by simp only [UInt64.size]; omega)]
  simp

/-- A configuration reads back, whatever the rule for lists and whether it is valid or not. -/
theorem readsBack (rule : ListRule) (config : CompilerConfig) :
    ReadsBack (CompilerConfig.readBy rule) config.toDatum config := by
  have helpersBack := config.helpers.readsBack rule
  have depthBack : ReadsBack (fun _ => asOption readDepth)
      (ofOption (fun depth => .integer depth.toNat) config.maxDepth) config.maxDepth :=
    .option (fun _ _ => rfl) fun depth _ => readsBack_depth depth
  have loggingBack := config.logging.readsBack rule
  refine .record ["helpers", "max_depth", "validate_plans", "logging"] rfl (by decide)
    (by simp [helpersBack.complete, depthBack.complete, loggingBack.complete])
    fun room fields others known holds => ?_
  simp only [List.forall_mem_cons] at holds
  obtain ⟨helpers, maxDepth, validatePlans, logging, -⟩ := holds
  simp [CompilerConfig.readBy, fieldsBy, known, helpers.withDefault helpersBack,
    maxDepth.withDefault depthBack, validatePlans.boolean, logging.withDefault loggingBack]

/-- The data of a configuration has no more levels than are read of it. -/
theorem depth_toDatum_le (config : CompilerConfig) : config.toDatum.depth ≤ levels := by
  have flat (table : RoutineTable) : table.toDatum.depth ≤ 1 := by
    refine Nat.succ_le_succ (depthOfEntries_le_iff.mpr fun entry member => ?_)
    obtain ⟨_, _, rfl⟩ := List.mem_map.mp member
    exact Nat.le_refl _
  have family (family : HelperFamily) : family.toDatum.depth ≤ 2 := by
    have table := flat family.specialized
    simp only [HelperFamily.toDatum, depth, depthOfEntries]
    omega
  have newArray := family config.helpers.newArray
  have getField := family config.helpers.getField
  have setField := family config.helpers.setField
  have getElement := family config.helpers.getElement
  have setElement := family config.helpers.setElement
  have limit : (ofOption (fun depth => integer depth.toNat) config.maxDepth).depth = 0 := by
    cases config.maxDepth <;> rfl
  simp only [CompilerConfig.toDatum, HelperLibrary.toDatum, LogSettings.toDatum, depth,
    depthOfEntries, limit, levels]
  omega

/-- The data of a configuration has neither real numbers nor scalars of an open type. -/
theorem plain_toDatum (config : CompilerConfig) : Json.Plain config.toDatum := by
  have family (family : HelperFamily) : Json.Plain family.toDatum := by
    refine .record fun entry member => ?_
    obtain rfl | rfl := by simpa using member
    · exact .text _
    · refine .record fun entry member => ?_
      obtain ⟨_, _, rfl⟩ := List.mem_map.mp member
      exact .text _
  have limit : Json.Plain (ofOption (fun depth => integer depth.toNat) config.maxDepth) := by
    cases found : config.maxDepth with
    | none => exact .null
    | some depth =>
      have range := depth.toNat_lt
      exact .integer ⟨by omega, by omega⟩
  have helpers : Json.Plain config.helpers.toDatum := by
    refine .record fun entry member => ?_
    simp only [List.mem_cons, List.not_mem_nil, or_false] at member
    rcases member with rfl | rfl | rfl | rfl | rfl | rfl | rfl | rfl
    · exact .text _
    · exact .text _
    · exact .text _
    all_goals exact family _
  have logging : Json.Plain config.logging.toDatum := by
    refine .record fun entry member => ?_
    obtain rfl | rfl := by simpa using member
    · exact .text _
    · exact .boolean _
  refine .record fun entry member => ?_
  simp only [List.mem_cons, List.not_mem_nil, or_false] at member
  rcases member with rfl | rfl | rfl | rfl
  · exact helpers
  · exact limit
  · exact .boolean _
  · exact logging

end CompilerConfig

end TestPlan
