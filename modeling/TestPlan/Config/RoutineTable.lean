/-! Routine names with the types they serve, in the order of the names. -/

namespace TestPlan

/-- Routine names, each once and in ascending order, with the type that each one serves. -/
structure RoutineTable where
  entries : List (String × String) := []
  /-- Each name comes before all that follow it. -/
  ascending : entries.Pairwise (·.1 < ·.1) := by exact .nil
  deriving DecidableEq

namespace RoutineTable

/-- Puts an entry at its place among ascending names, instead of any other of its name. -/
def place (entry : String × String) : List (String × String) → List (String × String)
  | [] => [entry]
  | first :: rest =>
    if entry.1 < first.1 then entry :: first :: rest
    else if entry.1 = first.1 then entry :: rest
    else first :: place entry rest

/-- Placing an entry adds no name but its own. -/
theorem mem_of_mem_place {entry found : String × String} {entries : List (String × String)}
    (member : found ∈ place entry entries) : found = entry ∨ found ∈ entries := by
  induction entries with
  | nil => simpa [place] using member
  | cons first rest later =>
    unfold place at member
    split at member
    · simpa using member
    · split at member
      · rcases List.mem_cons.mp member with same | kept
        · exact .inl same
        · exact .inr (List.mem_cons_of_mem _ kept)
      · rcases List.mem_cons.mp member with same | kept
        · exact .inr (same ▸ List.mem_cons_self)
        · exact (later kept).imp_right (List.mem_cons_of_mem _)

/-- Names stay in ascending order when an entry is placed among them. -/
theorem pairwise_place (entry : String × String) {entries : List (String × String)}
    (ascending : entries.Pairwise (·.1 < ·.1)) : (place entry entries).Pairwise (·.1 < ·.1) := by
  induction entries with
  | nil => simp [place]
  | cons first rest later =>
    have below := List.pairwise_cons.mp ascending
    unfold place
    split
    · rename_i before
      refine List.pairwise_cons.mpr ⟨fun other member => ?_, ascending⟩
      -- What follows the first name is above the new one too.
      rcases List.mem_cons.mp member with rfl | after
      · exact before
      · exact String.lt_trans before (below.1 other after)
    · rename_i notBefore
      split
      · rename_i same
        exact List.pairwise_cons.mpr ⟨fun other after => same ▸ below.1 other after, below.2⟩
      · rename_i distinct
        refine List.pairwise_cons.mpr ⟨fun other member => ?_, later below.2⟩
        rcases mem_of_mem_place member with rfl | after
        · -- The new name is neither before the first one nor equal to it.
          rcases Std.lt_trichotomy other.1 first.1 with before | same | beyond
          · exact absurd before notBefore
          · exact absurd same distinct
          · exact beyond
        · exact below.1 other after

/-- Records the type that a routine serves, instead of any other recorded for it. -/
def insert (table : RoutineTable) (routine type : String) : RoutineTable where
  entries := place (routine, type) table.entries
  ascending := pairwise_place _ table.ascending

/-- The table without entries. -/
def empty : RoutineTable := {}

/-- The table of the given entries, the last of each name. -/
def ofList (entries : List (String × String)) : RoutineTable :=
  entries.foldl (fun table entry => table.insert entry.1 entry.2) empty

/-- The first routine that serves a type. -/
def routineFor? (table : RoutineTable) (type : String) : Option String :=
  (table.entries.find? (·.2 == type)).map (·.1)

end RoutineTable

end TestPlan
