import Mathlib.Data.List.Perm.Subperm
import TestPlan.Proofs.Lowering.Answered
import TestPlan.Proofs.Lowering.Dispatch

/-!
The classes that the members of a class are looked for in: the class and one superclass after the
other, as far as they go or until a name comes again.
-/

namespace TestPlan

/-! ### Superclasses one after the other -/

namespace ClassSpace

variable {space : ClassSpace} {owner : String} {chain : List LoadedClass}

/-- The name that comes after some classes: that of the owner, and then that of a superclass. -/
def asked (owner : String) (chain : List LoadedClass) : Option String :=
  match chain.getLast? with
  | none => some owner
  | some last => last.definition.superclass

/-- Classes from an owner upwards, each of a name that has not come before. -/
inductive Ascent (space : ClassSpace) (owner : String) : List LoadedClass → Prop
  | start : Ascent space owner []
  | up {chain : List LoadedClass} {name : String} {upper : LoadedClass} :
      Ascent space owner chain → asked owner chain = some name →
      name ∉ chain.map LoadedClass.name → space.find name = .ok upper →
        Ascent space owner (chain ++ [upper])

/-- All classes from an owner upwards: the last has no superclass, or one that has come before. -/
structure Hierarchy (space : ClassSpace) (owner : String) (chain : List LoadedClass) : Prop where
  ascent : space.Ascent owner chain
  ends : ∀ name, asked owner chain = some name → name ∈ chain.map LoadedClass.name

/-- Some class from an owner upwards cannot be loaded. -/
def Broken (space : ClassSpace) (owner : String) (failure : ClassNotFound) : Prop :=
  ∃ chain name, space.Ascent owner chain ∧ asked owner chain = some name ∧
    space.find name = .error failure

/-- Above the last class comes its superclass. -/
@[simp]
theorem asked_append (owner : String) (chain : List LoadedClass) (last : LoadedClass) :
    asked owner (chain ++ [last]) = last.definition.superclass := by
  simp [asked]

namespace Ascent

/-- Each class is the one that the class space has for its name. -/
theorem find_eq (ascent : space.Ascent owner chain) {loaded : LoadedClass}
    (member : loaded ∈ chain) : space.find loaded.name = .ok loaded := by
  induction ascent with
  | start => cases member
  | up _ _ _ found ih =>
    rcases List.mem_append.mp member with lower | last
    · exact ih lower
    · cases List.mem_singleton.mp last
      rw [name_of_find found, found]

/-- No name comes twice. -/
theorem nodup (ascent : space.Ascent owner chain) : (chain.map LoadedClass.name).Nodup := by
  induction ascent with
  | start => exact List.nodup_nil
  | up _ _ fresh found ih =>
    rw [List.map_append, List.map_singleton, name_of_find found, List.nodup_append_comm]
    exact List.nodup_cons.mpr ⟨fresh, ih⟩

/-- There are no more classes than names that the class space defines. -/
theorem length_le (ascent : space.Ascent owner chain) :
    chain.length ≤ space.definedNames.length := by
  have among : chain.map LoadedClass.name ⊆ space.definedNames := by
    intro name member
    obtain ⟨loaded, among, rfl⟩ := List.mem_map.mp member
    exact mem_definedNames (ascent.find_eq among)
  simpa using (ascent.nodup.subperm among).length_le

/-- Each class comes for the name that is asked for after those below it. -/
theorem exists_asked (ascent : space.Ascent owner chain) {below : List LoadedClass}
    {upper : LoadedClass} (stage : below ++ [upper] <+: chain) :
    ∃ name, asked owner below = some name ∧ space.find name = .ok upper := by
  induction ascent with
  | start => simp at stage
  | up _ asks _ found ih =>
    rcases List.prefix_concat_iff.mp stage with all | lower
    · obtain ⟨rfl, rfl⟩ := List.append_singleton_inj.mp all
      exact ⟨_, asks, found⟩
    · exact ih lower

/-- From one owner there is only one way upwards. -/
theorem prefix_or_prefix {other : List LoadedClass} (ascent : space.Ascent owner chain)
    (ascent' : space.Ascent owner other) : chain <+: other ∨ other <+: chain := by
  induction ascent with
  | start => exact .inl List.nil_prefix
  | @up chain name upper _ asks _ found ih =>
    rcases ih with ⟨rest, rfl⟩ | lower
    · cases rest with
      | nil => exact .inr (by simp)
      | cons next rest =>
        -- Both have gone up by the class of the same name.
        obtain ⟨_, asks', found'⟩ := ascent'.exists_asked
          (show chain ++ [next] <+: chain ++ next :: rest from ⟨rest, by simp⟩)
        cases asks.symm.trans asks'
        cases found.symm.trans found'
        exact .inl ⟨rest, by simp⟩
    · exact .inr (lower.trans (List.prefix_append _ _))

end Ascent

namespace Hierarchy

/-- Every way upwards is the beginning of the whole one. -/
theorem prefix_of_ascent {all : List LoadedClass} (hierarchy : space.Hierarchy owner all)
    (ascent : space.Ascent owner chain) : chain <+: all := by
  refine (ascent.prefix_or_prefix hierarchy.ascent).elim id ?_
  rintro ⟨rest, rfl⟩
  cases rest with
  | nil => simp
  | cons next rest =>
    -- The name that would come next has come before.
    obtain ⟨name, asks, found⟩ := ascent.exists_asked
      (show all ++ [next] <+: all ++ next :: rest from ⟨rest, by simp⟩)
    have again := hierarchy.ends name asks
    rw [← name_of_find found] at again
    have distinct := ascent.nodup
    rw [List.map_append, List.map_cons, List.nodup_append] at distinct
    exact absurd rfl (distinct.2.2 _ again _ List.mem_cons_self)

/-- The classes from an owner upwards are determined by the class space. -/
theorem unique {other : List LoadedClass} (hierarchy : space.Hierarchy owner chain)
    (hierarchy' : space.Hierarchy owner other) : other = chain :=
  (hierarchy.prefix_of_ascent hierarchy'.ascent).eq_of_length_le
    (hierarchy'.prefix_of_ascent hierarchy.ascent).length_le

/-- Where all classes are there, none is missing. -/
theorem not_broken (hierarchy : space.Hierarchy owner chain) (failure : ClassNotFound) :
    ¬space.Broken owner failure := by
  rintro ⟨below, name, ascent, asks, missing⟩
  obtain ⟨rest, rfl⟩ := hierarchy.prefix_of_ascent ascent
  cases rest with
  | nil =>
    rw [List.append_nil] at hierarchy
    obtain ⟨loaded, member, rfl⟩ := List.mem_map.mp (hierarchy.ends name asks)
    cases missing.symm.trans (ascent.find_eq member)
  | cons next rest =>
    obtain ⟨_, asks', found⟩ := hierarchy.ascent.exists_asked
      (show below ++ [next] <+: below ++ next :: rest from ⟨rest, by simp⟩)
    cases asks.symm.trans asks'
    cases missing.symm.trans found

end Hierarchy

end ClassSpace

/-! ### Loading them -/

namespace Resolve

variable {loader : Loader} {owner : String}

/-- The classes from an owner upwards, all of them loaded. -/
def hierarchy (owner : String) : Resolve (List LoadedClass) := do
  superclassChain (← load owner)

/-- Going upwards needs nothing but to load classes. -/
theorem hierarchy_plain (owner : String) : Plain (hierarchy owner) :=
  (load_plain owner).bind superclassChain_plain

/-- A class above those seen comes first, and then its superclass if that has not been seen. -/
theorem answer_chainFrom_succ (seen : List String) (bound : Nat) (loaded : LoadedClass)
    (loader : Loader) : answer (chainFrom seen (bound + 1) loaded) loader =
      if seen.contains loaded.name then .ok [] else
        match loaded.definition.superclass with
        | none => .ok [loaded]
        | some parent => (loader.space.find parent).mapError .classNotFound >>= fun upper =>
          answer (chainFrom (loaded.name :: seen) bound upper) loader >>= fun above =>
            .ok (loaded :: above) := by
  rw [chainFrom]
  split
  · rfl
  · cases loaded.definition.superclass with
    | none => rfl
    | some parent =>
      dsimp only
      rw [← answer_load, answer_bind (load_plain _) fun upper =>
        (chainFrom_uniform Loader.sameClasses _ bound upper).bind fun _ => .pure _]
      exact bind_congr fun upper => answer_bind (chainFrom_plain _ bound upper)
        (fun _ => .pure _) loader

/-- Going up from a class finds all classes above, or one that cannot be loaded. -/
theorem answer_chainFrom {bound : Nat} {below : List LoadedClass} {seen : List String}
    {name : String} {loaded : LoadedClass} (ascent : loader.space.Ascent owner below)
    (asks : ClassSpace.asked owner below = some name) (found : loader.space.find name = .ok loaded)
    (seen_iff : ∀ other, other ∈ seen ↔ other ∈ below.map LoadedClass.name)
    (enough : loader.space.definedNames.length ≤ below.length + bound) :
    (∃ rest, answer (chainFrom seen bound loaded) loader = .ok rest ∧
      loader.space.Hierarchy owner (below ++ rest)) ∨
    ∃ failure, answer (chainFrom seen bound loaded) loader = .error (.classNotFound failure) ∧
      loader.space.Broken owner failure := by
  have named := ClassSpace.name_of_find found
  -- The induction is on the bound, which covers the names that have not come yet.
  induction bound generalizing below seen name loaded with
  | zero =>
    refine .inl ⟨[], rfl, by simpa using ascent, fun other asks' => ?_⟩
    rw [List.append_nil] at asks' ⊢
    cases asks.symm.trans asks'
    by_contra fresh
    have more := (ascent.up asks fresh found).length_le
    rw [List.length_append, List.length_singleton] at more
    omega
  | succ bound ih =>
    rw [answer_chainFrom_succ]
    by_cases again : name ∈ below.map LoadedClass.name
    · rw [if_pos (by simpa [named, seen_iff] using again)]
      refine .inl ⟨[], rfl, by simpa using ascent, fun other asks' => ?_⟩
      rw [List.append_nil] at asks' ⊢
      cases asks.symm.trans asks'
      exact again
    · rw [if_neg (by simpa [named, seen_iff] using again)]
      have higher := ascent.up asks again found
      have above := ClassSpace.asked_append owner below loaded
      cases extended : loaded.definition.superclass with
      | none => exact .inl ⟨[loaded], rfl, higher, by simp [extended]⟩
      | some parent =>
        rw [extended] at above
        dsimp only
        cases next : loader.space.find parent with
        | error failure => exact .inr ⟨failure, rfl, _, parent, higher, above, next⟩
        | ok upper =>
          -- The rest is found from the superclass, with one more name seen.
          have seen_iff' (other : String) : other ∈ loaded.name :: seen ↔
              other ∈ (below ++ [loaded]).map LoadedClass.name := by
            simp [seen_iff, or_comm]
          rcases ih higher above next seen_iff' (by simp; omega) (ClassSpace.name_of_find next) with
            ⟨rest, answered, whole⟩ | ⟨failure, answered, broken⟩
          · refine .inl ⟨loaded :: rest, ?_, by simpa using whole⟩
            simp only [Except.mapError, Bind.bind, Except.bind, answered]
          · refine .inr ⟨failure, ?_, broken⟩
            simp only [Except.mapError, Bind.bind, Except.bind, answered]

/-- All classes from an owner upwards are found, or one of them cannot be loaded. -/
theorem answer_hierarchy (owner : String) (loader : Loader) :
    (∃ chain, answer (hierarchy owner) loader = .ok chain ∧
      loader.space.Hierarchy owner chain) ∨
    ∃ failure, answer (hierarchy owner) loader = .error (.classNotFound failure) ∧
      loader.space.Broken owner failure := by
  have steps : answer (hierarchy owner) loader =
      (loader.space.find owner).mapError .classNotFound >>= fun loaded =>
        answer (chainFrom [] loader.space.definedNames.length loaded) loader := by
    rw [← answer_load]
    exact answer_bind (load_plain _) (superclassChain_uniform Loader.sameClasses) loader
  rw [steps]
  cases found : loader.space.find owner with
  | error failure => exact .inr ⟨failure, rfl, [], owner, .start, rfl, found⟩
  | ok loaded => exact answer_chainFrom .start rfl found (by simp) (by simp)

/-- The classes from an owner upwards are found exactly when all of them are there. -/
theorem answer_hierarchy_ok_iff {chain : List LoadedClass} :
    answer (hierarchy owner) loader = .ok chain ↔ loader.space.Hierarchy owner chain := by
  rcases answer_hierarchy owner loader with ⟨found, answered, whole⟩ | ⟨failure, answered, broken⟩
  · rw [answered]
    constructor
    · rintro ⟨⟩
      exact whole
    · exact fun whole' => congrArg _ (whole'.unique whole)
  · rw [answered]
    exact ⟨nofun, fun whole => absurd broken (whole.not_broken failure)⟩

/-- Classes from an owner upwards are not found only when one of them cannot be loaded. -/
theorem broken_of_answer_hierarchy {error : CompileError}
    (failed : answer (hierarchy owner) loader = .error error) :
    ∃ failure, error = .classNotFound failure ∧ loader.space.Broken owner failure := by
  rcases answer_hierarchy owner loader with ⟨found, answered, whole⟩ | ⟨failure, answered, broken⟩
  · cases failed.symm.trans answered
  · cases failed.symm.trans answered
    exact ⟨failure, rfl, broken⟩

end Resolve

end TestPlan
