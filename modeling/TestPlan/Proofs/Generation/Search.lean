import TestPlan.Generation.Search
import TestPlan.Proofs.Lowering.Reloaded

/-!
A search attempts candidates one by one, and each attempt comes to what it would come to alone:
nothing is left of earlier attempts but classes that are remembered.
-/

namespace TestPlan

open List (Forall₂)

/-! ### Outcomes and how they are counted -/

namespace Attempt

/-- Whether the candidate had no parameters. -/
def isSkipped : Attempt → Bool
  | .skipped => true
  | _ => false

/-- Whether a test was compiled. -/
def isCompiled : Attempt → Bool
  | .compiled _ => true
  | _ => false

/-- Whether no test could be compiled. -/
def isFailed : Attempt → Bool
  | .failed _ => true
  | _ => false

end Attempt

namespace GenerationStats

/-- The numbers that some attempts with their outcomes are counted as. -/
structure Counts (stats : GenerationStats) (outcomes : List Attempt) : Prop where
  attempted : stats.attempted = outcomes.length
  skipped : stats.skipped = outcomes.countP Attempt.isSkipped
  failed : stats.failed = outcomes.countP Attempt.isFailed
  succeeded : stats.succeeded = outcomes.countP Attempt.isCompiled

/-- One more attempt is counted. -/
theorem Counts.count {stats : GenerationStats} {outcomes : List Attempt}
    (counts : stats.Counts outcomes) (outcome : Attempt) :
    (stats.count outcome).Counts (outcomes ++ [outcome]) := by
  cases outcome <;> constructor <;>
    simp [GenerationStats.count, Attempt.isSkipped, Attempt.isFailed, Attempt.isCompiled,
      counts.attempted, counts.skipped, counts.failed, counts.succeeded]

/-- Every attempt is counted once as skipped, failed or successful. -/
theorem Counts.attempted_eq {stats : GenerationStats} {outcomes : List Attempt}
    (counts : stats.Counts outcomes) :
    stats.attempted = stats.skipped + stats.failed + stats.succeeded := by
  rw [counts.attempted, counts.skipped, counts.failed, counts.succeeded]
  -- From here on this is about the outcomes alone, each of which is of one sort.
  clear counts
  induction outcomes with
  | nil => rfl
  | cons outcome rest ih =>
    rw [List.length_cons, ih]
    cases outcome <;> simp only [List.countP_cons, Attempt.isSkipped, Attempt.isFailed,
      Attempt.isCompiled, Bool.false_eq_true, if_true, if_false] <;> omega

/-- The outcomes determine the counts. -/
theorem Counts.unique {stats others : GenerationStats} {outcomes : List Attempt}
    (counts : stats.Counts outcomes) (same : others.Counts outcomes) : stats = others := by
  cases stats
  cases others
  congr
  · exact counts.attempted.trans same.attempted.symm
  · exact counts.skipped.trans same.skipped.symm
  · exact counts.failed.trans same.failed.symm
  · exact counts.succeeded.trans same.succeeded.symm

end GenerationStats

/-! ### A single attempt -/

/-- What a candidate comes to when it is compiled over a loader that has loaded nothing. -/
def Candidate.alone (sharing : Candidate → Sharing) (config : CompilerConfig) (space : ClassSpace)
    (candidate : Candidate) : Attempt :=
  match candidate.parameters with
  | none => .skipped
  | some parameters =>
    match Lower.compileTest (sharing candidate) config candidate.method parameters
        { loader := ({ space } : Loader) } with
    | .ok test _ => .compiled test
    | .error error _ => .failed error

namespace Search

/-- An attempt comes to what the candidate comes to alone, and leaves the class space as it is. -/
theorem tryCandidate_eq (sharing : Candidate → Sharing) (config : CompilerConfig)
    (candidate : Candidate) (loader : Loader) :
    ∃ after : Loader, after.space = loader.space ∧
      tryCandidate sharing config candidate loader
        = (candidate.alone sharing config loader.space, after) := by
  unfold tryCandidate Candidate.alone
  cases candidate.parameters with
  | none => exact ⟨loader, rfl, rfl⟩
  | some parameters =>
    -- A loader that has loaded nothing and the shared one are loaders of the same space.
    have outcomes := Lower.compileTest_throughLoaders (Loader.sameClasses_of_space loader.space)
      (sharing candidate) config candidate.method parameters { space := loader.space } loader
      ⟨rfl, rfl⟩
    dsimp only
    generalize Lower.compileTest (sharing candidate) config candidate.method parameters
        { loader := ({ space := loader.space } : Loader) } = fresh,
      Lower.compileTest (sharing candidate) config candidate.method parameters { loader } = shared
      at outcomes ⊢
    cases outcomes with
    | ok same kept =>
      obtain rfl := same
      exact ⟨_, kept.2, rfl⟩
    | error same kept =>
      obtain rfl := same
      exact ⟨_, kept.2, rfl⟩

/-- A search of a class space that has tried some candidates, and counted what each came to. -/
structure HasTried (sharing : Candidate → Sharing) (config : CompilerConfig) (space : ClassSpace)
    (tried : List Candidate) (search : Search) : Prop where
  inSpace : search.loader.space = space
  counts : search.stats.Counts (tried.map (Candidate.alone sharing config space))

variable {sharing : Candidate → Sharing} {config : CompilerConfig} {space : ClassSpace}
  {tried : List Candidate} {search : Search}

/-- An attempt is one more candidate that was tried, with the outcome that it has alone. -/
theorem attempt_hasTried (hasTried : search.HasTried sharing config space tried)
    (candidate : Candidate) : ∃ after : Search,
      attempt sharing config candidate search = (candidate.alone sharing config space, after) ∧
        after.HasTried sharing config space (tried ++ [candidate]) := by
  obtain ⟨loader, kept, ran⟩ := tryCandidate_eq sharing config candidate search.loader
  rw [hasTried.inSpace] at kept ran
  refine ⟨⟨loader, search.stats.count (candidate.alone sharing config space)⟩, ?_, kept, ?_⟩
  · rw [attempt, ran]
  · rw [List.map_append]
    exact hasTried.counts.count _

/-- Attempts of all candidates come to what each of them comes to alone. -/
theorem attemptAll_hasTried (candidates : List Candidate)
    (hasTried : search.HasTried sharing config space tried) : ∃ after : Search,
      attemptAll sharing config candidates search
          = (candidates.map (Candidate.alone sharing config space), after) ∧
        after.HasTried sharing config space (tried ++ candidates) := by
  -- What was tried before stays general, since each attempt adds to it.
  induction candidates generalizing tried search with
  | nil => exact ⟨search, rfl, by rwa [List.append_nil]⟩
  | cons candidate rest ih =>
    obtain ⟨middle, first, extended⟩ := attempt_hasTried hasTried candidate
    obtain ⟨after, ran, all⟩ := ih extended
    refine ⟨after, ?_, by rwa [List.append_assoc] at all⟩
    unfold attemptAll at ran ⊢
    simp only [List.mapM_cons, bind, StateT.bind, first, ran]
    rfl

/-! ### A search for the first test -/

/-- Whether a search that goes on until it is stopped or a test is compiled reaches a position. -/
def Reaches (outcome : Candidate → Attempt) (stop : Nat → Bool) (candidates : List Candidate)
    (position : Nat) : Prop :=
  position < candidates.length ∧ (∀ asked ≤ position, stop asked = false) ∧
    ∀ candidate ∈ candidates.take position, (outcome candidate).isCompiled = false

/-- What a search finds among some candidates, and which of them it tries. -/
structure Finds (outcome : Candidate → Attempt) (stop : Nat → Bool)
    (candidates tried : List Candidate) (found : Option (Candidate × CompiledTest)) : Prop where
  /-- The candidates that are reached are tried, in their order. -/
  tried : ∃ count, tried = candidates.take count ∧
    ∀ position, position < count ↔ Reaches outcome stop candidates position
  /-- The candidate that is found is reached and compiles. -/
  found : ∀ candidate test, found = some (candidate, test) ↔ ∃ position,
    Reaches outcome stop candidates position ∧ candidates[position]? = some candidate ∧
      outcome candidate = .compiled test

section Reaches

variable {outcome : Candidate → Attempt} {stop : Nat → Bool} {candidate : Candidate}
  {rest : List Candidate}

/-- The first candidate is reached unless the search is stopped at once. -/
theorem reaches_zero_iff : Reaches outcome stop (candidate :: rest) 0 ↔ stop 0 = false := by
  simp [Reaches]

/-- A later candidate is reached when the search goes on after the first one. -/
theorem reaches_succ_iff {position : Nat} :
    Reaches outcome stop (candidate :: rest) (position + 1) ↔
      stop 0 = false ∧ (outcome candidate).isCompiled = false ∧
        Reaches outcome (fun asked => stop (asked + 1)) rest position := by
  -- The first answer is taken apart from those to the later questions.
  have answers : (∀ asked ≤ position + 1, stop asked = false) ↔
      stop 0 = false ∧ ∀ asked ≤ position, stop (asked + 1) = false := by
    refine ⟨fun all => ⟨all 0 (Nat.zero_le _), fun asked le => all _ (Nat.succ_le_succ le)⟩, ?_⟩
    rintro ⟨first, later⟩ (_ | asked) le
    · exact first
    · exact later asked (Nat.le_of_succ_le_succ le)
  rw [Reaches, Reaches, answers, List.take_succ_cons, List.forall_mem_cons, List.length_cons,
    Nat.succ_lt_succ_iff]
  tauto

/-- A search that is stopped at once finds nothing. -/
theorem finds_of_stop (candidates : List Candidate) (stopped : stop 0 = true) :
    Finds outcome stop candidates [] none := by
  have none : ∀ position, ¬ Reaches outcome stop candidates position := by
    rintro position ⟨-, answers, -⟩
    cases stopped.symm.trans (answers 0 (Nat.zero_le _))
  exact {
    tried := ⟨0, rfl, fun position => iff_of_false (Nat.not_lt_zero _) (none position)⟩
    found := fun _ _ => iff_of_false nofun fun ⟨position, reaches, _⟩ => none position reaches }

/-- A search without candidates finds nothing. -/
theorem finds_nil : Finds outcome stop [] [] none where
  tried := ⟨0, rfl, fun _ => iff_of_false (Nat.not_lt_zero _) fun ⟨within, _⟩ => nomatch within⟩
  found _ _ := iff_of_false nofun fun ⟨_, ⟨within, _⟩, _⟩ => nomatch within

/-- A search finds the first candidate if it compiles. -/
theorem finds_of_compiled {test : CompiledTest} (goes : stop 0 = false)
    (compiled : outcome candidate = .compiled test) :
    Finds outcome stop (candidate :: rest) [candidate] (some (candidate, test)) := by
  -- No candidate is reached after one that compiles.
  have only : ∀ position, Reaches outcome stop (candidate :: rest) position ↔ position = 0 := by
    rintro (_ | position)
    · exact iff_of_true (reaches_zero_iff.mpr goes) rfl
    · refine iff_of_false (fun reaches => ?_) (Nat.succ_ne_zero _)
      have failed := (reaches_succ_iff.mp reaches).2.1
      rw [compiled] at failed
      cases failed
  refine ⟨⟨1, rfl, fun position => ?_⟩, fun other built => ?_⟩
  · rw [only, Nat.lt_one_iff]
  · simp only [only, exists_eq_left, List.getElem?_cons_zero, Option.some.injEq, Prod.mk.injEq]
    constructor
    · rintro ⟨rfl, rfl⟩
      exact ⟨rfl, compiled⟩
    · rintro ⟨rfl, same⟩
      cases compiled.symm.trans same
      exact ⟨rfl, rfl⟩

/-- A search goes on after the first candidate if it does not compile. -/
theorem Finds.cons {tried : List Candidate} {found : Option (Candidate × CompiledTest)}
    (goes : stop 0 = false) (failed : (outcome candidate).isCompiled = false)
    (finds : Finds outcome (fun asked => stop (asked + 1)) rest tried found) :
    Finds outcome stop (candidate :: rest) (candidate :: tried) found := by
  obtain ⟨⟨count, rfl, reached⟩, first⟩ := finds
  refine ⟨⟨count + 1, List.take_succ_cons.symm, ?_⟩, fun other test => ?_⟩
  · rintro (_ | position)
    · exact iff_of_true (Nat.succ_pos _) (reaches_zero_iff.mpr goes)
    · rw [Nat.succ_lt_succ_iff, reached, reaches_succ_iff]
      simp only [goes, failed, true_and]
  · rw [first]
    constructor
    · rintro ⟨position, reaches, there, compiled⟩
      exact ⟨position + 1, reaches_succ_iff.mpr ⟨goes, failed, reaches⟩, there, compiled⟩
    · rintro ⟨_ | position, reaches, there, compiled⟩
      · -- The first candidate does not compile.
        cases there
        rw [compiled] at failed
        cases failed
      · exact ⟨position, (reaches_succ_iff.mp reaches).2.2, there, compiled⟩

end Reaches

/-- What a search tries and finds is determined by the outcomes and the answers. -/
theorem Finds.unique {outcome : Candidate → Attempt} {stop : Nat → Bool}
    {candidates tried others : List Candidate} {found other : Option (Candidate × CompiledTest)}
    (finds : Finds outcome stop candidates tried found)
    (same : Finds outcome stop candidates others other) : tried = others ∧ found = other := by
  obtain ⟨count, rfl, reached⟩ := finds.tried
  obtain ⟨count', rfl, reached'⟩ := same.tried
  obtain rfl : count = count' :=
    eq_of_forall_lt_iff fun position => (reached position).trans (reached' position).symm
  refine ⟨rfl, Option.ext fun ⟨candidate, test⟩ => ?_⟩
  exact (finds.found candidate test).trans (same.found candidate test).symm

/-- A search tries the candidates that it reaches, and finds the first that compiles. -/
theorem firstCompiled_finds (stop : Nat → Bool) (asked : Nat) (candidates : List Candidate)
    (hasTried : search.HasTried sharing config space tried) :
    ∃ (result : SearchResult) (after : Search) (more : List Candidate),
      firstCompiled sharing config stop asked candidates search = (result, after) ∧
        after.HasTried sharing config space (tried ++ more) ∧
          Finds (Candidate.alone sharing config space) (fun later => stop (asked + later))
            candidates more result.found := by
  -- The induction is on the candidates, with what was tried and asked before them.
  induction candidates generalizing asked tried search with
  | nil => exact ⟨_, _, [], rfl, by rwa [List.append_nil], finds_nil⟩
  | cons candidate rest ih =>
    by_cases stopped : stop asked = true
    · refine ⟨⟨none, asked + 1⟩, search, [], ?_, by rwa [List.append_nil], finds_of_stop _ stopped⟩
      simp only [firstCompiled, stopped, if_true]
      rfl
    · have goes : stop asked = false := by simpa using stopped
      obtain ⟨after, ran, extended⟩ := attempt_hasTried hasTried candidate
      cases came : candidate.alone sharing config space with
      | compiled test =>
        rw [came] at ran
        refine ⟨⟨some (candidate, test), asked + 1⟩, after, [candidate], ?_, extended,
          finds_of_compiled goes came⟩
        simp only [firstCompiled, goes, Bool.false_eq_true, if_false, bind, StateT.bind, ran]
        rfl
      | skipped | failed _ =>
        have failed : (candidate.alone sharing config space).isCompiled = false := by rw [came]; rfl
        rw [came] at ran
        obtain ⟨result, ended, more, rested, all, finds⟩ := ih (asked + 1) extended
        -- The answers to the search of the others are those after the first.
        have later : (fun later => stop (asked + 1 + later))
            = fun later => stop (asked + (later + 1)) :=
          funext fun later => congrArg stop (by omega)
        rw [later] at finds
        refine ⟨result, ended, candidate :: more, ?_, ?_, .cons goes failed finds⟩
        · simp only [firstCompiled, goes, Bool.false_eq_true, if_false, bind, StateT.bind, ran]
          exact rested
        · rwa [List.append_assoc] at all

end Search

/-! ### Calls one after the other -/

/-- A call of a search, which goes on with the loader and the counts that it is left with. -/
inductive SearchCall where
  | attempt (candidate : Candidate)
  /-- Asks whether to stop before each candidate, and is answered by the number of the question. -/
  | generate (candidates : List Candidate) (stop : Nat → Bool)

/-- What a call answers. -/
inductive SearchAnswer where
  | outcome (outcome : Attempt)
  | found (found : Option (Candidate × CompiledTest))

namespace SearchCall

/-- Carries out a call. -/
def run (sharing : Candidate → Sharing) (config : CompilerConfig) :
    SearchCall → StateM Search SearchAnswer
  | .attempt candidate => .outcome <$> Search.attempt sharing config candidate
  | .generate candidates stop =>
    (fun result => .found result.found) <$> Search.firstCompiled sharing config stop 0 candidates

/-- Which candidates a call tries and what it answers, when each has an outcome of its own. -/
inductive Answers (outcome : Candidate → Attempt) :
    SearchCall → List Candidate → SearchAnswer → Prop
  | attempt (candidate : Candidate) :
      Answers outcome (.attempt candidate) [candidate] (.outcome (outcome candidate))
  | generate {candidates tried : List Candidate} {stop : Nat → Bool}
      {found : Option (Candidate × CompiledTest)} :
      Search.Finds outcome stop candidates tried found →
        Answers outcome (.generate candidates stop) tried (.found found)

variable {sharing : Candidate → Sharing} {config : CompilerConfig} {space : ClassSpace}
  {tried : List Candidate} {search : Search}

/-- A call tries some more candidates and answers by their outcomes. -/
theorem run_answers (call : SearchCall) (hasTried : search.HasTried sharing config space tried) :
    ∃ (answer : SearchAnswer) (after : Search) (more : List Candidate),
      call.run sharing config search = (answer, after) ∧
        after.HasTried sharing config space (tried ++ more) ∧
        call.Answers (Candidate.alone sharing config space) more answer := by
  cases call with
  | attempt candidate =>
    obtain ⟨after, ran, extended⟩ := Search.attempt_hasTried hasTried candidate
    exact ⟨_, after, [candidate], congrArg (Prod.map SearchAnswer.outcome id) ran, extended,
      .attempt candidate⟩
  | generate candidates stop =>
    obtain ⟨result, after, more, ran, extended, finds⟩ :=
      Search.firstCompiled_finds stop 0 candidates hasTried
    simp only [Nat.zero_add] at finds
    refine ⟨.found result.found, after, more, ?_, extended, .generate finds⟩
    exact congrArg (Prod.map (fun result : SearchResult => SearchAnswer.found result.found) id) ran

/-- So do several calls, one after the other. -/
theorem mapM_run_answers (calls : List SearchCall)
    (hasTried : search.HasTried sharing config space tried) :
    ∃ (steps : List (List Candidate × SearchAnswer)) (after : Search),
      calls.mapM (run sharing config) search = (steps.map (·.2), after) ∧
        after.HasTried sharing config space (tried ++ steps.flatMap (·.1)) ∧
          Forall₂ (fun call step =>
            call.Answers (Candidate.alone sharing config space) step.1 step.2) calls steps := by
  -- What the earlier calls have tried stays general, since each call adds to it.
  induction calls generalizing tried search with
  | nil => exact ⟨[], search, rfl, by rwa [List.flatMap_nil, List.append_nil], .nil⟩
  | cons call rest ih =>
    obtain ⟨answer, middle, more, first, extended, answers⟩ := run_answers call hasTried
    obtain ⟨steps, after, ran, all, others⟩ := ih extended
    refine ⟨(more, answer) :: steps, after, ?_, ?_, .cons answers others⟩
    · -- The other calls go on where the first one has come to.
      simp only [List.mapM_cons, bind, StateT.bind, first, ran]
      rfl
    · rwa [List.flatMap_cons, ← List.append_assoc]

end SearchCall

/--
Whatever a search is called for, and whatever its loader has loaded before, each attempt comes to
what the candidate comes to alone. A search for one test finds the first candidate that compiles,
unless it is stopped before, and every attempt is counted once by its outcome.
-/
theorem Search.calls_independent (sharing : Candidate → Sharing) (config : CompilerConfig)
    (loader : Loader) (calls : List SearchCall) :
    ∃ (steps : List (List Candidate × SearchAnswer)) (after : Search),
      calls.mapM (SearchCall.run sharing config) { loader } = (steps.map (·.2), after) ∧
      Forall₂ (fun call step =>
        call.Answers (Candidate.alone sharing config loader.space) step.1 step.2) calls steps ∧
      after.stats.Counts ((steps.flatMap (·.1)).map (Candidate.alone sharing config loader.space)) ∧
      after.stats.attempted
        = after.stats.skipped + after.stats.failed + after.stats.succeeded := by
  -- A new search has tried nothing, whatever its loader remembers.
  have fresh : HasTried sharing config loader.space [] { loader } := ⟨rfl, rfl, rfl, rfl, rfl⟩
  obtain ⟨steps, after, ran, tried, answers⟩ := SearchCall.mapM_run_answers calls fresh
  exact ⟨steps, after, ran, answers, tried.counts, tried.counts.attempted_eq⟩

end TestPlan
