import TestPlan.Demo.Classes
import TestPlan.Generation.Report
import TestPlan.Proofs.Generation.Search

/-!
The report of a run accounts for the candidates that it attempts: each is counted by its outcome,
and what compiles is reported in order. A run over all candidates lists each failure at its
position. A run up to the first success reports what a run over the candidates up to there does,
except that it counts failures without listing them.
-/

namespace TestPlan

/-! ### Candidates up to the first that compiles -/

namespace Search

/-- The candidates that compile, with their tests. -/
def compiledAmong (outcome : Candidate → Attempt) (candidates : List Candidate) :
    List (Candidate × CompiledTest) :=
  candidates.filterMap fun candidate =>
    match outcome candidate with
    | .compiled test => some (candidate, test)
    | _ => none

/-- The candidates up to and including the first that compiles, or all if none does. -/
def throughCompiled (outcome : Candidate → Attempt) (candidates : List Candidate) :
    List Candidate :=
  candidates.take (candidates.findIdx (fun candidate => (outcome candidate).isCompiled) + 1)

section ThroughCompiled

variable {outcome : Candidate → Attempt} {candidate : Candidate} {candidates rest : List Candidate}

/-- A candidate that compiles comes before those among the others. -/
theorem compiledAmong_cons_of_compiled {test : CompiledTest}
    (compiled : outcome candidate = .compiled test) :
    compiledAmong outcome (candidate :: rest) =
      (candidate, test) :: compiledAmong outcome rest := by
  simp only [compiledAmong, List.filterMap_cons, compiled]

/-- A candidate that does not compile is left out. -/
theorem compiledAmong_cons_of_not (failed : (outcome candidate).isCompiled = false) :
    compiledAmong outcome (candidate :: rest) = compiledAmong outcome rest := by
  cases came : outcome candidate with
  | compiled => rw [came] at failed; cases failed
  | skipped | failed => simp only [compiledAmong, List.filterMap_cons, came]

/-- A first candidate that compiles is the last one. -/
theorem throughCompiled_cons_of_compiled (compiled : (outcome candidate).isCompiled = true) :
    throughCompiled outcome (candidate :: rest) = [candidate] := by
  simp [throughCompiled, List.findIdx_cons, compiled]

/-- A first candidate that does not compile is followed by those up to the first other that does. -/
theorem throughCompiled_cons_of_not (failed : (outcome candidate).isCompiled = false) :
    throughCompiled outcome (candidate :: rest) = candidate :: throughCompiled outcome rest := by
  simp [throughCompiled, List.findIdx_cons, failed]

/-- There are as many tests as candidates that compile. -/
theorem length_compiledAmong :
    (compiledAmong outcome candidates).length =
      (candidates.map outcome).countP Attempt.isCompiled := by
  rw [compiledAmong, List.length_filterMap_eq_countP, List.countP_map]
  congr 1
  funext candidate
  cases came : outcome candidate <;> simp [came, Attempt.isCompiled]

/-- A search that is never stopped goes up to the first candidate that compiles. -/
theorem exists_finds_throughCompiled (outcome : Candidate → Attempt)
    (candidates : List Candidate) : ∃ found,
      Finds outcome (fun _ => false) candidates (throughCompiled outcome candidates) found ∧
        found.toList = compiledAmong outcome (throughCompiled outcome candidates) := by
  -- The induction is on the candidates, the first of which ends the search if it compiles.
  induction candidates with
  | nil => exact ⟨none, finds_nil, rfl⟩
  | cons candidate rest ih =>
    cases came : outcome candidate with
    | compiled test =>
      rw [throughCompiled_cons_of_compiled (by rw [came]; rfl), compiledAmong_cons_of_compiled came]
      exact ⟨_, finds_of_compiled rfl came, rfl⟩
    | skipped | failed =>
      have failed : (outcome candidate).isCompiled = false := by rw [came]; rfl
      obtain ⟨found, finds, listed⟩ := ih
      rw [throughCompiled_cons_of_not failed, compiledAmong_cons_of_not failed]
      exact ⟨found, .cons rfl failed finds, listed⟩

/-- Hence it tries just these, and finds what compiles among them. -/
theorem Finds.eq_throughCompiled {tried : List Candidate}
    {found : Option (Candidate × CompiledTest)}
    (finds : Finds outcome (fun _ => false) candidates tried found) :
    tried = throughCompiled outcome candidates ∧
      found.toList = compiledAmong outcome (throughCompiled outcome candidates) := by
  obtain ⟨first, unstopped, listed⟩ := exists_finds_throughCompiled outcome candidates
  obtain ⟨rfl, rfl⟩ := finds.unique unstopped
  exact ⟨rfl, listed⟩

/-- At most one of the candidates up to the first that compiles does. -/
theorem length_compiledAmong_throughCompiled_le :
    (compiledAmong outcome (throughCompiled outcome candidates)).length ≤ 1 := by
  obtain ⟨found, -, listed⟩ := exists_finds_throughCompiled outcome candidates
  rw [← listed]
  cases found with
  | none => exact Nat.zero_le 1
  | some => exact Nat.le_refl 1

end ThroughCompiled

end Search

/-! ### What a report says of the attempted candidates -/

namespace RunReport

/-- Attempts are counted by their outcomes, and the tests are those of what compiles, in order. -/
structure Accounts (report : RunReport) (outcome : Candidate → Attempt)
    (attempted : List Candidate) : Prop where
  counts : report.stats.Counts (attempted.map outcome)
  tests : report.tests = (Search.compiledAmong outcome attempted).map fun (candidate, test) =>
    .ofTest candidate.method test
  succeeded : report.tests.length = report.stats.succeeded

/-- Exactly the attempted candidates that fail are listed, in order and with their positions. -/
structure ListsFailures (report : RunReport) (outcome : Candidate → Attempt)
    (attempted : List Candidate) : Prop where
  failed : report.failures.length = report.stats.failed
  increasing : report.failures.Pairwise fun failure later => failure.candidate < later.candidate
  exact : ∀ failure, failure ∈ report.failures ↔ ∃ candidate error,
    attempted[failure.candidate]? = some candidate ∧ outcome candidate = .failed error ∧
      failure.method = candidate.method.display ∧ failure.error = error.message

variable {outcome : Candidate → Attempt} {candidates : List Candidate}

/-- As many tests are reported as attempts are counted as successful. -/
theorem accounts_of_tests {report : RunReport}
    (counts : report.stats.Counts (candidates.map outcome))
    (tests : report.tests = (Search.compiledAmong outcome candidates).map fun (candidate, test) =>
      .ofTest candidate.method test) : report.Accounts outcome candidates where
  counts
  tests
  succeeded := by rw [tests, List.length_map, Search.length_compiledAmong, counts.succeeded]

/-- The report of attempts has the tests of the candidates that compile. -/
theorem tests_ofAttempts (stats : GenerationStats) :
    (ofAttempts stats (candidates.map fun candidate => (candidate, outcome candidate))).tests =
      (Search.compiledAmong outcome candidates).map fun (candidate, test) =>
        .ofTest candidate.method test := by
  simp only [ofAttempts, Search.compiledAmong, List.filterMap_map, List.map_filterMap]
  congr 1
  funext candidate
  cases came : outcome candidate <;> simp [came, testOf?]

/-- The failure of an attempt is that at its position, with its message. -/
theorem failureOf?_eq_some_iff {attempt : (Candidate × Attempt) × Nat} {failure : FailureReport} :
    failureOf? attempt = some failure ↔ ∃ error, attempt.1.2 = .failed error ∧
      failure = ⟨attempt.2, attempt.1.1.method.display, error.message⟩ := by
  obtain ⟨⟨candidate, outcome⟩, position⟩ := attempt
  cases outcome <;> simp [failureOf?, eq_comm]

/-- Whether an attempt has a failure depends on its outcome, and not on its position. -/
theorem isSome_failureOf? (attempt : (Candidate × Attempt) × Nat) :
    (failureOf? attempt).isSome = attempt.1.2.isFailed := by
  obtain ⟨⟨candidate, outcome⟩, position⟩ := attempt
  cases outcome <;> rfl

/-- The report of attempts lists those that fail. -/
theorem listsFailures_ofAttempts {stats : GenerationStats}
    (counts : stats.Counts (candidates.map outcome)) :
    (ofAttempts stats
      (candidates.map fun candidate => (candidate, outcome candidate))).ListsFailures
        outcome candidates where
  failed := by
    -- The positions are dropped, and the failures are counted as the outcomes are.
    calc ((candidates.map fun candidate => (candidate, outcome candidate)).zipIdx.filterMap
          failureOf?).length
        = ((candidates.map fun candidate => (candidate, outcome candidate)).zipIdx.map
            Prod.fst).countP fun attempt => attempt.2.isFailed := by
          simp only [List.length_filterMap_eq_countP, isSome_failureOf?, List.countP_map]
          rfl
      _ = (candidates.map outcome).countP Attempt.isFailed := by
          rw [List.zipIdx_map_fst, List.countP_map, List.countP_map]
          rfl
      _ = stats.failed := counts.failed.symm
  increasing := by
    -- The positions of attempts increase, and each failure has that of its attempt.
    have positions : (candidates.map fun candidate =>
        (candidate, outcome candidate)).zipIdx.Pairwise fun attempt later =>
          attempt.2 < later.2 := by
      rw [← List.pairwise_map, List.zipIdx_map_snd]
      exact List.pairwise_lt_range' 1
    refine positions.filterMap failureOf? fun attempt later before failure first next second => ?_
    obtain ⟨-, -, rfl⟩ := failureOf?_eq_some_iff.mp first
    obtain ⟨-, -, rfl⟩ := failureOf?_eq_some_iff.mp second
    exact before
  exact failure := by
    rw [ofAttempts, List.mem_filterMap]
    constructor
    · rintro ⟨⟨attempt, position⟩, member, found⟩
      obtain ⟨error, failed, rfl⟩ := failureOf?_eq_some_iff.mp found
      rw [List.mk_mem_zipIdx_iff_getElem?, List.getElem?_map, Option.map_eq_some_iff] at member
      obtain ⟨candidate, there, rfl⟩ := member
      exact ⟨candidate, error, there, failed, rfl, rfl⟩
    · rintro ⟨candidate, error, there, failed, method, message⟩
      refine ⟨((candidate, outcome candidate), failure.candidate), ?_, ?_⟩
      · rw [List.mk_mem_zipIdx_iff_getElem?, List.getElem?_map, there, Option.map_some]
      · refine failureOf?_eq_some_iff.mpr ⟨error, failed, ?_⟩
        rw [← method, ← message]

/-- A report without failures lists them all just when no attempted candidate fails. -/
theorem listsFailures_iff_of_nil {report : RunReport}
    (counts : report.stats.Counts (candidates.map outcome)) (unlisted : report.failures = []) :
    report.ListsFailures outcome candidates ↔
      ∀ candidate ∈ candidates, (outcome candidate).isFailed = false := by
  have none_iff : report.stats.failed = 0 ↔
      ∀ candidate ∈ candidates, (outcome candidate).isFailed = false := by
    simp only [counts.failed, List.countP_eq_zero, List.forall_mem_map, Bool.not_eq_true]
  rw [← none_iff]
  constructor
  · -- A complete list is as long as the count of failures.
    intro lists
    rw [← lists.failed, unlisted, List.length_nil]
  · intro none
    refine ⟨?_, ?_, fun failure => ?_⟩
    · rw [none, unlisted, List.length_nil]
    · rw [unlisted]
      exact .nil
    · rw [unlisted]
      -- A listed failure would be that of a candidate that fails.
      refine iff_of_false List.not_mem_nil ?_
      rintro ⟨candidate, error, there, failed, -⟩
      have works := none_iff.mp none candidate (List.mem_of_getElem? there)
      rw [failed] at works
      cases works

end RunReport

/-! ### Both ways to run a request -/

namespace GenerationRequest

/-- What a candidate comes to when it is compiled alone over the classes of a request. -/
def outcome (request : GenerationRequest) (config : CompilerConfig) : Candidate → Attempt :=
  Candidate.alone (fun _ => .none) config (request.classSpace config.helpers)

/-- The candidates of a request up to and including the first that compiles. -/
def reached (request : GenerationRequest) (config : CompilerConfig) : List Candidate :=
  Search.throughCompiled (request.outcome config) request.candidates

/-- The search of a request has tried nothing before. -/
theorem search_hasTried (request : GenerationRequest) (config : CompilerConfig) :
    (request.search config).HasTried (fun _ => .none) config
      (request.classSpace config.helpers) [] :=
  ⟨rfl, rfl, rfl, rfl, rfl⟩

/-- A run over all candidates reports what each of them comes to alone. -/
theorem runAll_eq (request : GenerationRequest) (config : CompilerConfig) :
    ∃ stats : GenerationStats, stats.Counts (request.candidates.map (request.outcome config)) ∧
      request.runAll config = .ofAttempts stats (request.candidates.map fun candidate =>
        (candidate, request.outcome config candidate)) := by
  obtain ⟨after, ran, tried⟩ :=
    Search.attemptAll_hasTried request.candidates (request.search_hasTried config)
  refine ⟨after.stats, tried.counts, ?_⟩
  -- The report is made from the candidates and their attempts side by side.
  rw [runAll, ran, List.map_prod_left_eq_zip]
  rfl

/-- A run up to the first success reports the counts and the test of what it reaches. -/
theorem runFirst_eq (request : GenerationRequest) (config : CompilerConfig) :
    ∃ stats : GenerationStats,
      stats.Counts ((request.reached config).map (request.outcome config)) ∧
      request.runFirst config =
        { stats
          tests := (Search.compiledAmong (request.outcome config) (request.reached config)).map
            fun (candidate, test) => .ofTest candidate.method test } := by
  obtain ⟨result, after, more, ran, tried, finds⟩ :=
    Search.firstCompiled_finds (fun _ => false) 0 request.candidates
      (request.search_hasTried config)
  -- Only the first success ends the search, since it is never told to stop.
  obtain ⟨rfl, listed⟩ := finds.eq_throughCompiled
  refine ⟨after.stats, tried.counts, ?_⟩
  rw [runFirst, ran]
  simp only [RunReport.ofResult, listed]
  rfl

/-- A run over all candidates accounts for all of them and lists each failure. -/
theorem runAll_accounts (request : GenerationRequest) (config : CompilerConfig) :
    (request.runAll config).Accounts (request.outcome config) request.candidates ∧
      (request.runAll config).ListsFailures (request.outcome config) request.candidates := by
  obtain ⟨stats, counts, ran⟩ := request.runAll_eq config
  rw [ran]
  exact ⟨RunReport.accounts_of_tests counts (RunReport.tests_ofAttempts stats),
    RunReport.listsFailures_ofAttempts counts⟩

/-- A run up to the first success accounts for what it reaches, and lists no failure. -/
theorem runFirst_accounts (request : GenerationRequest) (config : CompilerConfig) :
    (request.runFirst config).Accounts (request.outcome config) (request.reached config) ∧
      (request.runFirst config).failures = [] := by
  obtain ⟨stats, counts, ran⟩ := request.runFirst_eq config
  rw [ran]
  exact ⟨RunReport.accounts_of_tests counts rfl, rfl⟩

/-- Apart from the failures, it reports what a run over all that it reaches does. -/
theorem runFirst_eq_runAll (request : GenerationRequest) (config : CompilerConfig) :
    request.runFirst config =
      { ({ request with candidates := request.reached config } : GenerationRequest).runAll config
        with failures := [] } := by
  obtain ⟨first, unlisted⟩ := request.runFirst_accounts config
  -- What a candidate comes to depends on the classes of the request alone.
  obtain ⟨all, -⟩ := runAll_accounts { request with candidates := request.reached config } config
  have stats := first.counts.unique all.counts
  have tests := first.tests.trans all.tests.symm
  calc request.runFirst config
      = ⟨(request.runFirst config).stats, (request.runFirst config).tests,
          (request.runFirst config).failures⟩ := rfl
    _ = _ := by rw [stats, tests, unlisted]

/--
A run over all candidates counts each by its outcome, reports as many tests as it counts
successes, and lists as many failures as it counts, with the positions of exactly the candidates
that fail. A run up to the first success reports the same as one over the candidates up to there,
with at most one test. But it lists no failures, so that its list is complete only if none of
these candidates fails.
-/
theorem runs_accounted (request : GenerationRequest) (config : CompilerConfig) :
    (request.runAll config).Accounts (request.outcome config) request.candidates ∧
    (request.runAll config).ListsFailures (request.outcome config) request.candidates ∧
    (request.runFirst config).Accounts (request.outcome config) (request.reached config) ∧
    (request.runFirst config).tests.length ≤ 1 ∧
    request.runFirst config =
      { ({ request with candidates := request.reached config } : GenerationRequest).runAll config
        with failures := [] } ∧
    ((request.runFirst config).ListsFailures (request.outcome config) (request.reached config) ↔
      ∀ candidate ∈ request.reached config,
        (request.outcome config candidate).isFailed = false) := by
  obtain ⟨all, failures⟩ := request.runAll_accounts config
  obtain ⟨first, unlisted⟩ := request.runFirst_accounts config
  refine ⟨all, failures, first, ?_, request.runFirst_eq_runAll config,
    RunReport.listsFailures_iff_of_nil first.counts unlisted⟩
  rw [first.tests, List.length_map]
  exact Search.length_compiledAmong_throughCompiled_le

/-- A candidate without parameters, one with a plan that cannot be compiled, and one that can. -/
def ofEachOutcome : GenerationRequest where
  classes := { instrumented := [.withMethod (.ofName "demo.Config") "reset" [] "void" true] }
  candidates := [⟨Demo.settingsReset, none⟩,
    ⟨Demo.settingsReset, some { statics := [.mk "m" (.mock (.object Demo.settings))] }⟩,
    ⟨Demo.settingsReset, some {}⟩]

/-- A failure before the first success is counted but not listed. -/
theorem runs_accounted_unlisted :
    (ofEachOutcome.runAll {}).failures.map (·.candidate) = [1] ∧
      (ofEachOutcome.runFirst {}).stats = ⟨3, 1, 1, 1⟩ ∧
      (ofEachOutcome.runFirst {}).tests.length = 1 ∧
      (ofEachOutcome.runFirst {}).failures.length ≠ (ofEachOutcome.runFirst {}).stats.failed := by
  decide +kernel

end GenerationRequest

end TestPlan
