import TestPlan.Generation.Request
import TestPlan.Lowering.Compile

/-! Compiling candidates one after the other, each with a fresh compilation. -/

namespace TestPlan

/-- How often candidates were attempted, and with what outcome. -/
structure GenerationStats where
  attempted : Nat := 0
  skipped : Nat := 0
  failed : Nat := 0
  succeeded : Nat := 0
  deriving DecidableEq, Repr

/-- The outcome of an attempt. -/
inductive Attempt where
  /-- The candidate has no parameters. -/
  | skipped
  | compiled (test : CompiledTest)
  | failed (error : CompileError)

/--
A search for tests: the loader it shares between attempts, and what it has counted. All class
sources are in memory, and so the loader is one of these.
-/
structure Search where
  loader : Loader
  stats : GenerationStats := {}

/-- What a search for one test has come to. -/
structure SearchResult where
  found : Option (Candidate × CompiledTest)
  /-- How often it was asked whether to stop. -/
  asked : Nat

namespace GenerationStats

/-- Counts an attempt. -/
def count (stats : GenerationStats) (outcome : Attempt) : GenerationStats :=
  let stats := { stats with attempted := stats.attempted + 1 }
  match outcome with
  | .skipped => { stats with skipped := stats.skipped + 1 }
  | .compiled _ => { stats with succeeded := stats.succeeded + 1 }
  | .failed _ => { stats with failed := stats.failed + 1 }

end GenerationStats

namespace Search

variable (sharing : Candidate → Sharing)

/-- Compiles the test of a candidate, and the loader as it is afterwards. -/
def tryCandidate (config : CompilerConfig) (candidate : Candidate) (loader : Loader) :
    Attempt × Loader :=
  match candidate.parameters with
  | none => (.skipped, loader)
  | some parameters =>
    match Lower.compileTest (sharing candidate) config candidate.method parameters { loader } with
    | .ok test session => (.compiled test, session.loader)
    | .error error session => (.failed error, session.loader)

/-- Attempts a candidate. -/
def attempt (config : CompilerConfig) (candidate : Candidate) : StateM Search Attempt :=
  fun search =>
    let (outcome, loader) := tryCandidate sharing config candidate search.loader
    (outcome, { loader, stats := search.stats.count outcome })

/-- Attempts every candidate. -/
def attemptAll (config : CompilerConfig) (candidates : List Candidate) :
    StateM Search (List Attempt) :=
  candidates.mapM (attempt sharing config)

/--
Attempts candidates until one compiles or the search is told to stop. Before each attempt it
asks whether to, and `stop` answers by the number of times it was asked before.
-/
def firstCompiled (config : CompilerConfig) (stop : Nat → Bool) (asked : Nat) :
    List Candidate → StateM Search SearchResult
  | [] => return ⟨none, asked⟩
  | candidate :: rest => do
    if stop asked then return ⟨none, asked + 1⟩
    match ← attempt sharing config candidate with
    | .compiled test => return ⟨some (candidate, test), asked + 1⟩
    | _ => firstCompiled config stop (asked + 1) rest

end Search

end TestPlan
