import TestPlan.Data.Json.Printer
import TestPlan.Generation.Search
import TestPlan.TestCase.Codec

/-! Reports of what a run has compiled, as text and as data. -/

namespace TestPlan

/-- What a report says about a statement. -/
structure StatementSummary where
  position : Nat
  kind : StatementKind
  defines : Option Var
  uses : List Var
  /-- The call of the statement in readable form. -/
  invokes : Option String
  /-- Whether the statement calls a reflection helper, so that a search keeps it as it is. -/
  fixed : Bool
  deriving DecidableEq, Repr

/-- What a report says about a compiled test. -/
structure TestReport where
  method : String
  variableCount : Nat
  bindings : List (String × Var)
  statements : List StatementSummary
  deriving DecidableEq, Repr

/-- What a report says about a candidate that did not compile. -/
structure FailureReport where
  candidate : Nat
  method : String
  error : String
  deriving DecidableEq, Repr

/-- The report of a run. -/
structure RunReport where
  stats : GenerationStats := {}
  tests : List TestReport := []
  failures : List FailureReport := []
  deriving DecidableEq, Repr

/-! ### Summaries -/

/-- The summary of the statement at a position. -/
def Statement.summary (statement : Statement) (position : Nat) : StatementSummary where
  position
  kind := statement.kind
  defines := statement.defines
  uses := statement.uses
  invokes := statement.attribution.map Callable.display
  fixed := statement.isReflection

/-- The report of the compiled test of a method. -/
def TestReport.ofTest (method : MethodReference) (compiled : CompiledTest) : TestReport where
  method := method.display
  variableCount := compiled.test.declared.length
  bindings := compiled.bindings.bound
  statements := compiled.test.statements.zipIdx.map fun (statement, position) =>
    statement.summary position

namespace RunReport

/-- The test of an attempt, if it compiled. -/
def testOf? : Candidate × Attempt → Option TestReport
  | (candidate, .compiled test) => some (.ofTest candidate.method test)
  | _ => none

/-- The failure of the attempt at a position, if it failed. -/
def failureOf? : (Candidate × Attempt) × Nat → Option FailureReport
  | ((candidate, .failed error), position) =>
    some ⟨position, candidate.method.display, error.message⟩
  | _ => none

/-- The report of candidates that were all attempted. -/
def ofAttempts (stats : GenerationStats) (attempts : List (Candidate × Attempt)) :
    RunReport where
  stats
  tests := attempts.filterMap testOf?
  failures := attempts.zipIdx.filterMap failureOf?

/-- The report of a search for one test. -/
def ofResult (stats : GenerationStats) (result : SearchResult) : RunReport where
  stats
  tests := result.found.toList.map fun (candidate, test) => .ofTest candidate.method test

end RunReport

namespace GenerationRequest

/-- The search over the classes of a request, before any attempt. -/
def search (request : GenerationRequest) (config : CompilerConfig) : Search where
  loader := request.loader config.helpers

/-- Compiles every candidate of a request. -/
def runAll (request : GenerationRequest) (config : CompilerConfig) : RunReport :=
  let (attempts, search) :=
    Search.attemptAll (fun _ => .none) config request.candidates (request.search config)
  .ofAttempts search.stats (request.candidates.zip attempts)

/-- Compiles candidates of a request until one succeeds. -/
def runFirst (request : GenerationRequest) (config : CompilerConfig) : RunReport :=
  let (result, search) :=
    Search.firstCompiled (fun _ => .none) config (fun _ => false) 0 request.candidates
      (request.search config)
  .ofResult search.stats result

end GenerationRequest

/-! ### Text -/

/-- A text filled up with blanks on the left to a width. -/
def alignRight (width : Nat) (text : String) : String :=
  String.ofList (List.replicate (width - text.length) ' ') ++ text

/-- A text filled up with blanks on the right to a width. -/
def alignLeft (width : Nat) (text : String) : String :=
  text ++ String.ofList (List.replicate (width - text.length) ' ')

/-- The line of a statement. -/
def StatementSummary.render (summary : StatementSummary) : String :=
  alignRight 4 (toString summary.position) ++ "  "
    ++ alignLeft 12 summary.kind.label ++ " "
    ++ alignLeft 5 ((summary.defines.map Var.display).getD "")
    ++ " [" ++ ", ".intercalate (summary.uses.map Var.display) ++ "]"
    ++ ((summary.invokes.map ("  " ++ ·)).getD "")
    ++ (if summary.fixed then "  (fixed)" else "") ++ "\n"

/-- The lines of a test. -/
def TestReport.render (report : TestReport) : String :=
  report.method ++ ": " ++ toString report.statements.length ++ " statements, "
    ++ toString report.variableCount ++ " variables\n"
    ++ String.join (report.statements.map StatementSummary.render)

/-- The line of a failure. -/
def FailureReport.render (report : FailureReport) : String :=
  "candidate " ++ toString report.candidate ++ " (" ++ report.method ++ ") failed: "
    ++ report.error ++ "\n"

/-- The text of a report. -/
def RunReport.render (report : RunReport) : String :=
  String.join (report.tests.map TestReport.render)
    ++ String.join (report.failures.map FailureReport.render)
    ++ toString report.stats.attempted ++ " attempted, " ++ toString report.stats.succeeded
    ++ " compiled, " ++ toString report.stats.failed ++ " failed, "
    ++ toString report.stats.skipped ++ " skipped\n"

/-! ### Data -/

/-- The data of a count. -/
def countDatum (count : Nat) : Datum :=
  .integer count

/-- The data of the counts of a run. -/
def GenerationStats.toDatum (stats : GenerationStats) : Datum :=
  .record [("attempted", countDatum stats.attempted), ("skipped", countDatum stats.skipped),
    ("failed", countDatum stats.failed), ("succeeded", countDatum stats.succeeded)]

/-- The data of a statement. -/
def StatementSummary.toDatum (summary : StatementSummary) : Datum :=
  .record [("position", countDatum summary.position), ("kind", .text summary.kind.name),
    ("defines", .ofOption Var.toDatum summary.defines),
    ("uses", .list (summary.uses.map Var.toDatum)),
    ("invokes", .ofOption .text summary.invokes), ("reflection", .boolean summary.fixed)]

/-- The data of a test. -/
def TestReport.toDatum (report : TestReport) : Datum :=
  .record [("method", .text report.method), ("variables", countDatum report.variableCount),
    ("bindings", .list (report.bindings.map fun (plan, var) =>
      .record [("plan", .text plan), ("var", var.toDatum)])),
    ("statements", .list (report.statements.map StatementSummary.toDatum))]

/-- The data of a failure. -/
def FailureReport.toDatum (report : FailureReport) : Datum :=
  .record [("candidate", countDatum report.candidate), ("method", .text report.method),
    ("error", .text report.error)]

/-- The data of a report. -/
def RunReport.toDatum (report : RunReport) : Datum :=
  .record [("stats", report.stats.toDatum),
    ("tests", .list (report.tests.map TestReport.toDatum)),
    ("failures", .list (report.failures.map FailureReport.toDatum))]

end TestPlan
