import Mathlib.Data.List.Nodup
import TestPlan.Proofs.Lowering.Blame

/-! What holds of a compilation after any requests, successful or not. -/

namespace TestPlan

/-- Something that a compilation is asked to compile. -/
inductive Request where
  | plan (root : Plan)
  | parameters (parameters : Parameters)
  | testCall (call : TestCall)

namespace Request

/-- The plans that are asked for. -/
def plans : Request → List Plan
  | .plan root => [root]
  | .parameters needed => needed.roots
  | .testCall call => call.operands

variable {ρ : Type} [ClassLoading ρ]

/-- Compiles what is asked for. -/
def compile (config : CompilerConfig) : Request → Lowering ρ Unit
  | .plan root => Lower.compile config root
  | .parameters needed => Lower.compileParameters config needed
  | .testCall call => Lower.compileTestCall config call

end Request

namespace Compilation

variable {ρ : Type} [ClassLoading ρ]

/-- The compilation after a request, which need not succeed. -/
def answer (config : CompilerConfig) (session : Compilation ρ) (request : Request) :
    Compilation ρ :=
  match request.compile config session with
  | .ok _ after
  | .error _ after => after

/-- The compilation after requests, none of which need succeed. -/
def answerAll (config : CompilerConfig) (session : Compilation ρ) (requests : List Request) :
    Compilation ρ :=
  requests.foldl (answer config) session

end Compilation

/-- Plans get their variables, and statements define them, in one order. -/
structure Compilation.Ordered {ρ : Type} (session : Compilation ρ) : Prop where
  /-- Distinct plans have distinct variables. -/
  apart : ∀ name name' var, session.bindings.get? name = some var →
    session.bindings.get? name' = some var → name = name'
  /-- The variable of a plan is declared, and a statement defines it. -/
  defined : ∀ entry ∈ session.bindings.bound, ∃ known position statement,
    session.test.info? entry.2 = some known ∧ known.definedAt = some position ∧
      session.test.statements[position]? = some statement ∧ statement.defines = some entry.2
  indices_increasing : (session.bindings.bound.map fun entry => entry.2.index).Pairwise (· < ·)
  positions_increasing :
    (session.bindings.bound.filterMap fun entry => session.test.definedAt? entry.2).Pairwise (· < ·)

/-- Every variable is defined, in the order of declaration. -/
structure Compilation.Complete {ρ : Type} (session : Compilation ρ) : Prop where
  defined : ∀ var known, session.test.info? var = some known → known.definedAt.isSome = true
  in_order : session.test.statements.filterMap Statement.defines =
    (List.range session.test.declared.length).map Var.mk

namespace Orderly

variable {ρ : Type} {session : Compilation ρ}

/-- What is defined later has been declared later. -/
theorem definedAt?_lt (orderly : Orderly session) {first second : Var} {position later : Nat}
    (before : first.index < second.index)
    (defined : session.test.definedAt? first = some position)
    (defined' : session.test.definedAt? second = some later) : position < later := by
  obtain ⟨count, _, _, definers⟩ := orderly.definers
  -- The definers are listed in the order of declaration.
  have increasing : (session.test.statements.filterMap Statement.defines).Pairwise
      fun left right => left.index < right.index := by
    rw [definers, List.pairwise_map]
    exact List.pairwise_lt_range
  rw [List.pairwise_filterMap, List.pairwise_iff_getElem] at increasing
  obtain ⟨statement, found, defines⟩ := (orderly.coherent.definedAt_iff _ _).mp defined
  obtain ⟨statement', found', defines'⟩ := (orderly.coherent.definedAt_iff _ _).mp defined'
  obtain ⟨inside, rfl⟩ := List.getElem?_eq_some_iff.mp found
  obtain ⟨inside', rfl⟩ := List.getElem?_eq_some_iff.mp found'
  -- In the other order the later variable would have the smaller index.
  rcases Nat.lt_trichotomy position later with lt | rfl | gt
  · exact lt
  · -- One statement cannot define both variables.
    rw [defines] at defines'
    cases defines'
    omega
  · have := increasing later position inside' inside gt _ defines' _ defines
    omega

/-- In an orderly compilation there is one order of plans, variables and statements. -/
theorem ordered (orderly : Orderly session) : session.Ordered where
  apart name name' var bound bound' := by
    -- Indices increase along the bindings, so no variable occurs twice.
    have distinct : (session.bindings.bound.map fun entry => entry.2.index).Nodup :=
      orderly.bound_increasing.imp fun lt => Nat.ne_of_lt lt
    have same := List.inj_on_of_nodup_map distinct (Bindings.mem_of_get? bound)
      (Bindings.mem_of_get? bound') rfl
    exact congrArg Prod.fst same
  defined entry member := by
    obtain ⟨position, defined⟩ := orderly.bound_defined entry.1 entry.2 member
    obtain ⟨known, found, stored⟩ := Option.bind_eq_some_iff.mp defined
    obtain ⟨statement, there, defines⟩ := (orderly.coherent.definedAt_iff _ _).mp defined
    exact ⟨known, position, statement, found, stored, there, defines⟩
  indices_increasing := orderly.bound_increasing
  positions_increasing := by
    rw [List.pairwise_filterMap]
    exact (List.pairwise_map.mp orderly.bound_increasing).imp fun before _ defined _ defined' =>
      orderly.definedAt?_lt before defined defined'

/-- Before the call under test all variables are defined. -/
theorem complete (orderly : Orderly session) (running : session.terminated = false) :
    session.Complete := by
  obtain ⟨count, _, all, definers⟩ := orderly.definers
  rw [all running] at definers
  refine ⟨fun var known found => ?_, definers⟩
  -- A running test has a definer for every declared variable.
  have member : var ∈ session.test.statements.filterMap Statement.defines := by
    rw [definers]
    exact List.mem_map.mpr ⟨var.index, by simpa using TestCase.lt_of_info? found, rfl⟩
  obtain ⟨statement, member, defines⟩ := List.mem_filterMap.mp member
  obtain ⟨position, there⟩ := List.mem_iff_getElem?.mp member
  have defined := (orderly.coherent.definedAt_iff var position).mpr ⟨statement, there, defines⟩
  rw [TestCase.definedAt?, found, Option.bind_some] at defined
  simp [defined]

end Orderly

variable {ρ : Type} [ClassLoading ρ]

namespace Lower

/-- Compiling a root is blamed on it. -/
theorem compile_ensures (config : CompilerConfig) (plan : Plan) (session : Compilation ρ) :
    Ensures (Blamed config session.active [plan]) (compile config plan) session
      fun _ _ => True := by
  cases plan with
  | mk name kind => exact once_ensures (lowerKind_ensures config name kind)

/-- Compiling roots is blamed on them. -/
theorem forM_compile_ensures (config : CompilerConfig) (plans : List Plan)
    (session : Compilation ρ) :
    Ensures (Blamed config session.active plans) (plans.forM (compile config)) session
      fun _ _ => True := by
  induction plans generalizing session with
  | nil => exact .pure trivial
  | cons plan rest ih =>
    -- Each root leaves the active plans as they were for the next one.
    refine .bind ((compile_ensures config plan session).mono (fun _ => .mono (by simp))
      fun _ _ => id) fun _ later moves _ => ?_
    rw [← moves.keeps.active]
    exact (ih later).mono (fun _ => .mono (by simp)) fun _ _ => id

/-- Compiling a test is blamed on the plans that it needs. -/
theorem compileTest_ensures (sharing : Sharing) (config : CompilerConfig)
    (method : MethodReference) (parameters : Parameters) (session : Compilation ρ) :
    Ensures (Blamed config session.active parameters.roots)
      (compileTest sharing config method parameters) session fun _ _ => True := by
  have checked : ∀ error, checkNames sharing config parameters = .error error → error.Ordinary := by
    intro error failed
    unfold checkNames at failed
    split at failed
    · split at failed <;> cases failed
      trivial
    · cases failed
  -- The names are checked first, then the roots are compiled, then the call.
  refine .bind (ofExcept_ensures fun error failed => .of_ordinary (checked error failed))
    fun _ start first _ => ?_
  rw [← first.keeps.active]
  refine .bind (forM_compile_ensures config parameters.roots start) fun _ later second _ => ?_
  rw [← second.keeps.active]
  refine .bind ((lowerTestCall_ensures config (parameters.testCall method) later).mono
    (fun _ => .mono ?_) fun _ _ => id) fun _ _ _ _ => .get_bind (.pure trivial)
  -- The receiver and the arguments of the call are roots.
  intro plan member
  simp only [Parameters.testCall, TestCall.operands, Parameters.roots] at member ⊢
  exact List.mem_append_left _ member

end Lower

/-- A request is blamed on the plans asked for. -/
theorem Request.compile_ensures (config : CompilerConfig) (request : Request)
    (session : Compilation ρ) :
    Ensures (Blamed config session.active request.plans) (request.compile config) session
      fun _ _ => True := by
  cases request with
  | plan root => exact Lower.compile_ensures config root session
  | parameters needed => exact Lower.forM_compile_ensures config needed.roots session
  | testCall call => exact Lower.lowerTestCall_ensures config call session

namespace Compilation

/-- Whatever a request returns, it has only made moves. -/
theorem answer_moves (config : CompilerConfig) {session : Compilation ρ}
    (orderly : Orderly session) (request : Request) :
    Moves session (session.answer config request) := by
  have ensured := request.compile_ensures config session orderly
  unfold answer
  revert ensured
  -- The state after a failure is reached by moves as well.
  cases request.compile config session with
  | ok _ after => exact And.left
  | error _ after => exact And.left

/-- Whatever requests return, they have only made moves. -/
theorem answerAll_moves (config : CompilerConfig) {session : Compilation ρ}
    (orderly : Orderly session) (requests : List Request) :
    Moves session (session.answerAll config requests) := by
  induction requests generalizing session with
  | nil => exact .refl session
  | cons request rest ih =>
    -- The induction is on the requests, over every orderly compilation.
    have first := answer_moves config orderly request
    exact first.trans (ih (first.orderly orderly))

/--
After any requests, plans, variables and statements are in one order, and before the call under
test no variable is left undefined. No plan stays active, so a later failure is blamed only on
the plans that are asked for then.
-/
theorem answerAll_ordered (config : CompilerConfig) (loader : ρ) (requests : List Request) :
    (answerAll config { loader } requests).Ordered ∧
      ((answerAll config { loader } requests).terminated = false →
        (answerAll config { loader } requests).Complete) ∧
      (answerAll config { loader } requests).active = [] ∧
      ∀ request error after,
        Request.compile config request (answerAll config { loader } requests)
            = .error error after →
          Blamed config [] request.plans error := by
  -- Everything follows from moves made since an empty compilation.
  have moves := answerAll_moves config (Orderly.initial loader) requests
  have orderly := moves.orderly (Orderly.initial loader)
  have idle : (answerAll config { loader } requests).active = [] := moves.keeps.active
  refine ⟨orderly.ordered, orderly.complete, idle, fun request error after failed => ?_⟩
  have ensured := request.compile_ensures config _ orderly
  rw [failed, idle] at ensured
  exact ensured.2

/-- After any requests, statements are refused only for the element that they assign. -/
theorem refused_only_for_element (config : CompilerConfig) (loader : ρ)
    (requests : List Request) :
    (∀ request error after,
      Request.compile config request (answerAll config { loader } requests)
          = .error (.testCase error) after →
        (∃ var, error = .notAnArray var) ∨
          ∃ array index length, error = .indexOutOfBounds array index length) ∧
      ∀ sharing method parameters error after,
        Lower.compileTest sharing config method parameters (answerAll config { loader } requests)
            = .error (.testCase error) after →
          (∃ var, error = .notAnArray var) ∨
            ∃ array index length, error = .indexOutOfBounds array index length := by
  have moves := answerAll_moves config (Orderly.initial loader) requests
  have orderly := moves.orderly (Orderly.initial loader)
  -- The two refusals of a target are spelled out once for both kinds of compilation.
  have named : ∀ {error : TestCaseError}, error.ofElement = true →
      (∃ var, error = .notAnArray var) ∨
        ∃ array index length, error = .indexOutOfBounds array index length := by
    intro error ofElement
    cases error <;> simp_all [TestCaseError.ofElement]
  constructor
  · intro request error after failed
    have ensured := request.compile_ensures config _ orderly
    rw [failed] at ensured
    exact named ensured.2
  · intro sharing method parameters error after failed
    have ensured := Lower.compileTest_ensures sharing config method parameters _ orderly
    rw [failed] at ensured
    exact named ensured.2

end Compilation

end TestPlan
