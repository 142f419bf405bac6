import TestPlan.Demo.Plans
import TestPlan.Proofs.Lowering.Recorded

/-! Requests only add to a compilation, and after the call under test they do not even add. -/

namespace TestPlan

variable {ρ : Type} [ClassLoading ρ] {config : CompilerConfig} {session after : Compilation ρ}

/-! ### What requests leave -/

/-- The later compilation has all that the earlier one has appended, bound and compiled. -/
structure Compilation.Extends (session after : Compilation ρ) : Prop where
  statements : session.test.statements <+: after.test.statements
  bound : session.bindings.bound <+: after.bindings.bound
  /-- The type and the position of a defined variable are final. -/
  defined : ∀ var known, session.test.info? var = some known → known.definedAt.isSome = true →
    after.test.info? var = some known
  compiled : ∀ name, session.bindings.isCompiled name = true →
    after.bindings.isCompiled name = true

/-- No request changes the statements or the bindings any more. -/
def Compilation.Frozen (config : CompilerConfig) (session : Compilation ρ) : Prop :=
  ∀ later, (session.answerAll config later).test.statements = session.test.statements ∧
    (session.answerAll config later).bindings.bound = session.bindings.bound

omit [ClassLoading ρ] in
/-- What is kept is there later. -/
theorem Keeps.extends (kept : Keeps session after) : session.Extends after where
  statements := kept.statements
  bound := kept.bound
  defined := kept.defined
  compiled _ := kept.isCompiled

/-- After the call under test nothing changes any more. -/
theorem Orderly.frozen (orderly : Orderly session) (terminated : session.terminated = true) :
    session.Frozen config :=
  fun later => ((Compilation.answerAll_moves config orderly later).keeps.frozen terminated).2

/-! ### The call under test -/

/-- A request on which the call under test is appended: for itself, or as a plan that is new. -/
inductive Request.Ends (config : CompilerConfig) (session : Compilation ρ) : Request → Prop
  | testCall {call : TestCall} {after : Compilation ρ} :
      Lower.compileTestCall config call session = .ok () after →
        Ends config session (.testCall call)
  | plan {root : Plan} {after : Compilation ρ} :
      root.isTestCall = true → session.bindings.isCompiled root.name = false →
      Lower.compile config root session = .ok () after →
        Ends config session (.plan root)
  /-- Roots that come later may fail, since they follow the call. -/
  | parameters {needed : Parameters} {before rest : List Plan} {root : Plan}
      {middle after : Compilation ρ} :
      needed.roots = before ++ root :: rest →
      before.forM (Lower.compile config) session = .ok () middle →
      root.isTestCall = true → middle.bindings.isCompiled root.name = false →
      Lower.compile config root middle = .ok () after →
        Ends config session (.parameters needed)

namespace Lower

/-- A plan of a compiled name is compiled by doing nothing. -/
theorem compile_of_isCompiled {plan : Plan}
    (compiled : session.bindings.isCompiled plan.name = true) :
    compile config plan session = .ok () session := by
  rw [compile, once, get_bind, if_pos compiled]
  rfl

/-- The call under test is the end of a test. -/
theorem terminated_of_lowerTestCall {call : TestCall} {result : Unit}
    (ran : lowerTestCall config call session = .ok result after) : after.terminated = true := by
  obtain ⟨method, receiver, args⟩ := call
  obtain ⟨_, _, _, ⟨⟩⟩ := bind_eq_ok_iff.mp ran
  rfl

/-- A plan that is a call under test is the end of a test, unless its name is compiled. -/
theorem terminated_of_compile {root : Plan} {result : Unit} (call : root.isTestCall = true)
    (uncompiled : session.bindings.isCompiled root.name = false)
    (ran : compile config root session = .ok result after) : after.terminated = true := by
  obtain ⟨name, kind⟩ := root
  cases kind with
  | testCall tested =>
    rcases once_ok ran with ⟨compiled, _⟩ | ⟨_, _, inside, lowered, rfl⟩
    · rw [uncompiled] at compiled
      cases compiled
    · have lowered : lowerTestCall config tested (session.enter name) = .ok () inside := lowered
      have complete : inside.terminated = true := terminated_of_lowerTestCall lowered
      exact complete
  | _ => cases call

end Lower

/-- When the call under test has been appended on a request, the test is complete. -/
theorem Request.Ends.terminated {request : Request} (ends : request.Ends config session) :
    (session.answer config request).terminated = true := by
  cases ends with
  | testCall ran =>
    rw [Compilation.answer, show Request.compile config (.testCall _) session = _ from ran]
    exact Lower.terminated_of_lowerTestCall ran
  | plan call uncompiled ran =>
    rw [Compilation.answer, show Request.compile config (.plan _) session = _ from ran]
    exact Lower.terminated_of_compile call uncompiled ran
  | @parameters needed before rest root middle after roots compiles call uncompiled ran =>
    have complete := Lower.terminated_of_compile call uncompiled ran
    have split : needed.roots.forM (Lower.compile (ρ := ρ) config) =
        before.forM (Lower.compile config) >>= fun _ =>
          Lower.compile config root >>= fun _ => rest.forM (Lower.compile config) := by
      rw [roots, List.forM_eq_forM, List.forM_append, List.forM_cons]
    have run : Request.compile config (.parameters needed) session
        = rest.forM (Lower.compile config) after := by
      rw [Request.compile, Lower.compileParameters, split, bind_of_ok compiles, bind_of_ok ran]
    -- Whether or not the other roots succeed, they leave the test complete.
    have others : Records (ρ := ρ) rest (rest.forM (Lower.compile config)) :=
      Lower.forM_compile_records rest (List.Subset.refl _)
    have recorded := others after
    rw [Compilation.answer, run]
    revert recorded
    cases rest.forM (Lower.compile config) after with
    | ok _ last => exact fun recorded => recorded.terminated complete
    | error _ last => exact fun recorded => recorded.terminated complete

example : (Compilation.answer {} ({ loader := Demo.loader [] } : Session)
    (.testCall (.mk Demo.settingsReset none []))).terminated = true := by decide +kernel

/-! ### Any requests -/

namespace Compilation

/--
Every request leaves all there has been, whatever the requests before it have returned. Plans of
compiled names are compiled by doing nothing. When the call under test has been appended, for
itself or as a plan that is recorded, no request changes the statements or the bindings any more.
-/
theorem answerAll_appendOnly (config : CompilerConfig) (loader : ρ) (requests : List Request) :
    let session := answerAll config { loader } requests
    (∀ request, session.Extends (session.answer config request)) ∧
      (∀ plan later, session.bindings.isCompiled plan.name = true →
        Lower.compile config plan (session.answerAll config later)
          = .ok () (session.answerAll config later)) ∧
      (∀ request, request.Ends config session → (session.answer config request).Frozen config) ∧
      ∀ request, ∀ name ∈ (session.answer config request).bindings.completed,
        name ∈ session.bindings.completed ∨
          ∃ plan, Needed request.plans plan ∧ plan.name = name ∧
            (plan.isTestCall = true → (session.answer config request).Frozen config) := by
  intro session
  have orderly : Orderly session :=
    (answerAll_moves config (.initial loader) requests).orderly (.initial loader)
  have orderly' : ∀ request, Orderly (session.answer config request) := fun request =>
    (answer_moves config orderly request).orderly orderly
  refine ⟨fun request => (answer_moves config orderly request).keeps.extends, ?_, ?_, ?_⟩
  · intro plan later compiled
    have kept := (answerAll_moves config orderly later).keeps
    exact Lower.compile_of_isCompiled (kept.isCompiled compiled)
  · intro request ends
    exact (orderly' request).frozen ends.terminated
  · intro request name member
    -- A call that has been recorded has completed the test, wherever it has been read.
    have recorded := (answer_recorded config session request).completed name member
    exact recorded.imp_right fun ⟨plan, needed, named, complete⟩ =>
      ⟨plan, needed, named, fun call => (orderly' request).frozen (complete call)⟩

/-- A plan that is a call under test may be compiled without the test being complete. -/
theorem frozen_of_compile_false :
    ¬ ∀ (requests : List Request) (root : Plan) (after : Session), root.isTestCall = true →
      Lower.compile {} root (answerAll {} { loader := Demo.loader [] } requests)
        = .ok () after → after.Frozen {} := by
  intro freezes
  -- The name of the call is taken by a number, so the call is not appended.
  have frozen := freezes [.plan (Demo.int "x" 5)]
    (.mk "x" (.testCall (.mk Demo.settingsReset none []))) _ rfl
    (Lower.compile_of_isCompiled (by decide +kernel))
  -- Another number is appended still.
  have same := congrArg List.length (frozen [.plan (Demo.int "y" 6)]).1
  revert same
  decide +kernel

end Compilation

end TestPlan
