import TestPlan.Demo.Plans
import TestPlan.Proofs.Config.Routines
import TestPlan.Proofs.Generation.Classes
import TestPlan.Proofs.Lowering.Warranted

/-! When the helper class of a library can be used in the tests that a request asks for. -/

namespace TestPlan

/-- Every routine that may be selected is declared by the helper class, as a static method. -/
theorem HelperLibrary.Selects.declared {library : HelperLibrary} {routine : String}
    (selects : library.Selects routine) :
    ∃ method ∈ library.classDefinition.methods, method.name = routine ∧ method.isStatic = true := by
  cases selects with
  | newInstance => exact ⟨_, library.newInstance_mem, rfl, rfl⟩
  | family purpose type =>
    cases found : (library.family purpose).specializedFor? type with
    | some special => exact ⟨_, library.special_mem_methods purpose found, rfl, rfl⟩
    | none =>
      refine ⟨_, library.generic_mem_methods purpose found, rfl, ?_⟩
      cases purpose <;> rfl

/-- The failure to find the helper class, or one of its routines. -/
def CompileError.LacksHelper (helpers : HelperLibrary) : CompileError → Prop
  | .classNotFound failure => failure.name = helpers.binaryName
  | .memberNotFound _ _ .helper => True
  | _ => False

/-- With the helper class at hand no failure for want of it is warranted. -/
theorem CompileError.Warranted.not_lacksHelper {space : ClassSpace} {helpers : HelperLibrary}
    {error : CompileError} {origin : Layer} (warranted : error.Warranted space helpers)
    (found : space.find helpers.binaryName = .ok ⟨helpers.classDefinition, origin⟩) :
    ¬error.LacksHelper helpers := by
  intro lacks
  unfold LacksHelper at lacks
  split at lacks
  · have missing : space.find _ = .error _ := warranted
    rw [lacks, found] at missing
    cases missing
  · obtain ⟨selects, loaded, found', undeclared⟩ := warranted
    cases found.symm.trans found'
    obtain ⟨method, declared, named, -⟩ := selects.declared
    exact undeclared method declared named
  · exact lacks

namespace GenerationRequest

/--
Unless a request has a class of its own with the name of the helper class, that class is loaded
from the runtime layer exactly when its name is not one of those that only the host layer may
define. It declares every routine that may be selected; and where it is loaded, nothing that is
compiled with it fails for want of the class or of one of its routines.
-/
theorem helperClass_usable (request : GenerationRequest) (config : CompilerConfig)
    (noInstrumented : Lacks request.classes.instrumented config.helpers.binaryName)
    (noRuntime : Lacks request.classes.runtime config.helpers.binaryName) :
    ((∀ names, (Loader.loadAll [config.helpers.binaryName]
        (Loader.loadAll names (request.loader config.helpers)).2).1 =
          [.ok ⟨config.helpers.classDefinition, .runtime⟩]) ↔
      ¬HostName config.helpers.binaryName) ∧
    (∀ routine, config.helpers.Selects routine →
      ∃ method ∈ config.helpers.classDefinition.methods,
        method.name = routine ∧ method.isStatic = true) ∧
    (¬HostName config.helpers.binaryName → ∀ requests,
      let session : Session :=
        Compilation.answerAll config { loader := request.loader config.helpers } requests
      (∀ asked error after, Request.compile config asked session = .error error after →
        ¬error.LacksHelper config.helpers) ∧
      ∀ sharing method parameters error after,
        Lower.compileTest sharing config method parameters session = .error error after →
          ¬error.LacksHelper config.helpers) := by
  have found (other : ¬HostName config.helpers.binaryName) :
      (request.classSpace config.helpers).find config.helpers.binaryName =
        .ok ⟨config.helpers.classDefinition, .runtime⟩ :=
    find_of_gives (.helper other noInstrumented noRuntime rfl)
  -- Whatever has been loaded before, a load finds what the class space has.
  have loads (names : List String) : (Loader.loadAll [config.helpers.binaryName]
      (Loader.loadAll names (request.loader config.helpers)).2).1 =
        [(request.classSpace config.helpers).find config.helpers.binaryName] := by
    obtain ⟨last, learned, all⟩ := Loader.loadAll_learned names (request.loader config.helpers)
    obtain ⟨_, -, one⟩ := Loader.loadAll_learned [config.helpers.binaryName] last
    rw [all, one, learned.space]
    rfl
  refine ⟨⟨fun loaded hostName => ?_, fun other names => ?_⟩,
    fun _ => HelperLibrary.Selects.declared, fun other requests => ?_⟩
  · -- All that the host layer defines comes from there.
    have gives := find_eq_iff_gives.mp (List.singleton_inj.mp ((loads []).symm.trans (loaded [])))
    cases gives with
    | runtime other => exact other hostName
    | helper other => exact other hostName
  · rw [loads names, found other]
  · intro session
    have kept : session.loader.space = request.classSpace config.helpers :=
      Compilation.space_answerAll config _ requests
    constructor
    · intro asked error after failed
      have confined := asked.compile_works config session kept
      rw [failed] at confined
      exact confined.2.not_lacksHelper (found other)
    · intro sharing method parameters error after failed
      have works : Works (request.classSpace config.helpers) config.helpers
          (Lower.compileTest sharing config method parameters) :=
        Lower.compileTest_works sharing method parameters
      have confined := works session kept
      rw [failed] at confined
      exact confined.2.not_lacksHelper (found other)

/-- A request for the demo classes has the helper class, and fails for another class with it. -/
theorem helperClass_usable_demo :
    let request : GenerationRequest := { classes := { instrumented := Demo.classes } }
    let config : CompilerConfig := {}
    let asked : Request := .plan (.mk "p" (.reflection [.newInstance (.object "demo/Line")]))
    let missing : ClassNotFound := ⟨"demo.Line", [.instrumented, .runtime, .host]⟩
    (Loader.loadAll [config.helpers.binaryName]
        (Loader.loadAll ["demo.Point"] (request.loader config.helpers)).2).1 =
          [.ok ⟨config.helpers.classDefinition, .runtime⟩] ∧
      failure? (asked.compile config) ({ loader := request.loader config.helpers } : Session) =
        some (.classNotFound missing) ∧
      ¬(CompileError.classNotFound missing).LacksHelper config.helpers := by
  intro request config asked missing
  have noInstrumented : Lacks request.classes.instrumented config.helpers.binaryName := by
    unfold Lacks
    decide +kernel
  have other : ¬HostName config.helpers.binaryName := by decide +kernel
  have usable := helperClass_usable request config noInstrumented nofun
  have fails : failure? (asked.compile config)
      ({ loader := request.loader config.helpers } : Session) = some (.classNotFound missing) := by
    decide +kernel
  obtain ⟨after, failed⟩ := exists_error_of_failure? fails
  exact ⟨usable.1.mpr other ["demo.Point"], fails, (usable.2.2 other []).1 _ _ after failed⟩

/-- A valid library whose name only the host layer may define is of no use. -/
theorem helperClass_unusable_hostName :
    let helpers : HelperLibrary := { package := "java.util" }
    let request : GenerationRequest := {}
    let asked : Request := .plan (.mk "p" (.reflection [.newInstance Demo.objectType]))
    let missing : ClassNotFound := ⟨"java.util.ReflectionUtils", [.host]⟩
    helpers.validate = .ok () ∧
      (∀ definition ∈ request.classes.instrumented ++ request.classes.runtime ++
        request.classes.host, definition.name ≠ helpers.binaryName) ∧
      (Loader.loadAll [helpers.binaryName] (request.loader helpers)).1 = [.error missing] ∧
      failure? (asked.compile { helpers }) ({ loader := request.loader helpers } : Session) =
        some (.classNotFound missing) ∧
      (CompileError.classNotFound missing).LacksHelper helpers := by
  refine ⟨by decide +kernel, nofun, by decide +kernel, by decide +kernel, ?_⟩
  unfold CompileError.LacksHelper
  decide +kernel

end GenerationRequest

end TestPlan
