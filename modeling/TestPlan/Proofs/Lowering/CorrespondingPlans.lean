import TestPlan.Proofs.Lowering.ComposedPlan
import TestPlan.Proofs.Lowering.CorrespondingSteps
import TestPlan.Proofs.Plan.Exact
import TestPlan.Proofs.Plan.Nesting

/-! Corresponding compilations compile corresponding plans and tests alike. -/

namespace TestPlan

open List (Forall₂)

variable {ρ : Type} [ClassLoading ρ] {c : Correspondence ρ}

/-- Both compilations read a plan alike. -/
def Correspondence.Reads (c : Correspondence ρ) (config : CompilerConfig) (plan : Plan) : Prop :=
  ∀ plan', c.plans plan plan' →
    c.Steps (c.stands (some plan)) (Lower.operand config plan) (Lower.operand config plan')

namespace Lower

variable {config : CompilerConfig}

/-! ### Operands -/

/-- Both compilations read plans in order. -/
theorem operands_corresponds {plans plans' : List Plan}
    (reads : ∀ plan ∈ plans, c.Reads config plan) (all : Forall₂ c.plans plans plans') :
    c.Steps (StandAll c.stands (plans.map some)) (operands config plans)
      (operands config plans') := by
  induction all with
  | nil => exact .pure .nil
  | cons first _ ih =>
    refine Parallel.bind (reads _ List.mem_cons_self _ first) fun operand operand' given => ?_
    refine Parallel.bind (ih fun plan member => reads plan (List.mem_cons_of_mem _ member))
      fun others others' rest => .pure (.cons given rest)

/-- Both compilations read the plan of a receiver, if there is one. -/
theorem receiverOperand_corresponds {receiver receiver' : Option Plan}
    (reads : ∀ plan ∈ receiver.toList, c.Reads config plan)
    (all : Forall₂ c.plans receiver.toList receiver'.toList) :
    c.Steps (fun object object' =>
        StandAll c.stands (receiver.toList.map some) object.toList object'.toList)
      (receiverOperand config receiver) (receiverOperand config receiver') := by
  cases receiver <;> cases receiver' <;> cases all
  · exact .pure .nil
  · exact Parallel.map (reads _ List.mem_cons_self _ ‹_›) fun _ _ given => .cons given .nil

variable (lawful : c.Lawful)

include lawful

/-- Both compilations store the values of plans in an array. -/
theorem storeElements_corresponds {elements elements' : List Plan}
    (reads : ∀ plan ∈ elements, c.Reads config plan)
    (all : Forall₂ c.plans elements elements') (array : Var) (position : Nat) :
    c.Acts (storeElements config array position elements)
      (storeElements config (c.vars array) position elements') := by
  induction all generalizing position with
  | nil => exact .pure trivial
  | cons first _ ih =>
    refine Parallel.bind (reads _ List.mem_cons_self _ first) fun value value' given => ?_
    refine Parallel.bind (emit_corresponds lawful
      (.twins (.element array position given))) fun _ _ _ => ?_
    exact ih (fun plan member => reads plan (List.mem_cons_of_mem _ member)) _

/-- Corresponding plans stand for the same index or length, if for any. -/
theorem literalIndex_corresponds {plan plan' : Plan} (related : c.plans plan plan') :
    literalIndex plan'
      = (literalIndex plan).mapError (CompileError.map c.names c.vars c.positions) := by
  obtain ⟨name, twins⟩ := lawful.twins related
  obtain ⟨_, kind⟩ := plan
  obtain ⟨_, kind'⟩ := plan'
  obtain rfl := name
  simp only [literalIndex, Plan.kind]
  -- The literals are of the same integer, and nothing else is an index.
  cases twins with
  | primitive literals =>
    dsimp only
    rw [lawful.asInt? literals]
    split <;> rfl
  | _ => rfl

/-! ### Steps -/

section Calls

variable {target : Option String} (own : ∀ name ∈ target, c.common name)

include own

/-- Both compilations make a call that is on no object. -/
theorem invokeOnNothing_corresponds (method : MethodReference) {args args' : List Plan}
    (reads : ∀ plan ∈ args, c.Reads config plan)
    (all : Forall₂ c.plans args args') :
    c.Acts (invoke method (pure none) (operands config args) target)
      (invoke method (pure none) (operands config args') (target.map c.names)) := by
  have nothing : c.Steps (fun callee callee' => StandAll c.stands [] callee.toList callee'.toList)
      (pure none : Lowering ρ (Option Operand)) (pure none) := .pure .nil
  exact invoke_corresponds lawful method own (fun _ => nothing) (operands_corresponds reads all)

/-- Both compilations make a call that is on the value of a plan, if on any. -/
theorem invokeOnPlan_corresponds (method : MethodReference) {receiver receiver' : Option Plan}
    {args args' : List Plan}
    (reads : ∀ plan ∈ if method.isConstructor then args else receiver.toList ++ args,
      c.Reads config plan)
    (received : Forall₂ c.plans receiver.toList receiver'.toList)
    (given : Forall₂ c.plans args args') :
    c.Acts (invoke method (receiverOperand config receiver) (operands config args) target)
      (invoke method (receiverOperand config receiver') (operands config args')
        (target.map c.names)) := by
  have object : method.isConstructor = false →
      c.Steps (fun callee callee' =>
          StandAll c.stands (receiver.toList.map some) callee.toList callee'.toList)
        (receiverOperand config receiver) (receiverOperand config receiver') := by
    intro isMethod
    rw [isMethod, if_neg Bool.false_ne_true] at reads
    exact receiverOperand_corresponds (fun plan member =>
      reads plan (List.mem_append_left _ member)) received
  -- The arguments are read in any case.
  have supplied := operands_corresponds (fun plan member => reads plan (by
    split
    · exact member
    · exact List.mem_append_right _ member)) given
  exact invoke_corresponds lawful method own object supplied

end Calls

/-- Both compilations carry out a direct step. -/
theorem lowerAction_corresponds {owner : String} (own : c.common owner) {step step' : Action}
    (twins : step.Twins c.plans step')
    (reads : ∀ plan ∈ step.reads, c.Reads config plan) :
    c.Acts (lowerAction config owner step) (lowerAction config (c.names owner) step') := by
  -- Steps that correspond are of one sort, and each sort has its own statements.
  cases twins with
  | @arrayWrite index value _ _ related =>
    obtain _ | ⟨indexed, _ | ⟨related, _⟩⟩ := related
    refine Parallel.bind (ownerVar_corresponds lawful own) ?_
    rintro array _ rfl
    refine Parallel.bind_eq (ofExcept_corresponds (literalIndex_corresponds lawful indexed))
      fun place => ?_
    refine Parallel.bind (reads value List.mem_cons_self _ related) fun operand operand' given => ?_
    exact emit_corresponds lawful (.twins (.element array place given))
  | constructorCall constructor related | externalConstructorCall constructor related =>
    exact invokeOnNothing_corresponds lawful (by rintro _ ⟨⟩; exact own) constructor reads related
  | innerClassConstructorCall constructor related => exact .throw rfl
  | defaultConstructorCall className =>
    exact createDefault_corresponds lawful own className
  | enumValueCreation className name =>
    exact enumValue_corresponds lawful own className name
  | methodCall method related =>
    refine Parallel.bind (ownerVar_corresponds lawful own) ?_
    rintro receiver _ rfl
    have object : c.Steps
        (fun callee callee' => StandAll c.stands [none] callee.toList callee'.toList)
        (pure (some (.var receiver)) : Lowering ρ (Option Operand))
        (pure (some (.var (c.vars receiver)))) :=
      .pure (.cons (stands_none lawful (.var receiver)) .nil)
    exact invoke_corresponds lawful method (by simp) (fun _ => object)
      (operands_corresponds reads related)
  | externalMethodCall method received given =>
    exact invokeOnPlan_corresponds lawful (by rintro _ ⟨⟩; exact own) method reads received given
  | staticMethodCall method related =>
    have nothing : ∀ name ∈ (none : Option String), c.common name := by simp
    exact invokeOnNothing_corresponds lawful nothing method reads
      related
  | @fieldGetter field receiver _ related =>
    obtain _ | ⟨related, _⟩ := related
    have received : c.Steps (fun object object' =>
        StandAll c.stands [some receiver] object.toList object'.toList)
        (some <$> operand config receiver) (some <$> operand config _) :=
      Parallel.map (reads receiver List.mem_cons_self _ related) fun _ _ given => .cons given .nil
    exact readField_corresponds lawful own field received
  | staticFieldGetter field =>
    have nothing : c.Steps (fun object object' => StandAll c.stands [] object.toList object'.toList)
        (pure none : Lowering ρ (Option Operand)) (pure none) := .pure .nil
    exact readField_corresponds lawful own field nothing
  | @fieldSetter field value _ related =>
    obtain _ | ⟨related, _⟩ := related
    refine Parallel.bind (ownerVar_corresponds lawful own) ?_
    rintro receiver _ rfl
    exact writeField_corresponds lawful (some receiver) field
      (reads value List.mem_cons_self _ related)
  | @staticFieldSetter field value _ related =>
    obtain _ | ⟨related, _⟩ := related
    exact writeField_corresponds lawful none field
      (reads value List.mem_cons_self _ related)
  | newArray type related =>
    obtain _ | ⟨related, _⟩ := related
    exact newArray_corresponds lawful own type
      (literalIndex_corresponds lawful related)
  | newArrayWithInitializer type related =>
    refine Parallel.bind_eq (arrayType_corresponds lawful owner type) fun type => ?_
    -- The array has as many elements as there are plans.
    rw [← related.length_eq]
    refine Parallel.bind (define_corresponds lawful own type
      fun var => .twins (.newArray _ var)) ?_
    rintro array _ rfl
    exact storeElements_corresponds lawful reads related array 0
  | classConstantGetter type =>
    exact classConstant_corresponds lawful own type
  | @arrayClassConstantGetter elementType _ related =>
    obtain _ | ⟨related, _⟩ := related
    exact arrayClassConstant_corresponds lawful own
      (reads elementType List.mem_cons_self _ related)

/-- Both compilations carry out a reflective step. -/
theorem lowerReflectiveAction_corresponds {owner : String} (own : c.common owner)
    {step step' : ReflectiveAction} (twins : step.Twins c.plans step')
    (reads : ∀ plan ∈ step.operands, c.Reads config plan) :
    c.Acts (lowerReflectiveAction config owner step)
      (lowerReflectiveAction config (c.names owner) step') := by
  cases twins with
  | newInstance type =>
    exact createUninitialized_corresponds lawful config.helpers own
      type
  | @newArray type length _ related =>
    obtain _ | ⟨related, _⟩ := related
    exact createArray_corresponds lawful config.helpers own type
      (reads length List.mem_cons_self _ related)
  | @arrayWrite index value _ _ related =>
    obtain _ | ⟨indexed, _ | ⟨related, _⟩⟩ := related
    refine Parallel.bind (ownerVar_corresponds lawful own) ?_
    rintro array _ rfl
    exact setElement_corresponds lawful config.helpers array
      (reads index List.mem_cons_self _ indexed)
      (reads value (List.mem_cons_of_mem _ List.mem_cons_self) _ related)
  | @arrayRead elementType array index _ _ related =>
    obtain _ | ⟨related, _ | ⟨indexed, _⟩⟩ := related
    exact getElement_corresponds lawful config.helpers own elementType
      (reads array List.mem_cons_self _ related)
      (reads index (List.mem_cons_of_mem _ List.mem_cons_self) _ indexed)
  | @setField field value _ related =>
    obtain _ | ⟨related, _⟩ := related
    refine Parallel.bind (ownerVar_corresponds lawful own) ?_
    rintro receiver _ rfl
    exact setField_corresponds lawful config.helpers (by rintro ⟨⟩)
      (.some (stands_none lawful (.var receiver))) field (reads value List.mem_cons_self _ related)
  | @setStaticField field value _ related =>
    obtain _ | ⟨related, _⟩ := related
    exact setField_corresponds lawful config.helpers
      (fun _ => rfl) .none field
      (reads value List.mem_cons_self _ related)
  | @getField field receiver _ related =>
    obtain _ | ⟨related, _⟩ := related
    refine Parallel.bind (reads receiver List.mem_cons_self _ related)
      fun object object' given => ?_
    exact getField_corresponds lawful config.helpers own
      (by rintro ⟨⟩) (.some given) field
  | getStaticField field =>
    exact getField_corresponds lawful config.helpers own
      (fun _ => rfl) .none field

/-- Both compilations append the call under test. -/
theorem lowerTestCall_corresponds {call call' : TestCall} (twins : call.Twins c.plans call')
    (reads : ∀ plan ∈ call.operands, c.Reads config plan) :
    c.Acts (lowerTestCall config call) (lowerTestCall config call') := by
  obtain @⟨method, receiver, _, args, _, received, given⟩ := twins
  have nothing : ∀ name ∈ (none : Option String), c.common name := by simp
  refine Parallel.bind (invokeOnPlan_corresponds lawful nothing method (fun plan member =>
    reads plan ?_) received given) fun _ _ _ => .change fun _ _ start => lawful.terminate start
  split at member
  · exact List.mem_append_right _ member
  · exact member

omit lawful in
/-- Direct steps are carried out one after the other. -/
theorem lowerActions_eq (owner : String) (steps : List Action) :
    lowerActions (ρ := ρ) config owner steps = steps.forM (lowerAction config owner) := by
  induction steps with
  | nil => rfl
  | cons step rest ih => exact congrArg (lowerAction config owner step >>= fun _ => ·) ih

omit lawful in
/-- Reflective steps are carried out one after the other. -/
theorem lowerReflectiveActions_eq (owner : String) (steps : List ReflectiveAction) :
    lowerReflectiveActions (ρ := ρ) config owner steps
      = steps.forM (lowerReflectiveAction config owner) := by
  induction steps with
  | nil => rfl
  | cons step rest ih => exact congrArg (lowerReflectiveAction config owner step >>= fun _ => ·) ih

/-- Both compilations append the statements of a plan. -/
theorem lowerKind_corresponds {owner : String} (own : c.common owner) {kind kind' : PlanKind}
    (twins : kind.Twins c.plans c.literals kind')
    (reads : ∀ plan ∈ kind.reads, c.Reads config plan) :
    c.Acts (lowerKind config owner kind) (lowerKind config (c.names owner) kind') := by
  cases twins with
  | @actions steps _ all =>
    simp only [lowerKind, lowerActions_eq]
    refine Parallel.forM (fun step inside step' twins => ?_) all
    exact lowerAction_corresponds lawful own twins
      fun plan member => reads plan (List.mem_flatMap.mpr ⟨step, inside, member⟩)
  | @reflection steps _ all =>
    simp only [lowerKind, lowerReflectiveActions_eq]
    refine Parallel.forM (fun step inside step' twins => ?_) all
    exact lowerReflectiveAction_corresponds lawful own twins
      fun plan member => reads plan (List.mem_flatMap.mpr ⟨step, inside, member⟩)
  | testCall twins =>
    exact lowerTestCall_corresponds lawful twins reads
  | primitive literals =>
    exact Parallel.discard
      (literalLeaf_corresponds lawful own literals)
  | text text =>
    exact Parallel.discard (textLeaf_corresponds lawful own text)
  | mock _ | unknown _ => exact .throw rfl

/-! ### Plans -/

omit lawful in
/-- A constant without a variable is read as it is. -/
theorem operand_of_constant? {plan : Plan} {session : Compilation ρ} {constant : Constant}
    (stands : plan.constant? = some constant) (unbound : session.bindings.get? plan.name = none) :
    operand config plan session = .ok (.constant constant) session := by
  obtain ⟨name, kind⟩ := plan
  have absent : session.bindings.get? name = none := unbound
  unfold operand
  rw [get_bind]
  simp only [absent]
  cases kind with
  | primitive value =>
    have found : value.constant? = some constant := stands
    simp only [found]
    rfl
  | text text =>
    cases stands
    rfl
  | actions _ | reflection _ | testCall _ | mock _ | unknown _ => cases stands

/-- Both compilations read the value of a compiled plan, or find that it has none. -/
theorem compiledValue_corresponds {plan : Plan} (own : c.common plan.name) :
    c.Steps (c.stands (some plan)) (compiledValue plan.name)
      (compiledValue (c.names plan.name)) := by
  refine Parallel.get_bind fun session session' start => ?_
  rw [lawful.get? start own]
  cases session.bindings.get? plan.name with
  | none => exact .error rfl start
  | some var =>
    exact .ok (lawful.stands (some plan) (.var var) (by rintro _ ⟨⟩; exact own)) start

/-- Both compilations read a plan alike that they treat alike, if they do what it reads. -/
theorem operand_corresponds_of_common {plan : Plan} (own : c.common plan.name)
    (reads : ∀ read ∈ plan.kind.reads, c.Reads config read) : c.Reads config plan := by
  intro plan' related
  have stands : ∀ operand, c.stands (some plan) operand (operand.map c.vars) := fun operand =>
    lawful.stands (some plan) operand (by rintro _ ⟨⟩; exact own)
  have constant : ∀ {value value'}, c.constants value value' →
      c.stands (some plan) (.constant value) (.constant value') := fun constants =>
    lawful.constants (some plan) constants (by rintro _ ⟨⟩; exact own)
  have value := compiledValue_corresponds lawful own
  obtain ⟨named, twins⟩ := lawful.twins related
  have lowered := once_corresponds lawful config own
    (lowerKind_corresponds lawful own twins reads)
  obtain ⟨name, kind⟩ := plan
  obtain ⟨_, kind'⟩ := plan'
  obtain rfl := named
  unfold operand
  refine Parallel.get_bind fun session session' start => ?_
  have same := lawful.get? start own
  simp only [Plan.name] at same ⊢
  rw [same]
  -- A variable is read again, a constant is read as it is, and any other plan is compiled first.
  cases session.bindings.get? name with
  | some var => exact .ok (stands (.var var)) start
  | none =>
    cases twins with
    | @primitive literal literal' literals =>
      have constants := lawful.constant? literals
      simp only [Option.map_none]
      generalize literal.constant? = constant?, literal'.constant? = constant'? at constants ⊢
      cases constants with
      | some constants => exact .ok (constant constants) start
      | none =>
        refine Parallel.bind
          (literalLeaf_corresponds lawful own literals)
          (fun var _ same => .pure ?_) session session' start
        exact same ▸ stands (.var var)
    | text text => exact .ok (stands (.constant (.text text))) start
    | actions _ | reflection _ | testCall _ | mock _ | unknown _ =>
      exact Parallel.bind lowered (fun _ _ _ => value) session session' start

/-- Both compilations read corresponding plans alike. -/
theorem operand_corresponds (plan : Plan) : c.Reads config plan := by
  -- The induction is on what a plan reads.
  induction plan using Plan.induction_reads with
  | step plan ih =>
    by_cases own : c.common plan.name
    · exact operand_corresponds_of_common lawful own ih
    · -- One compilation reads the constant, the other one the variable.
      intro plan' related session session' start
      obtain ⟨constant, var, stands, unbound, bound, given⟩ := lawful.inline start related own
      rw [operand_of_constant? stands unbound, operand_of_bound bound]
      exact .ok given start

/-- Both compilations compile a root. -/
theorem compile_corresponds {plan plan' : Plan} (related : c.plans plan plan')
    (own : c.common plan.name) : c.Acts (compile config plan) (compile config plan') := by
  obtain ⟨named, twins⟩ := lawful.twins related
  have lowered := lowerKind_corresponds lawful own twins fun plan _ =>
    (operand_corresponds lawful plan : c.Reads config plan)
  have compiled := once_corresponds lawful config own lowered
  rwa [← named] at compiled

end Lower

/-! ### Tests -/

/-- Parameters whose plans are related one by one. -/
structure Parameters.Twins (related : Plan → Plan → Prop) (parameters parameters' : Parameters) :
    Prop where
  receiver : Forall₂ related parameters.receiver.toList parameters'.receiver.toList
  arguments : Forall₂ related parameters.arguments parameters'.arguments
  statics : Forall₂ related parameters.statics parameters'.statics

namespace Parameters.Twins

variable {related further : Plan → Plan → Prop} {parameters parameters' : Parameters}

/-- The roots of twins are related one by one. -/
theorem roots (twins : parameters.Twins related parameters') :
    Forall₂ related parameters.roots parameters'.roots :=
  List.rel_append (List.rel_append twins.receiver twins.arguments) twins.statics

/-- What relates the plans of twins may be replaced. -/
theorem imp (twins : parameters.Twins related parameters')
    (weaker : ∀ plan plan', related plan plan' → further plan plan') :
    parameters.Twins further parameters' where
  receiver := twins.receiver.imp weaker
  arguments := twins.arguments.imp weaker
  statics := twins.statics.imp weaker

/-- Twins of the same plans are the same. -/
theorem eq (twins : parameters.Twins Eq parameters') : parameters' = parameters := by
  obtain ⟨_, _, _⟩ := parameters
  obtain ⟨_, _, _⟩ := parameters'
  obtain ⟨received, given, static⟩ := twins
  rw [List.forall₂_eq_eq_eq] at received given static
  rw [Parameters.mk.injEq]
  exact ⟨eq_of_toList received.symm, given.symm, static.symm⟩

end Parameters.Twins

/-- Plans that are related to themselves are related one by one. -/
theorem Lower.twins_self {parameters : Parameters} {related : Plan → Plan → Prop}
    (self : ∀ root ∈ parameters.roots, related root root) :
    parameters.Twins related parameters := by
  simp only [Parameters.roots, List.mem_append] at self
  exact ⟨List.forall₂_same.mpr fun plan member => self plan (.inl (.inl member)),
    List.forall₂_same.mpr fun plan member => self plan (.inl (.inr member)),
    List.forall₂_same.mpr fun plan member => self plan (.inr member)⟩

/-- Tests that two corresponding compilations have come to. -/
def Correspondence.Built (c : Correspondence ρ) (built built' : CompiledTest) : Prop :=
  ∃ session session', c.states session session' ∧ built = session.compiled ∧
    built' = session'.compiled

/-- The names are refused just when the roots form no graph, since every graph of roots is valid. -/
theorem Lower.checkNames_eq (sharing : Sharing) (config : CompilerConfig)
    (parameters : Parameters) :
    checkNames sharing config parameters
      = if config.validatePlans then
          match PlanGraph.ofRoots sharing parameters.roots with
          | .ok _ => .ok ()
          | .error error => .error (.planGraph error)
        else .ok () := by
  unfold checkNames
  cases formed : PlanGraph.ofRoots sharing parameters.roots with
  | error error => rfl
  | ok graph =>
    have valid := (PlanGraph.sound_ofRoots formed).validate
    simp only [bind, Except.bind, valid]

/-- The names are accepted when the roots form a graph. -/
theorem Lower.checkNames_of_formed {sharing : Sharing} (config : CompilerConfig)
    {parameters : Parameters}
    (formed : ∃ graph, PlanGraph.ofRoots sharing parameters.roots = .ok graph) :
    checkNames sharing config parameters = .ok () := by
  obtain ⟨graph, formed⟩ := formed
  rw [checkNames_eq, formed]
  exact ite_self _

/-- Both compilations compile corresponding tests, or fail with corresponding errors. -/
theorem Lower.compileTest_corresponds (lawful : c.Lawful) {sharing sharing' : Sharing}
    {config : CompilerConfig} (method : MethodReference) {parameters parameters' : Parameters}
    (twins : parameters.Twins c.plans parameters')
    (own : ∀ root ∈ parameters.roots, c.common root.name)
    (checked : checkNames sharing' config parameters'
      = (checkNames sharing config parameters).mapError
        (CompileError.map c.names c.vars c.positions)) :
    c.Steps c.Built (compileTest sharing config method parameters)
      (compileTest sharing' config method parameters') := by
  refine Parallel.bind (ofExcept_corresponds checked) fun _ _ _ => ?_
  -- All roots are compiled, and then the call under test reads some of them.
  refine Parallel.bind (Parallel.forM (fun root member _ related =>
    compile_corresponds lawful related (own root member)) twins.roots) fun _ _ _ => ?_
  refine Parallel.bind (lowerTestCall_corresponds lawful (.mk method twins.receiver twins.arguments)
    fun plan _ => operand_corresponds lawful plan) fun _ _ _ => ?_
  exact Parallel.get_bind fun session session' ended =>
    .ok ⟨session, session', ended, rfl, rfl⟩ ended

end TestPlan
