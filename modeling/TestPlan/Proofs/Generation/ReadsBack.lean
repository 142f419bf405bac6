import TestPlan.Config.Source
import TestPlan.Generation.Request
import TestPlan.Proofs.Config.ReadsBack
import TestPlan.Proofs.Plan.ReadsBack

/-! Requests for tests, and configurations as texts, read back from their data. -/

namespace TestPlan

open Datum

/-! ### Class definitions -/

/-- A list of texts reads back. -/
theorem readsBack_texts (texts : List String) : ReadsBack readTexts (textsDatum texts) texts :=
  .list (fun _ _ => rfl) fun value _ => .text value

/-- A list of values reads back when each of them does. -/
theorem readsBack_listOf {α : Type} {read : Nat → Datum → Option α} {encode : α → Datum}
    (values : List α) (each : ∀ value ∈ values, ReadsBack read (encode value) value) :
    ReadsBack (readListOf read) (.list (values.map encode)) values :=
  .list (fun _ _ => rfl) each

/-- A sort of class reads back. -/
theorem ClassKind.readsBack (kind : ClassKind) :
    ReadsBack ClassKind.read (.text kind.name) kind := by
  refine ⟨complete_text _ _, ?_⟩
  rintro _ room ⟨⟩ -
  cases kind <;> rfl

/-- A constructor reads back. -/
theorem ConstructorDefinition.readsBack (definition : ConstructorDefinition) :
    ReadsBack ConstructorDefinition.read definition.toDatum definition := by
  have paramsBack := readsBack_texts definition.params
  refine .record ["params"] rfl (by decide) (by simp [paramsBack.complete])
    fun room fields others known holds => ?_
  simp only [List.forall_mem_cons] at holds
  obtain ⟨params, -⟩ := holds
  simp [ConstructorDefinition.read, Datum.fields, fieldsBy, known, params.withDefault paramsBack]

/-- A method reads back. -/
theorem MethodDefinition.readsBack (definition : MethodDefinition) :
    ReadsBack MethodDefinition.read definition.toDatum definition := by
  have paramsBack := readsBack_texts definition.params
  refine .record ["name", "params", "returns", "is_static"] rfl (by decide)
    (by simp [paramsBack.complete]) fun room fields others known holds => ?_
  simp only [List.forall_mem_cons] at holds
  obtain ⟨name, params, returns, isStatic, -⟩ := holds
  simp [MethodDefinition.read, Datum.fields, fieldsBy, known, name.text,
    params.withDefault paramsBack, returns.textOr, isStatic.boolean]

/-- A field reads back. -/
theorem FieldDefinition.readsBack (definition : FieldDefinition) :
    ReadsBack FieldDefinition.read definition.toDatum definition := by
  refine .record ["name", "type", "is_static"] rfl (by decide) (by simp)
    fun room fields others known holds => ?_
  simp only [List.forall_mem_cons] at holds
  obtain ⟨name, type, isStatic, -⟩ := holds
  simp [FieldDefinition.read, Datum.fields, fieldsBy, known, name.text, type.text,
    isStatic.boolean]

/-- A class reads back. -/
theorem ClassDefinition.readsBack (definition : ClassDefinition) :
    ReadsBack ClassDefinition.read definition.toDatum definition := by
  have kindBack := definition.kind.readsBack
  have superclassBack : ReadsBack (fun _ => asOption asText)
      (ofOption .text definition.superclass) definition.superclass :=
    .option (fun _ _ => rfl) fun name _ => .text name
  have constructorsBack := readsBack_listOf definition.constructors
    fun constructor _ => constructor.readsBack
  have methodsBack := readsBack_listOf definition.methods fun method _ => method.readsBack
  have fieldsBack := readsBack_listOf definition.fields fun field _ => field.readsBack
  have constantsBack := readsBack_texts definition.enumConstants
  refine .record ["name", "kind", "superclass", "constructors", "methods", "fields",
      "enum_constants"] rfl (by decide)
    (by simp [superclassBack.complete, constructorsBack.complete, methodsBack.complete,
      fieldsBack.complete, constantsBack.complete])
    fun room fields others known holds => ?_
  simp only [List.forall_mem_cons] at holds
  obtain ⟨name, kind, superclass, constructors, methods, declared, constants, -⟩ := holds
  simp [ClassDefinition.read, Datum.fields, fieldsBy, known, name.text, kind.withDefault kindBack,
    superclass.withDefault superclassBack, constructors.withDefault constructorsBack,
    methods.withDefault methodsBack, declared.withDefault fieldsBack,
    constants.withDefault constantsBack]

/-! ### Requests -/

/-- Class definitions by layer read back. -/
theorem ClassLayers.readsBack (layers : ClassLayers) :
    ReadsBack ClassLayers.read layers.toDatum layers := by
  have layerBack (definitions : List ClassDefinition) :=
    readsBack_listOf definitions fun definition _ => definition.readsBack
  refine .record ["instrumented", "runtime", "host"] rfl (by decide)
    (by simp [(layerBack _).complete]) fun room fields others known holds => ?_
  simp only [List.forall_mem_cons] at holds
  obtain ⟨instrumented, runtime, host, -⟩ := holds
  simp [ClassLayers.read, Datum.fields, fieldsBy, known, instrumented.withDefault (layerBack _),
    runtime.withDefault (layerBack _), host.withDefault (layerBack _)]

/-- A candidate reads back when all numbers in the plans of its parameters are finite. -/
theorem Candidate.readsBack {candidate : Candidate}
    (finite : ∀ parameters ∈ candidate.parameters, FiniteLeaves parameters.roots) :
    ReadsBack Candidate.read candidate.toDatum candidate := by
  have methodBack := candidate.method.readsBack false
  have parametersBack : ReadsBack (fun room => asOption (Parameters.read false room))
      (ofOption Parameters.toDatum candidate.parameters) candidate.parameters :=
    .option (fun _ _ => rfl) fun parameters member =>
      Parameters.readsBack (finite parameters member) false
  refine .record ["method", "parameters"] rfl (by decide)
    (by simp [methodBack.complete, parametersBack.complete])
    fun room fields others known holds => ?_
  simp only [List.forall_mem_cons] at holds
  obtain ⟨method, parameters, -⟩ := holds
  simp [Candidate.read, Datum.fields, fieldsBy, known, method.required methodBack,
    parameters.withDefault parametersBack]

namespace GenerationRequest

/-- Whether the numbers in the plans of all candidates are finite. -/
def FiniteNumbers (request : GenerationRequest) : Prop :=
  ∀ candidate ∈ request.candidates, ∀ parameters ∈ candidate.parameters,
    FiniteLeaves parameters.roots

/-- A request reads back when the numbers in its plans are finite. -/
theorem readsBack {request : GenerationRequest} (finite : request.FiniteNumbers) :
    ReadsBack GenerationRequest.read request.toDatum request := by
  have classesBack := request.classes.readsBack
  have candidatesBack := readsBack_listOf request.candidates fun candidate member =>
    Candidate.readsBack (finite candidate member)
  refine .record ["classes", "candidates"] rfl (by decide)
    (by simp [classesBack.complete, candidatesBack.complete])
    fun room fields others known holds => ?_
  simp only [List.forall_mem_cons] at holds
  obtain ⟨classes, candidates, -⟩ := holds
  simp [GenerationRequest.read, Datum.fields, fieldsBy, known, classes.withDefault classesBack,
    candidates.withDefault candidatesBack]

end GenerationRequest

/-! ### Configurations as texts -/

/-- A text that describes a configuration is read as that one, if it is valid, and is refused with
the fault that is found in it otherwise. -/
theorem CompilerConfig.ofText_json {config : CompilerConfig} {text : String} {tree : Datum}
    (same : config.toDatum.Reordered tree) (written : Json.parse text = some tree) :
    (config.validate = .ok () → ofText .json text = .ok config) ∧
      ∀ fault, config.validate = .error fault → ofText .json text = .error (.invalid fault) := by
  have fits : tree.depth ≤ Json.nestingLimit :=
    Nat.le_trans same.depth_le (Nat.le_trans config.depth_toDatum_le (by decide))
  have found : Notation.read .json text = some config := by
    rw [Notation.read, Json.readWith, written]
    exact (config.readsBack .fitting).reads same fits
  constructor
  · intro valid
    simp only [ofText, found, valid]
  · intro fault invalid
    simp only [ofText, found, invalid]

/-- Requests whose numbers are finite are read back from their data, and configurations from every
text of theirs, whatever the order of the entries; those that are not valid are refused. -/
theorem serialized_reads_back :
    (∀ request : GenerationRequest, request.FiniteNumbers →
      ∀ tree, request.toDatum.Reordered tree → ∀ room, request.toDatum.depth ≤ room →
        GenerationRequest.read room tree = some request) ∧
    ∀ config : CompilerConfig,
      Json.parse (Json.compact config.toDatum) = some config.toDatum ∧
      Json.parse (Json.indented config.toDatum) = some config.toDatum ∧
      ∀ text tree, config.toDatum.Reordered tree → Json.parse text = some tree →
        (config.validate = .ok () → CompilerConfig.ofText .json text = .ok config) ∧
        ∀ fault, config.validate = .error fault →
          CompilerConfig.ofText .json text = .error (.invalid fault) := by
  refine ⟨fun request finite tree same room fits => ?_, fun config => ?_⟩
  · exact (GenerationRequest.readsBack finite).reads same (Nat.le_trans same.depth_le fits)
  · exact ⟨Json.parse_compact config.plain_toDatum, Json.parse_indented config.plain_toDatum,
      fun _ _ same written => CompilerConfig.ofText_json same written⟩

/-- A plan of a number of 32 bits that has no short decimal form. -/
def Demo.tenth : Plan :=
  .mk "x" (.primitive (.float ⟨0x3DCCCCCD⟩))

/-- A plan of negative zero. -/
def Demo.negativeZero : Plan :=
  .mk "y" (.primitive (.double ⟨0x8000000000000000⟩))

/-- A request for a call on an object that is made from the two numbers. -/
def Demo.numberRequest : GenerationRequest where
  classes := { instrumented := Demo.classes }
  candidates := [⟨pointSetX, some { receiver := some (pointFrom "p" tenth negativeZero) }⟩]

/-- Both numbers of the request are finite. -/
theorem Demo.finiteNumbers_numberRequest : numberRequest.FiniteNumbers := by
  intro candidate member parameters given plan literal reachable kind
  obtain rfl := List.mem_singleton.mp member
  cases given
  have among : plan ∈ [pointFrom "p" tenth negativeZero, tenth, negativeZero] := by
    refine reachable.mem_of_closed _ (by simp [Parameters.roots]) ?_
    simp [Plan.operands, PlanKind.operands, Action.operands, Plan.kind, pointFrom, tenth,
      negativeZero]
  simp only [List.mem_cons, List.not_mem_nil, or_false] at among
  rcases among with rfl | rfl | rfl
  · cases kind
  · cases kind
    decide
  · cases kind
    decide

/-- The request is read back, and so is a valid configuration; one without any depth is refused. -/
theorem serialized_reads_back_demo :
    GenerationRequest.read 20 Demo.numberRequest.toDatum = some Demo.numberRequest ∧
      CompilerConfig.ofText .json (Json.compact ({} : CompilerConfig).toDatum) = .ok {} ∧
      CompilerConfig.ofText .json (Json.indented ({ maxDepth := some 0 } : CompilerConfig).toDatum)
        = .error (.invalid .zeroDepth) := by
  obtain ⟨requests, configs⟩ := serialized_reads_back
  obtain ⟨usual, -, reads⟩ := configs {}
  obtain ⟨-, shallow, refused⟩ := configs { maxDepth := some 0 }
  refine ⟨?_, ?_, ?_⟩
  · exact requests _ Demo.finiteNumbers_numberRequest _ (.refl _) 20 (by decide +kernel)
  · exact (reads _ _ (.refl _) usual).1 (by decide +kernel)
  · exact (refused _ _ (.refl _) shallow).2 _ (by decide +kernel)

end TestPlan
