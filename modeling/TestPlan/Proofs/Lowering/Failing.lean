import TestPlan.Proofs.Lowering.Accounted
import TestPlan.Proofs.Lowering.Faithful

/-!
Whether it succeeds or fails, what a step of a plan leaves is accounted for: as long as the plan is
active what it has appended belongs to it, and what it has read by then is fulfilled.
-/

namespace TestPlan

variable {ρ α β : Type} [ClassLoading ρ] {setting : Setting ρ} {nobody : String}

/-! ### Steps that succeed -/

/-- Lowerings are composed alike the other way round. -/
theorem Composed.symm {config config' : CompilerConfig} {owner : String} {reads : List Plan}
    {role : Role} {step step' : Lowering ρ α}
    (composed : Composed config config' owner reads role step step') :
    Composed config' config owner reads role step' step := by
  induction composed with
  | pure result => exact .pure result
  | throw other => exact .throw other
  | resolve plain => exact .resolve plain
  | inspect _ _ _ ih => exact .inspect _ _ ih
  | operand member => exact .operand member
  | emit statement defines => exact .emit statement defines
  | temporary type build defines => exact .temporary type build defines
  | ownerVar => exact .ownerVar
  | define defines => exact .define defines
  | ensureUnbound _ ih => exact .ensureUnbound ih
  | before _ _ ih ih' => exact .before ih ih'
  | after _ _ ih ih' => exact .after ih ih'

/-- A step that succeeds adds statements of its own, and of plans that have not been met. -/
theorem Composed.grows (consistent : setting.Consistent) {config : CompilerConfig}
    {reads : List Plan} {owner : String} {role : Role} {step free : Lowering ρ α} (index : Nat)
    (needed : ∀ read ∈ reads, Needed setting.roots read)
    (composed : Composed config setting.config owner reads role step free)
    {session after : Compilation ρ} {origins : List Origin} {result : α}
    (traced : Traced setting session origins) (active : owner ∈ session.active)
    (ran : free session = .ok result after) (running : after.terminated = false) :
    ∃ more, Grown setting (· = .step owner index) session origins after more := by
  have marks : ∀ read ∈ reads, Marks setting.roots (Lower.operand (ρ := ρ) setting.config read) :=
    fun read member => Lower.operand_marks read (needed read member)
  induction composed generalizing session origins after with
  | pure _ =>
    cases ran
    exact ⟨_, .refl traced⟩
  | throw _ => cases ran
  | resolve plain => exact ⟨_, (traced.resolve plain ran).1⟩
  | inspect _ _ _ ih => exact ih session.test traced active ran running
  | @operand plan member =>
    have reading := Lower.operand_reading consistent plan (needed plan member)
    obtain ⟨more, grown, -⟩ := reading.grows traced trivial ran running
    exact ⟨more, grown.mono fun _ => False.elim⟩
  | emit statement defines =>
    obtain ⟨ready, reads, rfl⟩ := Lower.emit_ready defines ran
    exact ⟨_, (Emits.appended traced consistent active ready reads nofun).toGrown⟩
  | temporary type build defines =>
    obtain ⟨running, reads, -, rfl⟩ := Lower.temporary_ok ran
    exact ⟨_, (Emits.produced traced active running (defines _) reads).toGrown⟩
  | ownerVar =>
    obtain ⟨-, rfl⟩ := Lower.ownerVar_ok ran
    exact ⟨_, .refl traced⟩
  | define defines =>
    obtain ⟨ready, reads, -, rfl⟩ := Lower.define_ok defines ran
    refine ⟨_, (Emits.appended traced consistent active ready reads ?_).toGrown⟩
    rintro _ _ ⟨⟩
    rfl
  | ensureUnbound _ ih =>
    obtain ⟨_, _, ensured, ran'⟩ := bind_eq_ok_iff.mp ran
    obtain ⟨-, rfl⟩ := Lower.ensureUnbound_ok ensured
    exact ih _ traced active ran' running
  | before _ rest ih ih' | after _ rest ih ih' =>
    obtain ⟨found, middle, ran, ran'⟩ := bind_eq_ok_iff.mp ran
    have marked := ((rest found).symm.marks marks).of_ok ran'
    -- A test that is running in the end has been running halfway.
    have halfway : middle.terminated = false := by
      by_contra complete
      rw [marked.terminated (by simpa using complete)] at running
      cases running
    obtain ⟨others, grown⟩ := ih traced active ran halfway
    obtain ⟨more, grown'⟩ := ih' found grown.traced (grown.keeps.active ▸ active) ran' running
    exact ⟨more, grown.trans grown'⟩

/-- A setting whose needed plans form a graph, and a name that none of them has. -/
structure Setting.Named (setting : Setting ρ) (nobody : String) : Prop where
  graph : ∃ sharing graph, PlanGraph.ofRoots sharing setting.roots = .ok graph
  lacks : setting.Lacks nobody

namespace Setting.Named

variable (named : setting.Named nobody)

include named

omit [ClassLoading ρ] in
/-- Needed plans of one name are alike. -/
theorem consistent : (setting.aside nobody).Consistent := by
  obtain ⟨_, graph, built⟩ := named.graph
  exact consistent_aside (consistent_of_formed built) named.lacks

/-- Needed plans that are read leave the test running. -/
theorem staysRunning {reads : List Plan} (needed : ∀ read ∈ reads, Needed setting.roots read) :
    ∀ read ∈ reads, StaysRunning (Lower.operand (ρ := ρ) setting.config read) := by
  obtain ⟨_, graph, built⟩ := named.graph
  exact fun read member => Lower.operand_staysRunning built read (needed read member)

end Setting.Named

/-- A lowering after which a compilation can go on when it succeeds inside some plans. -/
def Stands (setting : Setting ρ) (nobody : String) (inside : List String)
    (step : Lowering ρ α) : Prop :=
  ∀ abandoned session origins result after, Standing setting nobody abandoned session origins →
    inside ⊆ session.active → step session = .ok result after →
      ∃ more, Standing setting nobody abandoned after more ∧
        Advances setting nobody abandoned session origins abandoned after more

/-- A step of an active plan leaves a compilation that can go on. -/
theorem Composed.stands (named : setting.Named nobody) {reads : List Plan} {owner : String}
    {role : Role} {step free : Lowering ρ α}
    (needed : ∀ read ∈ reads, Needed setting.roots read)
    (composed : Composed setting.config setting.config.unlimited owner reads role step free) :
    Stands setting nobody [owner] step := by
  intro abandoned session origins result after standing inside ran
  have active : owner ∈ session.active := inside List.mem_cons_self
  have marked := (composed.marks fun read member =>
    Lower.operand_marks read (needed read member)).of_ok ran
  have running := composed.staysRunning (named.staysRunning needed) _ _ _ ran standing.running
  have veils : Veils setting.roots (nobody :: abandoned) step free :=
    composed.veils needed fun read member => Lower.operand_veils read (needed read member)
  -- The same step without a limit is traced inside the plans that are abandoned.
  have ran := veils _ _ _ (standing.passed named.lacks) ran
  have aside : ∀ read ∈ reads, Needed (setting.aside nobody).roots read := fun read member =>
    Setting.needed_aside.mpr (.inr (needed read member))
  obtain ⟨_, grown⟩ := Composed.grows named.consistent 0 aside composed standing.traced
    (List.mem_append_left _ active) ran running
  obtain ⟨added, rfl, fresh⟩ := grown.added
  obtain ⟨stands, advances, -⟩ := standing.grown named.lacks marked grown.keeps grown.traced
    fun origin member => by
      rcases fresh origin member with rfl | ⟨name, named, unmet⟩
      · exact ⟨owner, rfl, .inl active⟩
      · exact ⟨name, named, .inr unmet⟩
  exact ⟨_, stands, advances⟩

/-! ### Steps that fail -/

section Still

omit [ClassLoading ρ]

variable {session after : Compilation ρ} {error : CompileError}

/-- A compilation in which at most classes have been loaded and a variable has been declared. -/
structure Still (session after : Compilation ρ) : Prop where
  keeps : Keeps session after
  statements : after.test.statements = session.test.statements
  bindings : after.bindings = session.bindings
  terminated : after.terminated = session.terminated

namespace Still

/-- Nothing has happened. -/
theorem refl (session : Compilation ρ) : Still session session :=
  ⟨.refl session, rfl, rfl, rfl⟩

/-- Classes have been loaded. -/
theorem load (session : Compilation ρ) (loader : ρ) : Still session { session with loader } :=
  ⟨{ Keeps.refl session with }, rfl, rfl, rfl⟩

/-- Next to nothing may happen twice. -/
theorem trans {middle : Compilation ρ} (first : Still session middle)
    (second : Still middle after) : Still session after where
  keeps := first.keeps.trans second.keeps
  statements := second.statements.trans first.statements
  bindings := second.bindings.trans first.bindings
  terminated := second.terminated.trans first.terminated

/-- It is all the same whether a plan has been entered. -/
theorem leave {name : String} (still : Still (session.enter name) after) :
    Still session after.leave where
  keeps := { still.keeps with active := congrArg List.tail still.keeps.active }
  statements := still.statements
  bindings := still.bindings
  terminated := still.terminated

/-- A variable has been declared. -/
theorem declare (session : Compilation ρ) (type : RuntimeType) :
    Still session (session.declared type) :=
  ⟨Compilation.keeps_declared session type, rfl, rfl, rfl⟩

end Still

namespace Lower

/-- A lookup that fails only loads classes. -/
theorem resolve_still {lookup : Lookup ρ α} (failed : resolve lookup session = .error error after) :
    Still session after := by
  unfold resolve at failed
  split at failed <;> cases failed
  exact .load session _

/-- A statement that is refused leaves nothing. -/
theorem emit_still {statement : Statement} (failed : emit statement session = .error error after) :
    Still session after := by
  by_cases terminated : session.terminated = true
  · rw [emit_of_terminated terminated] at failed
    cases failed
    exact .refl session
  · rw [emit_of_running (by simpa using terminated)] at failed
    split at failed <;> cases failed
    exact .refl session

/-- A statement that is refused leaves its variable. -/
theorem temporary_still {type : RuntimeType} {build : Var → Statement}
    (failed : temporary type build session = .error error after) : Still session after := by
  have steps : temporary type build session =
      (emit (build session.nextVar) >>= fun _ => pure session.nextVar) (session.declared type) :=
    rfl
  rw [steps] at failed
  rcases bind_eq_error_iff.mp failed with failed | ⟨_, _, _, ⟨⟩⟩
  exact (Still.declare session type).trans (emit_still failed)

/-- A plan that has a value is refused without a change. -/
theorem ensureUnbound_still {owner : String}
    (failed : ensureUnbound owner session = .error error after) : Still session after := by
  rw [ensureUnbound_eq] at failed
  split at failed <;> cases failed
  exact .refl session

/-- A plan without a variable is refused without a change. -/
theorem ownerVar_still {owner : String} (failed : ownerVar owner session = .error error after) :
    Still session after := by
  rw [ownerVar, get_bind] at failed
  cases found : session.bindings.get? owner <;> rw [found] at failed <;> cases failed
  exact .refl session

/-- A plan that gets no value is left as it is. -/
theorem define_still {owner : String} {type : RuntimeType} {build : Var → Statement}
    (failed : define owner type build session = .error error after) : Still session after := by
  rcases bind_eq_error_iff.mp failed with refused | ⟨_, start, ensured, failed'⟩
  · exact ensureUnbound_still refused
  obtain ⟨unbound, rfl⟩ := ensureUnbound_ok ensured
  rcases bind_eq_error_iff.mp failed' with refused | ⟨_, middle, made, bound⟩
  · exact temporary_still refused
  -- A statement that has been appended is bound to the plan, which has no value.
  obtain ⟨-, -, rfl, rfl⟩ := temporary_ok made
  rw [get_bind, Bindings.bind, Compilation.produced, if_neg (by simp [unbound])] at bound
  cases bound

/-- The search for a value leaves everything as it is. -/
theorem compiledValue_still {name : String}
    (failed : compiledValue name session = .error error after) : Still session after := by
  rw [compiledValue, get_bind] at failed
  cases found : session.bindings.get? name <;> rw [found] at failed <;> cases failed
  exact .refl session

/-- A plan that gets no value of a type that is looked up is left as it is. -/
theorem resolveDefine_still {owner : String} {lookup : Lookup ρ RuntimeType}
    {build : Var → Statement}
    (failed : (resolve lookup >>= fun type => define owner type build) session
      = .error error after) : Still session after := by
  rcases bind_eq_error_iff.mp failed with refused | ⟨type, middle, found, failed'⟩
  · exact resolve_still refused
  obtain ⟨loader, -, rfl⟩ := resolve_ok found
  exact (Still.load session loader).trans (define_still failed')

end Lower

end Still

variable {abandoned : List String} {session after : Compilation ρ} {origins : List Origin}
  {error : CompileError}

namespace Lower

/-- A literal that gets no value is left as it is. -/
theorem literalLeaf_still {owner : String} {value : Literal}
    (failed : literalLeaf owner value session = .error error after) : Still session after := by
  -- Only null needs the type that every object has.
  cases constant : value.constant? with
  | some constant =>
    simp only [literalLeaf, constant] at failed
    exact define_still failed
  | none =>
    simp only [literalLeaf, constant] at failed
    exact resolveDefine_still failed

/-- A literal or text that gets no value is left as it is. -/
theorem lowerLeaf_still {plan : Plan} {config : CompilerConfig} (leaf : plan.isLeaf = true)
    (failed : lowerKind config plan.name plan.kind session = .error error after) :
    Still session after := by
  obtain ⟨name, kind⟩ := plan
  cases kind with
  | primitive value =>
    rcases bind_eq_error_iff.mp failed with failed | ⟨_, _, _, ⟨⟩⟩
    exact literalLeaf_still failed
  | text text =>
    rcases bind_eq_error_iff.mp failed with failed | ⟨_, _, _, ⟨⟩⟩
    exact resolveDefine_still failed
  | actions _ | reflection _ | testCall _ | mock _ | unknown _ => cases leaf

end Lower

/-- What is accounted for stays so while next to nothing happens. -/
theorem Accounted.still (accounted : Accounted setting nobody abandoned session origins)
    (still : Still session after) :
    Advances setting nobody abandoned session origins abandoned after origins where
  accounted := by
    have active := still.keeps.active
    have compiled : ∀ name, after.bindings.isCompiled name = session.bindings.isCompiled name :=
      fun name => by rw [still.bindings]
    constructor
    · rw [accounted.length, TestCase.size, TestCase.size, still.statements]
    · intro origin member
      rcases accounted.met origin member with
        ⟨same, plan, needed, concluded⟩ | ⟨name, named, met⟩
      · exact .inl ⟨same, plan, needed,
          concluded.mono still.keeps.toKept still.terminated.trans⟩
      · exact .inr ⟨name, named, met.imp_left fun met => met.mono still.keeps⟩
    · intro name found known outside kept
      obtain ⟨plan, needed, named, fulfilled⟩ := accounted.fulfilled name (compiled name ▸ found)
        known (active ▸ outside) kept
      exact ⟨plan, needed, named, fulfilled.mono still.keeps.toKept still.terminated.trans⟩
    · rw [active]
      exact accounted.active
    · intro name member
      have hidden := accounted.abandoned name member
      exact ⟨still.bindings ▸ hidden.bound, still.bindings ▸ hidden.uncompleted,
        active ▸ hidden.outside, hidden.absent, hidden.steps⟩
  keeps := still.keeps
  origins := List.prefix_refl _
  abandoned _ := .inl

/-- A lowering that is accounted for when it fails inside some plans. -/
def Fails (setting : Setting ρ) (nobody : String) (inside : List String)
    (step : Lowering ρ α) : Prop :=
  ∀ abandoned session origins error after, Standing setting nobody abandoned session origins →
    inside ⊆ session.active → step session = .error error after →
      ∃ abandoned' more, Advances setting nobody abandoned session origins abandoned' after more

namespace Fails

variable {inside : List String}

/-- A lowering that leaves next to nothing when it fails is accounted for. -/
theorem of_still {step : Lowering ρ α}
    (still : ∀ session error after, step session = .error error after → Still session after) :
    Fails setting nobody inside step :=
  fun abandoned _ origins error after standing _ failed =>
    ⟨abandoned, origins, standing.toAccounted.still (still _ error after failed)⟩

/-- Two lowerings in a row are accounted for when either of them fails. -/
theorem bind {first : Lowering ρ α} {next : α → Lowering ρ β}
    (fails : Fails setting nobody inside first) (stands : Stands setting nobody inside first)
    (rest : ∀ result, Fails setting nobody inside (next result)) :
    Fails setting nobody inside (first >>= next) := by
  intro abandoned session origins error after standing active failed
  rcases bind_eq_error_iff.mp failed with failed' | ⟨result, middle, ran, failed'⟩
  · exact fails _ _ _ _ _ standing active failed'
  obtain ⟨others, stands', advances⟩ := stands _ _ _ _ _ standing active ran
  -- The same plans are active halfway.
  obtain ⟨abandoned', more, advances'⟩ := rest result _ _ _ _ _ stands'
    (advances.keeps.active ▸ active) failed'
  exact ⟨abandoned', more, advances.trans advances'⟩

end Fails

/-- A step of an active plan is accounted for when it fails, if what it reads is. -/
theorem Composed.fails (named : setting.Named nobody) {reads : List Plan} {owner : String}
    {role : Role} {step free : Lowering ρ α}
    (needed : ∀ read ∈ reads, Needed setting.roots read)
    (operands : ∀ read ∈ reads, Fails setting nobody [] (Lower.operand setting.config read))
    (composed : Composed setting.config setting.config.unlimited owner reads role step free) :
    Fails setting nobody [owner] step := by
  induction composed with
  | pure _ => exact .of_still nofun
  | throw _ =>
    refine .of_still fun _ _ _ failed => ?_
    cases failed
    exact .refl _
  | resolve _ => exact .of_still fun _ _ _ => Lower.resolve_still
  | inspect _ _ _ ih => exact fun abandoned session => ih session.test abandoned session
  | operand member =>
    exact fun abandoned session origins error after standing _ =>
      operands _ member abandoned session origins error after standing (List.nil_subset _)
  | emit _ _ => exact .of_still fun _ _ _ => Lower.emit_still
  | temporary _ _ _ => exact .of_still fun _ _ _ => Lower.temporary_still
  | ownerVar => exact .of_still fun _ _ _ => Lower.ownerVar_still
  | define _ => exact .of_still fun _ _ _ => Lower.define_still
  | ensureUnbound _ ih =>
    refine .bind (.of_still fun _ _ _ => Lower.ensureUnbound_still) ?_ ih
    intro abandoned session origins _ _ standing _ ran
    obtain ⟨-, rfl⟩ := Lower.ensureUnbound_ok ran
    exact ⟨origins, standing, .refl standing.toAccounted⟩
  | before first _ ih ih' | after first _ ih ih' => exact .bind ih (first.stands named needed) ih'

end TestPlan
