import TestPlan.Proofs.Lowering.ComposedPlan
import TestPlan.Proofs.Lowering.LeftBehind
import TestPlan.Proofs.Lowering.Traced
import TestPlan.Proofs.Plan.Consistent
import TestPlan.Demo.Plans

/-!
Reading a plan gives no value to the plans around it, unless a null that is read has the name of
one of them. Such a null is the only way for the class constant of an array to lose its array.
-/

namespace TestPlan

variable {ρ α β : Type} {roots : List Plan}

/-! ### Which plans get a value -/

/-- A null with a name, among what some plans need. -/
def NeedsNull (roots : List Plan) (name : String) : Prop :=
  ∃ plan, Needed roots plan ∧ plan.name = name ∧ plan.isNull = true

/-- Only a plan of one name, plans that are not active and nulls have got values since. -/
structure Acquired (roots : List Plan) (own : Option String) (session after : Compilation ρ) :
    Prop where
  active : after.active = session.active
  bound : ∀ name, after.bindings.isBound name = true → session.bindings.isBound name = true ∨
    own = some name ∨ name ∉ session.active ∨ NeedsNull roots name

namespace Acquired

variable {own : Option String} {session middle after : Compilation ρ}

/-- Without new bindings nothing has been acquired. -/
theorem of_same (active : after.active = session.active)
    (bound : after.bindings.bound = session.bindings.bound) : Acquired roots own session after where
  active := active
  bound name found := by
    rw [Bindings.isBound, Bindings.get?, bound] at found
    exact .inl found

/-- What is acquired in two parts is acquired. -/
theorem trans (first : Acquired roots own session middle)
    (second : Acquired roots own middle after) : Acquired roots own session after where
  active := second.active.trans first.active
  bound name found := by
    rcases second.bound name found with before | rest
    · exact first.bound name before
    · exact .inr (first.active ▸ rest)

end Acquired

/-- A lowering that gives values to few plans when it succeeds. -/
def Acquires (roots : List Plan) (own : Option String) (step : Lowering ρ α) : Prop :=
  ∀ session result after, step session = .ok result after → Acquired roots own session after

namespace Acquires

variable {own : Option String}

/-- A result at hand gives no value. -/
theorem pure {result : α} : Acquires roots own (Pure.pure result : Lowering ρ α) := by
  rintro _ _ _ ⟨⟩
  exact .of_same rfl rfl

/-- A failure gives no value. -/
theorem throw {error : CompileError} :
    Acquires roots own (MonadExcept.throw error : Lowering ρ α) := by
  rintro _ _ _ ⟨⟩

/-- Two lowerings in a row give what each of them gives. -/
theorem bind {first : Lowering ρ α} {next : α → Lowering ρ β} (acquires : Acquires roots own first)
    (rest : ∀ result, Acquires roots own (next result)) : Acquires roots own (first >>= next) := by
  intro _ _ _ ran
  obtain ⟨result, middle, ran, ran'⟩ := bind_eq_ok_iff.mp ran
  exact (acquires _ _ _ ran).trans (rest result _ _ _ ran')

/-- What gives a value to no plan of its own gives none to another one. -/
theorem mono {step : Lowering ρ α} (acquires : Acquires roots none step) :
    Acquires roots own step := by
  intro _ _ _ ran
  have acquired := acquires _ _ _ ran
  exact ⟨acquired.active, fun name found =>
    (acquired.bound name found).imp_right fun rest => rest.elim nofun .inr⟩

end Acquires

variable [ClassLoading ρ] {config config' : CompilerConfig}

/-- A step gives a value to its owner, if it makes one, and what reading its operands gives. -/
theorem Composed.acquires {reads : List Plan} {owner : String} {role : Role}
    {step step' : Lowering ρ α} {own : Option String}
    (operands : ∀ read ∈ reads, Acquires roots none (Lower.operand (ρ := ρ) config read))
    (composed : Composed config config' owner reads role step step')
    (gives : role = .produces → own = some owner) : Acquires roots own step := by
  induction composed with
  | pure _ => exact .pure
  | throw _ => exact .throw
  | resolve _ =>
    intro _ _ _ ran
    obtain ⟨loader, -, rfl⟩ := Lower.resolve_ok ran
    exact .of_same rfl rfl
  | inspect _ _ _ ih => exact fun session => ih session.test gives session
  | operand member => exact (operands _ member).mono
  | emit statement =>
    intro _ _ _ ran
    obtain ⟨-, -, rfl⟩ := Lower.emit_ok ran
    exact .of_same rfl rfl
  | temporary type build =>
    intro _ _ _ ran
    obtain ⟨-, -, -, rfl⟩ := Lower.temporary_ok ran
    exact .of_same rfl rfl
  | ownerVar =>
    intro _ _ _ ran
    obtain ⟨-, rfl⟩ := Lower.ownerVar_ok ran
    exact .of_same rfl rfl
  | @define type build defines =>
    intro session result after ran
    obtain ⟨-, -, -, rfl⟩ := Lower.define_ok defines ran
    refine ⟨rfl, fun name found => ?_⟩
    -- The only plan that gets a variable is the owner.
    by_cases same : owner = name
    · exact .inr (.inl (same ▸ gives rfl))
    · rw [Bindings.isBound, Compilation.get?_appended
        (by rintro _ _ ⟨⟩; exact fun other => same other.symm)] at found
      exact .inl found
  | ensureUnbound _ ih =>
    refine .bind (fun _ _ _ ran => ?_) fun result => ih result gives
    obtain ⟨-, rfl⟩ := Lower.ensureUnbound_ok ran
    exact .of_same rfl rfl
  | before _ _ ih ih' =>
    exact .bind (ih fun same => by cases same) fun result => ih' result gives
  | after _ _ ih ih' =>
    exact .bind (ih gives) fun result => ih' result fun same => by cases same

/-- Steps give values to their owner, and to what reading their operands gives values to. -/
theorem ComposedSteps.acquires {reads : List Plan} {owner : String} {roles : List Role}
    {steps steps' : Lowering ρ Unit}
    (operands : ∀ read ∈ reads, Acquires roots none (Lower.operand (ρ := ρ) config read))
    (composed : ComposedSteps config config' owner reads roles steps steps') :
    Acquires roots (some owner) steps := by
  induction composed with
  | nil => exact .pure
  | cons first _ ih => exact .bind (first.acquires operands fun _ => rfl) fun _ => ih

/-- A plan gives values to itself, and to what reading its operands gives values to. -/
theorem ComposedPlan.acquires {plan : Plan} {lower lower' : Lowering ρ Unit}
    (operands : ∀ read ∈ plan.kind.reads, Acquires roots none (Lower.operand (ρ := ρ) config read))
    (composed : ComposedPlan config config' plan lower lower') :
    Acquires roots (some plan.name) lower := by
  cases composed with
  | steps _ composed => exact composed.acquires operands
  | leaf _ composed => exact composed.acquires (List.forall_mem_nil _) fun _ => rfl
  | testCall _ composed =>
    have none : Acquires roots none _ := composed.acquires operands nofun
    refine .bind none.mono fun _ => ?_
    rintro _ _ _ ⟨⟩
    exact .of_same rfl rfl
  | unsupported _ => exact .throw

namespace Lower

/-- A plan that is compiled is not active before, so it gives no value to an active plan. -/
theorem once_acquires {plan : Plan}
    (operands : ∀ read ∈ plan.kind.reads, Acquires roots none (operand (ρ := ρ) config read)) :
    Acquires (ρ := ρ) roots none
      (once config plan.name (lowerKind config plan.name plan.kind)) := by
  intro session result after ran
  rcases once_ok ran with ⟨-, rfl⟩ | ⟨-, outside, inside, lowered, rfl⟩
  · exact .of_same rfl rfl
  have composed := @lowerKind_composed ρ _ config config rfl plan
  have acquired := composed.acquires operands _ _ _ lowered
  have innermost : inside.active = plan.name :: session.active := acquired.active
  refine ⟨congrArg List.tail innermost, fun name found => ?_⟩
  rcases acquired.bound name found with before | own | apart | null
  · exact .inl before
  · cases own
    exact .inr (.inr (.inl outside))
  · exact .inr (.inr (.inl fun active => apart (List.mem_cons_of_mem _ active)))
  · exact .inr (.inr (.inr null))

/-- A literal or text that is no null is read without any change. -/
theorem operand_of_constant {plan : Plan} {value : Constant}
    (constant : plan.constant? = some value) (session : Compilation ρ) :
    ∃ found, operand config plan session = .ok found session := by
  cases found : session.bindings.get? plan.name with
  | some var => exact ⟨.var var, operand_of_bound found⟩
  | none =>
    obtain ⟨name, kind⟩ := plan
    have absent : session.bindings.get? name = none := found
    refine ⟨.constant value, ?_⟩
    unfold operand
    rw [get_bind]
    cases kind with
    | primitive literal =>
      have same : literal.constant? = some value := constant
      simp only [absent, same]
      rfl
    | text text =>
      cases constant
      simp only [absent]
      rfl
    | actions _ | reflection _ | testCall _ | mock _ | unknown _ => cases constant

/-- A plan that is read gives values to no active plan but those whose name a null has. -/
theorem operand_acquires (plan : Plan) (needed : Needed roots plan) :
    Acquires roots none (operand (ρ := ρ) config plan) := by
  -- The induction is on what a plan reads.
  induction plan using Plan.induction_reads with
  | step plan ih =>
    intro session result after ran
    by_cases leaf : plan.isLeaf = true
    · cases constant : plan.constant? with
      | some value =>
        obtain ⟨found, read⟩ := @operand_of_constant ρ _ config _ _ constant session
        rw [read] at ran
        cases ran
        exact .of_same rfl rfl
      | none =>
        have null : NeedsNull roots plan.name :=
          ⟨plan, needed, rfl, by simp [Plan.isNull, leaf, constant]⟩
        rcases operand_of_isLeaf leaf session with ⟨found, read⟩ | ⟨-, value, read⟩
        · rw [read] at ran
          cases ran
          exact .of_same rfl rfl
        · -- The null gets a variable of its own.
          rw [read] at ran
          have composed :=
            (@literalLeaf_composed ρ _ config config plan.name [] value).map Operand.var
          have acquired : Acquired roots (some plan.name) session after :=
            composed.acquires (List.forall_mem_nil _) (fun _ => rfl) _ _ _ ran
          refine ⟨acquired.active, fun name found => ?_⟩
          rcases acquired.bound name found with before | own | rest
          · exact .inl before
          · cases own
            exact .inr (.inr (.inr null))
          · exact .inr (.inr rest)
    · have steps : plan.isLeaf = false := by simpa using leaf
      rw [operand_of_steps steps, get_bind] at ran
      cases bound : session.bindings.get? plan.name with
      | some var =>
        rw [bound] at ran
        cases ran
        exact .of_same rfl rfl
      | none =>
        rw [bound] at ran
        obtain ⟨_, middle, compiled, ran⟩ := bind_eq_ok_iff.mp ran
        have acquired := once_acquires (fun read member => ih read member (needed.read member))
          _ _ _ compiled
        rw [compiledValue, get_bind] at ran
        cases bound : middle.bindings.get? plan.name with
        | some var =>
          rw [bound] at ran
          cases ran
          exact acquired
        | none =>
          rw [bound] at ran
          cases ran

/-! ### Class constants of array types -/

/-- The class constant of an array type fails after it has made an array for it. -/
structure LosesArray (config : CompilerConfig) (owner : String) (element : Plan)
    (session : Compilation ρ) (error : CompileError) (after : Compilation ρ) : Prop where
  error_eq : error = .duplicateBinding owner
  /-- The plan gets its value while the element type is read. -/
  unbound : session.bindings.isBound owner = false
  bound : (endState (operand config element) session).bindings.isBound owner = true
  statements : ∃ allocate value array, after.test.statements
    = (endState (operand config element) session).test.statements
      ++ [.method allocate none [value, .constant (.int 0)] (some array)]
  bindings : after.bindings = (endState (operand config element) session).bindings
  /-- While the plan is being compiled, only a null of its name can have got that value. -/
  shadowed : owner ∈ session.active → NeedsNull [element] owner

/-- The class constant of an array type leaves nothing of its own, or it loses its array. -/
theorem arrayClassConstant_leaves {session after : Compilation ρ} {owner : String}
    {element : Plan} {error : CompileError} (orderly : Orderly session)
    (failed : lowerAction config owner (.arrayClassConstantGetter element) session
      = .error error after) :
    session.bindings.isBound owner = true ∧ after = session ∨
      after.test.statements = (endState (operand config element) session).test.statements ∧
        after.bindings = (endState (operand config element) session).bindings ∨
      LosesArray config owner element session error after := by
  have ensured := @ensureUnbound_eq ρ session owner
  by_cases bound : session.bindings.isBound owner = true
  · rw [if_pos bound] at ensured
    have refused : lowerAction config owner (.arrayClassConstantGetter element) session
        = .error (.duplicateBinding owner) session := bind_of_error ensured
    rw [refused] at failed
    cases failed
    exact .inl ⟨bound, rfl⟩
  right
  rw [if_neg bound] at ensured
  have unbound : session.bindings.isBound owner = false := by simpa using bound
  have started : lowerAction config owner (.arrayClassConstantGetter element) session = _ :=
    bind_of_ok ensured
  rw [started] at failed
  rcases bind_eq_error_iff.mp failed with failed | ⟨value, read, ran, failed⟩
  · rw [endState_of_error failed]
    exact .inl ⟨rfl, rfl⟩
  -- The element type has been read, and it stays known while classes are loaded.
  have ensured := operand_ensures config element session orderly
  rw [ran] at ensured
  obtain ⟨moves, known⟩ := ensured
  have reached := moves.orderly orderly
  rw [endState_of_ok ran]
  suffices lost : FailsIdly (LosesArray config owner element session) _ read from
    lost error after failed
  refine .load (.resolve _) fun allocate loader => ?_
  refine .load (.resolve _) fun arrayType loader => ?_
  refine .load (.resolve _) fun getClass loader => ?_
  refine .load (.resolve _) fun classType loader error after failed => ?_
  -- Only now is an array made, which is lost if the plan has got its value meanwhile.
  have loaded : Orderly { read with loader } := { reached with }
  rcases @both_error _ _ _ _ _ (some (owner, classType)) _
    (fun array result => .method getClass (some (.var array)) [] result) [] loaded failed
    (fun _ => rfl) (fun _ => Compilation.knows_cons.mpr ⟨known, by simp⟩) (fun _ _ => rfl)
    (fun _ _ => rfl) nofun nofun with ⟨-, rfl⟩ | ⟨_, _, ⟨⟩, bound, rfl, rfl⟩
  · exact .inl ⟨rfl, rfl⟩
  · refine .inr ⟨rfl, unbound, by rwa [endState_of_ok ran], ?_, ?_, fun active => ?_⟩
    · exact ⟨allocate, value, _, by rw [endState_of_ok ran]; rfl⟩
    · rw [endState_of_ok ran]
      rfl
    · have acquired := operand_acquires element (.root (List.mem_singleton_self element)) _ _ _ ran
      rcases acquired.bound owner bound with before | own | apart | null
      · rw [unbound] at before
        cases before
      · cases own
      · exact absurd active apart
      · exact null

end Lower

namespace Compilation

/--
After any requests, an array that belongs to no plan is asked for its class right after it, for a
plan, and is read by nothing else, or it is lost and read by nothing. The class constant of an array
type that fails, in any state on the way of further requests, has left nothing of its own or lost
its array. Only the first happens while plans are compiled that form a graph.
-/
theorem answerAll_arrays (config : CompilerConfig) (loader : ρ) (requests : List Request) :
    (∀ position handle callee args var,
      (answerAll config { loader } requests).test.statements[position]?
        = some (.method handle callee args (some var)) →
      ¬ (answerAll config { loader } requests).Holds var →
        (∃ getClass result,
          (answerAll config { loader } requests).test.statements[position + 1]?
            = some (.method getClass (some (.var var)) [] (some result)) ∧
          (answerAll config { loader } requests).Holds result ∧
          ∀ reader statement,
            (answerAll config { loader } requests).test.statements[reader]? = some statement →
            var ∈ statement.uses → reader = position + 1) ∨
        ∀ statement ∈ (answerAll config { loader } requests).test.statements,
          var ∉ statement.uses) ∧
      ∀ session, Underway (answerAll config { loader } requests) session →
        ∀ owner element error after,
          Lower.lowerAction config owner (.arrayClassConstantGetter element) session
            = .error error after →
          (session.bindings.isBound owner = true ∧ after = session ∨
            after.test.statements
                = (endState (Lower.operand config element) session).test.statements ∧
              after.bindings = (endState (Lower.operand config element) session).bindings ∨
            Lower.LosesArray config owner element session error after) ∧
          ∀ sharing roots graph plan, PlanGraph.ofRoots sharing roots = .ok graph →
            Needed roots plan → plan.name = owner → element ∈ plan.kind.reads →
              owner ∈ session.active →
                ¬ Lower.LosesArray config owner element session error after := by
  have moves := answerAll_moves config (Orderly.initial loader) requests
  have orderly := moves.orderly (Orderly.initial loader)
  have tidy : (answerAll config { loader } requests).Tidy :=
    moves.tidy (Orderly.initial loader) fun _ _ _ spare => by cases spare.there
  refine ⟨fun position handle callee args var there unheld => ?_,
    fun session underway owner element error after failed => ⟨?_, ?_⟩⟩
  · cases tidy position _ var ⟨there, rfl, unheld⟩ with
    | passed next passes held only =>
      cases passes with
      | array _ getClass _ result => exact .inl ⟨getClass, result, next, held result rfl, only⟩
    | lost _ nowhere => exact .inr nowhere
  · exact Lower.arrayClassConstant_leaves (underway.orderly orderly) failed
  · rintro sharing roots graph plan consistent needed rfl read active lost
    -- Nothing inside a plan of the graph has the name of the plan, nulls included.
    obtain ⟨null, inside, named, -⟩ := lost.shadowed active
    have inside : Needed plan.kind.reads null := inside.trans fun root member => by
      cases List.mem_singleton.mp member
      exact .root read
    exact needed.name_ne consistent inside named

end Compilation

/-- The class constant of an array type whose element type is a null of the same name. -/
def Demo.shadowedArrayType : Plan :=
  .mk "x" (.actions [.arrayClassConstantGetter (Demo.null "x")])

namespace Compilation

/-- A null of the name of the plan lets its array stay behind, with no call after it. -/
theorem answerAll_arrays_shadowed :
    ¬ ∀ (requests : List Request) (position : Nat) (handle : MethodHandle) (args : List Operand)
        (var : Var),
      (answerAll {} { loader := Demo.loader [] } requests).test.statements[position]?
        = some (.method handle none args (some var)) →
      ¬ (answerAll {} { loader := Demo.loader [] } requests).Holds var →
      ∃ getClass result,
        (answerAll {} { loader := Demo.loader [] } requests).test.statements[position + 1]?
          = some (.method getClass (some (.var var)) [] (some result)) := by
  intro followed
  -- The array is the second and last statement, and only the null before it belongs to a plan.
  have there : (answerAll {} { loader := Demo.loader [] }
      [.plan Demo.shadowedArrayType]).test.statements[1]? = some (.method
        ⟨⟨reflectArrayClass, .host⟩, "newInstance", [classClass, "int"], objectClass, true⟩ none
        [.var ⟨0⟩, .constant (.int 0)] (some ⟨1⟩)) := by decide +kernel
  have last : (answerAll {} { loader := Demo.loader [] }
      [.plan Demo.shadowedArrayType]).test.statements[2]? = none := by decide +kernel
  have bound : (answerAll {} { loader := Demo.loader [] }
      [.plan Demo.shadowedArrayType]).bindings.bound = [("x", ⟨0⟩)] := by decide +kernel
  have unheld : ¬ (answerAll {} { loader := Demo.loader [] }
      [.plan Demo.shadowedArrayType]).Holds ⟨1⟩ := by
    rintro ⟨name, member⟩
    rw [bound] at member
    simp at member
  obtain ⟨getClass, result, next⟩ := followed _ 1 _ _ _ there unheld
  rw [last] at next
  cases next

end Compilation

end TestPlan
