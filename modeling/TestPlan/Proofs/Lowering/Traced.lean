import TestPlan.Proofs.Lowering.Prescription
import TestPlan.Proofs.Lowering.Success

/-! Where the statements of a test come from while it is being compiled. -/

namespace TestPlan

variable {ρ α : Type}

/-- Needed plans of one name are alike. -/
def Setting.Consistent (setting : Setting ρ) : Prop :=
  ∀ plan other, Needed setting.roots plan → Needed setting.roots other →
    plan.name = other.name → plan.Alike other

/-- A plan that has been compiled or is being compiled. -/
def Compilation.Met (session : Compilation ρ) (name : String) : Prop :=
  session.bindings.isCompiled name = true ∨ name ∈ session.active

/-- What has been met stays met. -/
theorem Compilation.Met.mono {session after : Compilation ρ} {name : String}
    (met : session.Met name) (kept : Keeps session after) : after.Met name := by
  rcases met with compiled | active
  · exact .inl (kept.isCompiled compiled)
  · exact .inr (kept.active ▸ active)

/-- The operand that stands for a plan in the next statement. -/
inductive CompiledTest.Reads (built : CompiledTest) (plan : Plan) : Operand → Prop
  | var {var : Var} : built.bindings.get? plan.name = some var → Reads built plan (.var var)
  | constant {value : Constant} : plan.constant? = some value →
      built.bindings.get? plan.name = none → Reads built plan (.constant value)

/-- A plan that has a variable, unless it is a constant. -/
def CompiledTest.Served (built : CompiledTest) (plan : Plan) : Prop :=
  plan.constant? = none → built.bindings.isBound plan.name = true

section Positions

variable {origins added : List Origin} {origin : Origin} {position : Nat}

/-- The positions of an origin are those where it stands. -/
theorem mem_positionsOf :
    position ∈ positionsOf origins origin ↔ origins[position]? = some origin := by
  simp only [positionsOf, List.mem_filter, List.mem_range, beq_iff_eq, and_iff_right_iff_imp]
  exact fun found => (List.getElem?_eq_some_iff.mp found).1

/-- Only what stands somewhere has positions. -/
theorem positionsOf_eq_nil_iff : positionsOf origins origin = [] ↔ origin ∉ origins := by
  rw [List.eq_nil_iff_forall_not_mem, List.mem_iff_getElem?, not_exists]
  simp only [mem_positionsOf]

/-- One more statement adds its position to those of its origin. -/
theorem positionsOf_concat (last : Origin) :
    positionsOf (origins ++ [last]) origin =
      positionsOf origins origin ++ if last = origin then [origins.length] else [] := by
  -- Up to its end the longer list is the shorter one.
  have before : (List.range origins.length).filter
      (fun position => (origins ++ [last])[position]? == some origin) =
        positionsOf origins origin := by
    refine List.filter_congr fun position inside => ?_
    rw [List.getElem?_append_left (List.mem_range.mp inside)]
  rw [positionsOf, List.length_append, List.length_singleton, List.range_succ,
    List.filter_append, before, List.filter_singleton, List.getElem?_concat_length]
  by_cases same : last = origin
  · simp [same]
  · simp [same, beq_eq_false_iff_ne.mpr same]

/-- Other origins leave the positions of an origin. -/
theorem positionsOf_append (absent : origin ∉ added) :
    positionsOf (origins ++ added) origin = positionsOf origins origin := by
  -- The induction adds one origin at a time, each of them another one.
  induction added generalizing origins with
  | nil => rw [List.append_nil]
  | cons first rest ih =>
    rw [List.mem_cons, not_or] at absent
    rw [List.append_cons, ih absent.2, positionsOf_concat, if_neg (Ne.symm absent.1),
      List.append_nil]

/-- An origin that comes anew comes after all that have been. -/
theorem length_le_of_mem_positionsOf {origin : Origin} {added : List Origin} {position : Nat}
    (absent : origin ∉ origins) (there : position ∈ positionsOf (origins ++ added) origin) :
    origins.length ≤ position := by
  -- Before the end of the old origins the origin would be an old one.
  by_contra before
  rw [Nat.not_le] at before
  have found := mem_positionsOf.mp there
  rw [List.getElem?_append_left before] at found
  exact absent (List.mem_of_getElem? found)

end Positions

variable [ClassLoading ρ]

/-! ### The trace of a compilation -/

/-- A plan whose statements are all there, and will be in every later test. -/
structure Settled (setting : Setting ρ) (built : CompiledTest) (origins : List Origin)
    (plan : Plan) : Prop where
  steps : ∀ index < plan.stepCount, ∀ later, built.Kept later →
    setting.PrescribesStep later plan index (positionsOf origins (.step plan.name index))
  indices : ∀ index, .step plan.name index ∈ origins → index < plan.stepCount
  in_order : ∀ first second, first < second →
    ∀ position ∈ positionsOf origins (.step plan.name first),
      ∀ later ∈ positionsOf origins (.step plan.name second), position < later
  served : ∀ read ∈ plan.kind.reads, built.Served read
  leaf : .leaf plan.name ∈ origins → plan.isLeaf = true
  statement : plan.isLeaf = true → ∃ position, positionsOf origins (.leaf plan.name) = [position] ∧
    ∀ later, built.Kept later → setting.PrescribesLeaf later plan position
  /-- Constants get variables only as roots. -/
  root : plan.constant?.isSome = true → plan ∈ setting.roots
  /-- A call under test is not settled like this, and what is not supported never is. -/
  kind : plan.isLeaf = true ∨ plan.isStepwise = true

/-- A compilation in which every statement has an origin, and every compiled plan is settled. -/
structure Traced (setting : Setting ρ) (session : Compilation ρ) (origins : List Origin) :
    Prop where
  orderly : Orderly session
  running : session.terminated = false
  loads : Loads setting.loader session.loader
  length : origins.length = session.test.size
  met : ∀ origin ∈ origins, ∃ name, origin.plan? = some name ∧ session.Met name
  settled : ∀ name, session.bindings.isCompiled name = true → name ∉ session.active →
    ∃ plan, Needed setting.roots plan ∧ plan.name = name ∧
      Settled setting session.compiled origins plan
  /-- Only plans that are made of steps are entered. -/
  active : ∀ name ∈ session.active,
    ∃ plan, Needed setting.roots plan ∧ plan.name = name ∧ plan.isLeaf = false

/-- A compilation that goes on, with new statements of its own or of plans not met before. -/
structure Grown (setting : Setting ρ) (own : Origin → Prop) (session : Compilation ρ)
    (origins : List Origin) (after : Compilation ρ) (more : List Origin) : Prop where
  keeps : Keeps session after
  traced : Traced setting after more
  added : ∃ added, more = origins ++ added ∧
    ∀ origin ∈ added, own origin ∨ ∃ name, origin.plan? = some name ∧ ¬ session.Met name
  /-- Constants that are only read get no variables. -/
  constants : ∀ plan, Needed setting.roots plan → plan.constant?.isSome = true →
    after.bindings.get? plan.name = session.bindings.get? plan.name

/-- A compilation that goes on with the statements of one step at some positions. -/
structure Emits (setting : Setting ρ) (origin : Origin) (session : Compilation ρ)
    (origins : List Origin) (after : Compilation ρ) (more : List Origin) (positions : List Nat) :
    Prop extends Grown setting (· = origin) session origins after more where
  positions : positionsOf more origin = positionsOf origins origin ++ positions

/-- A plan that has a variable keeps it. -/
theorem CompiledTest.Served.mono {built later : CompiledTest} {plan : Plan}
    (served : built.Served plan) (kept : built.Kept later) : later.Served plan := by
  intro absent
  obtain ⟨var, found⟩ := Option.isSome_iff_exists.mp (served absent)
  exact Option.isSome_iff_exists.mpr ⟨var, kept.get? found⟩

/-- A settled plan stays settled when statements of other plans are added. -/
theorem Settled.mono {setting : Setting ρ} {built later : CompiledTest}
    {origins added : List Origin} {plan : Plan} (settled : Settled setting built origins plan)
    (kept : built.Kept later) (others : ∀ origin ∈ added, origin.plan? ≠ some plan.name) :
    Settled setting later (origins ++ added) plan := by
  -- What is added stands at none of the positions of the plan.
  have step : ∀ index, positionsOf (origins ++ added) (.step plan.name index)
      = positionsOf origins (.step plan.name index) :=
    fun index => positionsOf_append fun member => others _ member rfl
  have leaf : positionsOf (origins ++ added) (.leaf plan.name)
      = positionsOf origins (.leaf plan.name) :=
    positionsOf_append fun member => others _ member rfl
  constructor
  · intro index inside last more
    rw [step]
    exact settled.steps index inside last (kept.trans more)
  · intro index member
    rcases List.mem_append.mp member with old | new
    · exact settled.indices index old
    · exact absurd rfl (others _ new)
  · simp only [step]
    exact settled.in_order
  · exact fun read member => (settled.served read member).mono kept
  · intro member
    rcases List.mem_append.mp member with old | new
    · exact settled.leaf old
    · exact absurd rfl (others _ new)
  · intro isLeaf
    obtain ⟨position, only, prescribed⟩ := settled.statement isLeaf
    exact ⟨position, leaf.trans only, fun last more => prescribed last (kept.trans more)⟩
  · exact settled.root
  · exact settled.kind

namespace Grown

variable {setting : Setting ρ} {own : Origin → Prop} {session middle after : Compilation ρ}
  {origins others more : List Origin}

/-- Nothing need happen. -/
theorem refl (traced : Traced setting session origins) :
    Grown setting own session origins session origins where
  keeps := .refl session
  traced := traced
  added := ⟨[], by simp, by simp⟩
  constants _ _ _ := rfl

/-- A compilation may go on twice. -/
theorem trans (first : Grown setting own session origins middle others)
    (second : Grown setting own middle others after more) :
    Grown setting own session origins after more where
  keeps := first.keeps.trans second.keeps
  traced := second.traced
  added := by
    obtain ⟨added, rfl, fresh⟩ := first.added
    obtain ⟨added', rfl, fresh'⟩ := second.added
    refine ⟨added ++ added', by simp, fun origin member => ?_⟩
    rcases List.mem_append.mp member with early | late
    · exact fresh origin early
    · -- What has not been met in the middle has not been met before.
      refine (fresh' origin late).imp_right fun ⟨name, named, unmet⟩ => ⟨name, named, ?_⟩
      exact fun met => unmet (met.mono first.keeps)
  constants plan needed constant :=
    (second.constants plan needed constant).trans (first.constants plan needed constant)

/-- More statements may count as its own. -/
theorem mono {own' : Origin → Prop} (grown : Grown setting own session origins after more)
    (wider : ∀ origin, own origin → own' origin) :
    Grown setting own' session origins after more where
  keeps := grown.keeps
  traced := grown.traced
  added := by
    obtain ⟨added, split, fresh⟩ := grown.added
    exact ⟨added, split, fun origin member => (fresh origin member).imp_left (wider origin)⟩
  constants := grown.constants

/-- A plan that has been met gets no statements but those that are its own. -/
theorem positionsOf_eq (grown : Grown setting own session origins after more) {origin : Origin}
    {name : String} (named : origin.plan? = some name) (met : session.Met name)
    (other : ¬ own origin) : positionsOf more origin = positionsOf origins origin := by
  obtain ⟨added, rfl, fresh⟩ := grown.added
  refine positionsOf_append fun member => ?_
  rcases fresh origin member with ours | ⟨name', named', unmet⟩
  · exact other ours
  · -- An added origin of another kind belongs to a plan that had not been met.
    rw [named] at named'
    cases named'
    exact unmet met

end Grown

namespace Emits

variable {setting : Setting ρ} {origin : Origin} {session middle after : Compilation ρ}
  {origins others more : List Origin} {positions later : List Nat}

/-- The statements of a step may come in two parts. -/
theorem trans (first : Emits setting origin session origins middle others positions)
    (second : Emits setting origin middle others after more later) :
    Emits setting origin session origins after more (positions ++ later) where
  toGrown := first.toGrown.trans second.toGrown
  positions := by rw [second.positions, first.positions, List.append_assoc]

/-- Other plans may be compiled before the statements of a step. -/
theorem prepend {name : String}
    (grown : Grown setting (fun _ => False) session origins middle others)
    (emits : Emits setting origin middle others after more positions)
    (named : origin.plan? = some name) (met : session.Met name) :
    Emits setting origin session origins after more positions where
  toGrown := (grown.mono fun _ => False.elim).trans emits.toGrown
  -- The plan of the step has been met, so the others add nothing to its positions.
  positions := by rw [emits.positions, grown.positionsOf_eq named met id]

end Emits

/-! ### One step at a time -/

namespace Traced

variable {setting : Setting ρ} {own : Origin → Prop} {session after : Compilation ρ}
  {origins : List Origin}

/-- Classes may be loaded. -/
theorem load (traced : Traced setting session origins) {loader : ρ}
    (loads : Loads session.loader loader) :
    Grown setting own session origins { session with loader } origins where
  keeps := { Keeps.refl session with }
  traced := { traced with
    orderly := { traced.orderly with }
    loads := traced.loads.trans loads }
  added := ⟨[], by simp, by simp⟩
  constants _ _ _ := rfl

/-- What a lookup finds is found with a loader that has only loaded classes. -/
theorem resolve (traced : Traced setting session origins) {lookup : Lookup ρ α} {found : α}
    (plain : Plain lookup) (ran : Lower.resolve lookup session = .ok found after) :
    Grown setting own session origins after origins ∧ setting.Finds lookup found := by
  obtain ⟨loader, looked, rfl⟩ := Lower.resolve_ok ran
  have loads := plain session.loader
  rw [looked] at loads
  exact ⟨traced.load loads, _, _, traced.loads, looked⟩

/-- A plan that is being compiled is made of steps, so its name is that of no constant. -/
theorem ne_constant (traced : Traced setting session origins) (consistent : setting.Consistent)
    {name : String} (active : name ∈ session.active) {plan : Plan}
    (needed : Needed setting.roots plan) (leaf : plan.isLeaf = true) : plan.name ≠ name := by
  rintro rfl
  obtain ⟨owner, needed', same, steps⟩ := traced.active _ active
  -- Needed plans of one name are made of steps together.
  have alike := (consistent plan owner needed needed' same.symm).isLeaf
  rw [leaf, steps] at alike
  cases alike

/-- A plan that is being compiled gets one more statement. -/
theorem emit (traced : Traced setting session origins) {origin : Origin} {name : String}
    (named : origin.plan? = some name) (active : name ∈ session.active) (kept : Keeps session after)
    (orderly : Orderly after) (running : after.terminated = false)
    (loader : after.loader = session.loader) (size : after.test.size = session.test.size + 1)
    (compiled : ∀ other, after.bindings.isCompiled other = true → other ≠ name →
      session.bindings.isCompiled other = true) :
    Traced setting after (origins ++ [origin]) where
  orderly := orderly
  running := running
  loads := loader ▸ traced.loads
  length := by rw [List.length_append, traced.length, size, List.length_singleton]
  met other member := by
    rcases List.mem_append.mp member with old | new
    · -- Nothing that has been met is forgotten.
      obtain ⟨plan, named, met⟩ := traced.met other old
      exact ⟨plan, named, met.mono kept⟩
    · cases List.mem_singleton.mp new
      exact ⟨name, named, .inr (kept.active ▸ active)⟩
  settled other isCompiled outside := by
    rw [kept.active] at outside
    -- The plan that gets the statement is active, so it is another one that is settled.
    have apart : other ≠ name := fun same => outside (same ▸ active)
    obtain ⟨plan, needed, rfl, settled⟩ :=
      traced.settled other (compiled other isCompiled apart) outside
    refine ⟨plan, needed, rfl, settled.mono kept.toKept fun last member => ?_⟩
    cases List.mem_singleton.mp member
    rw [named]
    exact fun same => apart (Option.some.inj same).symm
  active other member := traced.active other (kept.active ▸ member)

end Traced

/-! ### What stays true of a test -/

namespace CompiledTest

variable {built later : CompiledTest} {plan : Plan} {operand : Operand}

omit [ClassLoading ρ]

/-- A statement stays where it is. -/
theorem At.mono {position : Nat} {statement : Statement} (there : built.At position statement)
    (kept : built.Kept later) : later.At position statement := by
  obtain ⟨added, split⟩ := kept.statements
  unfold At at there ⊢
  rw [← split, List.getElem?_append_left (List.getElem?_eq_some_iff.mp there).1, there]

/-- A plan keeps its variable. -/
theorem Owns.mono {owner : String} {type : RuntimeType} {var : Var}
    (owns : built.Owns owner type var) (kept : built.Kept later) : later.Owns owner type var :=
  ⟨kept.get? owns.bound, kept.types _ _ owns.typed⟩

/-- What receives a result goes on to receive it. -/
theorem Receives.mono {type : RuntimeType} {target : Option String} {result : Option Var}
    (receives : built.Receives type target result) (kept : built.Kept later) :
    later.Receives type target result := by
  cases receives with
  | nothing => exact .nothing
  | owner owns => exact .owner (owns.mono kept)

/-- A plan that is read has a variable, unless it is a constant. -/
theorem Reads.served (reads : built.Reads plan operand) : built.Served plan := by
  intro absent
  cases reads with
  | var bound => exact Option.isSome_iff_exists.mpr ⟨_, bound⟩
  | constant found _ =>
    rw [absent] at found
    cases found

/-- Plans that are read have variables, unless they are constants. -/
theorem served_of_forall₂ {plans : List Plan} {operands : List Operand}
    (reads : List.Forall₂ built.Reads plans operands) : ∀ plan ∈ plans, built.Served plan := by
  induction reads with
  | nil => nofun
  | cons first _ ih =>
    intro plan member
    rcases List.mem_cons.mp member with rfl | other
    · exact first.served
    · exact ih plan other

/-- What is read before a statement stands for the plan in it. -/
theorem Reads.standsFor {session : Compilation ρ} (orderly : Orderly session)
    (reads : session.compiled.Reads plan operand) (kept : session.compiled.Kept later) :
    later.StandsFor session.test.size plan operand := by
  cases reads with
  | var bound =>
    -- A variable of a plan is defined by a statement that is there already.
    obtain ⟨position, defined⟩ := orderly.bound_defined _ _ (Bindings.mem_of_get? bound)
    exact .var (kept.get? bound) (kept.definedAt? defined)
      (orderly.coherent.definedAt?_lt defined)
  | constant found absent =>
    -- Should the plan get a variable after all, it gets it from this statement or a later one.
    exact .constant found fun var bound => kept.fresh plan.name var bound absent

/-- What is read is not changed by other plans. -/
theorem Reads.grown [ClassLoading ρ] {setting : Setting ρ} {own : Origin → Prop}
    {session after : Compilation ρ} {origins more : List Origin}
    (reads : session.compiled.Reads plan operand) (needed : Needed setting.roots plan)
    (grown : Grown setting own session origins after more) :
    after.compiled.Reads plan operand := by
  cases reads with
  | var bound => exact .var (grown.keeps.get? bound)
  | constant found absent =>
    -- Growing gives a needed constant no variable, so it is read as a constant again.
    refine .constant found ?_
    exact (grown.constants plan needed (by rw [found]; rfl)).trans absent

end CompiledTest

/-! ### Statements of a step -/

namespace Compilation

variable {session : Compilation ρ} {type : RuntimeType} {statement : Statement}

omit [ClassLoading ρ]

/-- A statement makes a test longer by one. -/
theorem size_extended (test : TestCase) (statement : Statement) :
    (test.extended statement).size = test.size + 1 :=
  List.length_append

/-- An appended statement is the last one. -/
theorem at_appended (owner : Option (String × RuntimeType)) :
    (session.appended statement owner).compiled.At session.test.size statement := by
  cases owner <;> exact List.getElem?_concat_length

/-- A statement with a new variable is the last one. -/
theorem at_produced : (session.produced type statement).compiled.At session.test.size statement :=
  List.getElem?_concat_length

/-- A new variable has the type it is declared with. -/
theorem typeOf?_produced (defines : statement.defines = some session.nextVar) :
    (session.produced type statement).test.typeOf? session.nextVar = some type := by
  have declared : (session.test.declare type).2.info? session.nextVar = some { type } := by
    rw [TestCase.info?_declare]
    exact if_pos rfl
  rw [produced, TestCase.typeOf?, TestCase.info?_extended, if_pos defines, declared]
  rfl

/-- A plan gets the variable of the statement that is appended for it. -/
theorem owns_appended {name : String} (ready : Ready session (some (name, type)) statement) :
    (session.appended statement (some (name, type))).compiled.Owns name type session.nextVar where
  bound := by
    -- The plan had no variable, so the search passes all earlier entries.
    have absent : session.bindings.bound.lookup name = none := by
      simpa [Bindings.isBound, Bindings.get?] using ready.unbound name type rfl
    show (session.bindings.bound ++ [(name, session.nextVar)]).lookup name = _
    rw [List.lookup_append, absent]
    simp
  typed := typeOf?_produced ready.defines

/-- An appended statement gives a variable to no plan but the one that it is for. -/
theorem get?_appended {target : Option (String × RuntimeType)} {other : String}
    (apart : ∀ name type, target = some (name, type) → other ≠ name) :
    (session.appended statement target).bindings.get? other = session.bindings.get? other := by
  cases target with
  | none => rfl
  | some target =>
    obtain ⟨name, type⟩ := target
    show (session.bindings.bound ++ [(name, session.nextVar)]).lookup other = _
    -- The only new entry is that of the plan the statement is for.
    rw [List.lookup_append, List.lookup_cons, beq_eq_false_iff_ne.mpr (apart name type rfl)]
    exact Option.or_none

/-- An appended statement compiles no plan but the one that it is for. -/
theorem isCompiled_appended {target : Option (String × RuntimeType)} {other : String}
    (apart : ∀ name type, target = some (name, type) → other ≠ name) :
    (session.appended statement target).bindings.isCompiled other
      = session.bindings.isCompiled other := by
  have completed : (session.appended statement target).bindings.completed
      = session.bindings.completed := by cases target <;> rfl
  rw [Bindings.isCompiled, Bindings.isBound, get?_appended apart, completed]
  rfl

/-- The result of an appended statement goes to the plan that it is for. -/
theorem receives_appended {target : Option String}
    (ready : Ready session (target.map (·, type)) statement) :
    (session.appended statement (target.map (·, type))).compiled.Receives type target
      (target.map fun _ => session.nextVar) := by
  cases target with
  | none => exact .nothing
  | some owner => exact .owner (owns_appended ready)

end Compilation

namespace Emits

variable {setting : Setting ρ} {session : Compilation ρ} {origins : List Origin}
  {owner : String} {index : Nat}

/-- A step may append a statement, which gives a value to no plan but its own. -/
theorem appended (traced : Traced setting session origins) (consistent : setting.Consistent)
    (active : owner ∈ session.active) {target : Option (String × RuntimeType)}
    {statement : Statement} (ready : Ready session target statement)
    (reads : ∀ var ∈ statement.uses, session.test.Defined var)
    (owned : ∀ name type, target = some (name, type) → name = owner) :
    Emits setting (.step owner index) session origins (session.appended statement target)
      (origins ++ [.step owner index]) [session.test.size] := by
  have others : ∀ {other}, other ≠ owner → ∀ name type, target = some (name, type) →
      other ≠ name := fun apart name type given => owned name type given ▸ apart
  -- What the statement leaves of the state does not depend on where its result goes.
  have kept := Compilation.keeps_appended ready
  refine ⟨⟨kept, traced.emit rfl active kept (traced.orderly.appended ready reads) ?_ ?_ ?_ ?_,
    ⟨_, rfl, fun origin member => .inl (List.mem_singleton.mp member)⟩, ?_⟩, ?_⟩
  · cases target <;> exact ready.running
  · cases target <;> rfl
  · cases target <;> exact Compilation.size_extended _ _
  · exact fun other compiled apart => Compilation.isCompiled_appended (others apart) ▸ compiled
  · -- Constants are no plans of steps, so none of them gets this variable.
    exact fun plan needed constant => Compilation.get?_appended
      (others (traced.ne_constant consistent active needed (Plan.isLeaf_of_constant? constant)))
  · rw [positionsOf_concat, if_pos rfl, traced.length]

/-- A step may append a statement whose value is for the next one. -/
theorem produced (traced : Traced setting session origins) (active : owner ∈ session.active)
    {type : RuntimeType} {statement : Statement} (running : session.terminated = false)
    (defines : statement.defines = some session.nextVar)
    (reads : ∀ var ∈ statement.uses, session.test.Defined var) :
    Emits setting (.step owner index) session origins (session.produced type statement)
      (origins ++ [.step owner index]) [session.test.size] := by
  have kept : Keeps session (session.produced type statement) :=
    Compilation.keeps_produced running defines
  -- No plan is bound to the variable, so all bindings stay as they are.
  have orderly := traced.orderly.produced type running defines reads
  have traced' : Traced setting (session.produced type statement)
      (origins ++ [.step owner index]) :=
    traced.emit rfl active kept orderly running rfl (Compilation.size_extended _ _)
      fun _ compiled _ => compiled
  refine ⟨⟨kept, traced', ⟨_, rfl, ?_⟩, fun _ _ _ => rfl⟩, ?_⟩
  · exact fun origin member => .inl (List.mem_singleton.mp member)
  · rw [positionsOf_concat, if_pos rfl, traced.length]

end Emits

end TestPlan
