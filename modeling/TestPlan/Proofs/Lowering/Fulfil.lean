import TestPlan.Proofs.Lowering.Traced

/-!
Rules for lowerings that first read values, for which they may compile other plans, and then
append the statements that a step prescribes.
-/

namespace TestPlan

variable {ρ α β : Type} [ClassLoading ρ] {setting : Setting ρ}

/-! ### Facts -/

/-- What may be known about a test, and is known as well when it has grown. -/
structure Fact (setting : Setting ρ) where
  Holds : CompiledTest → Prop
  stable : ∀ {own session origins after more}, Holds session.compiled →
    Grown setting own session origins after more → Holds after.compiled

namespace Fact

/-- A fact about something other than the test. -/
def always (fact : Prop) : Fact setting where
  Holds _ := fact
  stable holds _ := holds

/-- Nothing is known. -/
def nothing : Fact setting :=
  always True

/-- Two facts at once. -/
def and (first second : Fact setting) : Fact setting where
  Holds built := first.Holds built ∧ second.Holds built
  stable holds grown := ⟨first.stable holds.1 grown, second.stable holds.2 grown⟩

/-- A fact about all later tests. -/
def lasting (holds : CompiledTest → Prop) : Fact setting where
  Holds built := ∀ later, built.Kept later → holds later
  stable known grown later kept := known later (grown.keeps.toKept.trans kept)

/-- The variable of a plan. -/
def bound (owner : String) (var : Var) : Fact setting :=
  lasting fun later => later.bindings.get? owner = some var

/-- The operand that stands for a needed plan. -/
def read {plan : Plan} (needed : Needed setting.roots plan) (operand : Operand) :
    Fact setting where
  Holds built := built.Reads plan operand
  stable reads grown := reads.grown needed grown

/-- The operands that stand for needed plans. -/
def readAll {plans : List Plan} (needed : ∀ plan ∈ plans, Needed setting.roots plan)
    (operands : List Operand) : Fact setting where
  Holds built := List.Forall₂ built.Reads plans operands
  stable {_ _ _ _ _} reads grown := by
    -- Each operand goes on to stand for its plan on its own.
    induction reads with
    | nil => exact .nil
    | cons first _ ih =>
      exact .cons (first.grown (needed _ List.mem_cons_self) grown)
        (ih fun plan member => needed plan (List.mem_cons_of_mem _ member))

end Fact

/-! ### Readings -/

/-- A step that reads a value, for which it may compile other plans. -/
structure Reading (known : Fact setting) (step : Lowering ρ α) (post : α → Fact setting) :
    Prop where
  running : ∀ {session found after}, step session = .ok found after →
    after.terminated = false → session.terminated = false
  grows : ∀ {session origins found after}, Traced setting session origins →
    known.Holds session.compiled → step session = .ok found after → after.terminated = false →
      ∃ more, Grown setting (fun _ => False) session origins after more ∧
        (post found).Holds after.compiled

namespace Reading

variable {known : Fact setting} {step : Lowering ρ α} {next : α → Lowering ρ β}
  {middle : α → Fact setting} {post : β → Fact setting}

/-- What may be read when nothing is known may be read at any time. -/
theorem anytime {post : α → Fact setting} (reading : Reading .nothing step post) :
    Reading known step post where
  running := reading.running
  grows traced _ := reading.grows traced trivial

/-- A step that changes nothing. -/
theorem still {post : α → Fact setting}
    (same : ∀ {session found after}, step session = .ok found after → after = session ∧
      (known.Holds session.compiled → (post found).Holds session.compiled)) :
    Reading known step post where
  running ran active := by rwa [← (same ran).1]
  grows traced holds ran _ := by
    -- Nothing has happened, so nothing is added.
    obtain ⟨rfl, gives⟩ := same ran
    exact ⟨_, .refl traced, gives holds⟩

/-- A result at hand is returned. -/
theorem pure {found : α} {post : α → Fact setting}
    (gives : ∀ built, known.Holds built → (post found).Holds built) :
    Reading known (Pure.pure found : Lowering ρ α) post :=
  .still fun ran => by
    cases ran
    exact ⟨rfl, gives _⟩

/-- A step that goes on from where another one has ended. -/
theorem bind (first : Reading known step middle)
    (rest : ∀ found, Reading (known.and (middle found)) (next found) post) :
    Reading known (step >>= next) post where
  running ran active := by
    obtain ⟨found, _, ran, ran'⟩ := bind_eq_ok_iff.mp ran
    exact first.running ran ((rest found).running ran' active)
  grows traced holds ran active := by
    obtain ⟨found, _, ran, ran'⟩ := bind_eq_ok_iff.mp ran
    -- A test that runs at the end has been running in between.
    obtain ⟨_, grown, gives⟩ :=
      first.grows traced holds ran ((rest found).running ran' active)
    obtain ⟨more, grown', gives'⟩ :=
      (rest found).grows grown.traced ⟨known.stable holds grown, gives⟩ ran' active
    exact ⟨more, grown.trans grown', gives'⟩

/-- What a lookup finds is found with a loader that has only loaded classes. -/
theorem resolve {lookup : Lookup ρ α} (plain : Plain lookup) :
    Reading known (Lower.resolve lookup) fun found => .always (setting.Finds lookup found) where
  running ran active := by
    obtain ⟨_, _, rfl⟩ := Lower.resolve_ok ran
    exact active
  grows traced _ ran _ := ⟨_, traced.resolve plain ran⟩

/-- The variable of the plan that is worked on is read. -/
theorem ownerVar (owner : String) :
    Reading known (Lower.ownerVar owner) fun var => .bound owner var :=
  .still fun ran => by
    obtain ⟨found, rfl⟩ := Lower.ownerVar_ok ran
    exact ⟨rfl, fun _ _ kept => kept.get? found⟩

/-- A result is taken as it is. -/
theorem ofExcept (result : Except CompileError α) :
    Reading known (Lower.ofExcept result) fun found => .always (result = .ok found) :=
  .still fun ran => by
    obtain ⟨found, rfl⟩ := Lower.ofExcept_ok ran
    exact ⟨rfl, fun _ => found⟩

/-- A plan is checked for a variable. -/
theorem ensureUnbound (owner : String) :
    Reading known (Lower.ensureUnbound owner) fun _ => .nothing :=
  .still fun ran => ⟨(Lower.ensureUnbound_ok ran).2, fun _ => trivial⟩

end Reading

/-! ### Steps that go on after readings -/

/-- A step that reaches a goal after it has read what it needs. -/
structure Reaches (known : Fact setting) (step : Lowering ρ Unit)
    (goal : Compilation ρ → List Origin → Compilation ρ → Prop) : Prop where
  running : ∀ {session result after}, step session = .ok result after →
    after.terminated = false → session.terminated = false
  reaches : ∀ {session origins result after}, Traced setting session origins →
    known.Holds session.compiled → step session = .ok result after → after.terminated = false →
      ∃ middle others, Grown setting (fun _ => False) session origins middle others ∧
        goal middle others after

namespace Reaches

variable {known more : Fact setting} {step : Lowering ρ α} {next : α → Lowering ρ Unit}
  {post : α → Fact setting} {goal : Compilation ρ → List Origin → Compilation ρ → Prop}

/-- A step may be taken when more is known than it takes. -/
theorem weaken {step : Lowering ρ Unit} (reached : Reaches known step goal)
    (implied : ∀ {built}, more.Holds built → known.Holds built) : Reaches more step goal where
  running := reached.running
  reaches traced holds := reached.reaches traced (implied holds)

/-- The goal is reached without reading anything more. -/
theorem here {step : Lowering ρ Unit}
    (running : ∀ {session result after}, step session = .ok result after →
      session.terminated = false)
    (reaches : ∀ {session origins result after}, Traced setting session origins →
      known.Holds session.compiled → step session = .ok result after →
        goal session origins after) : Reaches known step goal where
  running ran _ := running ran
  reaches traced holds ran _ := ⟨_, _, .refl traced, reaches traced holds ran⟩

/-- A reading comes first. -/
theorem read (first : Reading known step post)
    (rest : ∀ found, Reaches (known.and (post found)) (next found) goal) :
    Reaches known (step >>= next) goal where
  running ran active := by
    obtain ⟨found, _, ran, ran'⟩ := bind_eq_ok_iff.mp ran
    exact first.running ran ((rest found).running ran' active)
  reaches traced holds ran active := by
    obtain ⟨found, _, ran, ran'⟩ := bind_eq_ok_iff.mp ran
    obtain ⟨_, grown, gives⟩ :=
      first.grows traced holds ran ((rest found).running ran' active)
    -- What was known before the reading is still known after it.
    obtain ⟨middle, others, grown', reached⟩ :=
      (rest found).reaches grown.traced ⟨known.stable holds grown, gives⟩ ran' active
    exact ⟨middle, others, grown.trans grown', reached⟩

end Reaches

/-! ### Steps of plans -/

/-- The steps of a plan are carried out while the plan is being compiled. -/
structure Entered (setting : Setting ρ) (owner : String) (session : Compilation ρ) : Prop where
  consistent : setting.Consistent
  active : owner ∈ session.active

omit [ClassLoading ρ] in
/-- A plan is being compiled as long as nothing but its steps is carried out. -/
theorem Entered.mono {owner : String} {session after : Compilation ρ}
    (entered : Entered setting owner session) (kept : Keeps session after) :
    Entered setting owner after :=
  ⟨entered.consistent, kept.active ▸ entered.active⟩

/-- The statements of a step are appended, and remain what the step prescribes. -/
def Fulfils (setting : Setting ρ) (owner : String) (index : Nat)
    (prescribes : CompiledTest → List Nat → Prop) (reads : List Plan) (session : Compilation ρ)
    (origins : List Origin) (after : Compilation ρ) : Prop :=
  ∃ more positions, Emits setting (.step owner index) session origins after more positions ∧
    (∀ later, after.compiled.Kept later → prescribes later positions) ∧
    ∀ read ∈ reads, after.compiled.Served read

/-- A step that appends what is prescribed after it has read what it needs. -/
abbrev Fulfilling (owner : String) (index : Nat) (prescribes : CompiledTest → List Nat → Prop)
    (reads : List Plan) (known : Fact setting) (step : Lowering ρ Unit) : Prop :=
  Reaches known step fun middle others after => Entered setting owner middle →
    Fulfils setting owner index prescribes reads middle others after

/-- A test that goes on from a compilation in which something is known. -/
structure Continues (known : Fact setting) (middle : Compilation ρ) (later : CompiledTest) :
    Prop where
  orderly : Orderly middle
  kept : middle.compiled.Kept later
  holds : known.Holds middle.compiled

namespace Continues

variable {known : Fact setting} {middle : Compilation ρ} {later : CompiledTest}

/-- What has been read stands for the plan in the next statement. -/
theorem standsFor (goesOn : Continues known middle later) {plan : Plan} {operand : Operand}
    (reads : middle.compiled.Reads plan operand) :
    later.StandsFor middle.test.size plan operand :=
  reads.standsFor goesOn.orderly goesOn.kept

/-- What has been read stands for the plans in the next statement. -/
theorem standForAll (goesOn : Continues known middle later) {plans : List Plan}
    {operands : List Operand} (reads : List.Forall₂ middle.compiled.Reads plans operands) :
    later.StandForAll middle.test.size plans operands :=
  reads.imp fun _ _ => goesOn.standsFor

end Continues

/-- A step carries out what is prescribed after other plans have been compiled. -/
theorem Fulfils.prepend {owner : String} {index : Nat}
    {prescribes : CompiledTest → List Nat → Prop} {reads : List Plan}
    {session middle after : Compilation ρ} {origins others : List Origin}
    (grown : Grown setting (fun _ => False) session origins middle others)
    (active : owner ∈ session.active)
    (fulfils : Fulfils setting owner index prescribes reads middle others after) :
    Fulfils setting owner index prescribes reads session origins after := by
  -- What comes before belongs to plans that had not been met, the owner being active.
  obtain ⟨more, positions, emits, rest⟩ := fulfils
  exact ⟨more, positions, .prepend grown emits rfl (.inr active), rest⟩

namespace Fulfilling

variable {owner : String} {index : Nat} {prescribes : CompiledTest → List Nat → Prop}
  {reads : List Plan} {known : Fact setting} {type : RuntimeType}

/-- A step that is carried out fulfils what it prescribes. -/
theorem fulfils {step : Lowering ρ Unit}
    (fulfilling : Fulfilling owner index prescribes reads known step)
    {session after : Compilation ρ} {origins : List Origin} {result : Unit}
    (traced : Traced setting session origins) (entered : Entered setting owner session)
    (holds : known.Holds session.compiled) (ran : step session = .ok result after)
    (running : after.terminated = false) :
    Fulfils setting owner index prescribes reads session origins after := by
  -- The readings come first, and they add nothing of this step.
  obtain ⟨middle, others, grown, reached⟩ := fulfilling.reaches traced holds ran running
  exact (reached (entered.mono grown.keeps)).prepend grown entered.active

/-- Nothing is left to be done. -/
theorem done
    (prescribed : ∀ {built later}, known.Holds built → built.Kept later → prescribes later [])
    (served : ∀ {built}, known.Holds built → ∀ plan ∈ reads, built.Served plan) :
    Fulfilling owner index prescribes reads known (pure () : Lowering ρ Unit) where
  running ran active := by
    cases ran
    exact active
  reaches traced holds ran _ := by
    cases ran
    -- The step adds no position, so it must be prescribed none.
    refine ⟨_, _, .refl traced, fun _ => ⟨_, [], ⟨.refl traced, ?_⟩, ?_, served holds⟩⟩
    · rw [List.append_nil]
    · exact fun later kept => prescribed holds kept

/-- What is known may tell more of what is prescribed. -/
theorem conclude {step : Lowering ρ Unit} {prescribes' : CompiledTest → List Nat → Prop}
    (fulfilling : Fulfilling owner index prescribes' reads known step)
    (concluded : ∀ {built later positions}, known.Holds built → built.Kept later →
      prescribes' later positions → prescribes later positions) :
    Fulfilling owner index prescribes reads known step where
  running := fulfilling.running
  reaches traced holds ran active := by
    obtain ⟨middle, others, grown, reached⟩ := fulfilling.reaches traced holds ran active
    refine ⟨middle, others, grown, fun entered => ?_⟩
    obtain ⟨more, positions, emits, prescribed, served⟩ := reached entered
    refine ⟨more, positions, emits, fun later kept => ?_, served⟩
    -- The fact is carried along to the test in which the step has ended.
    exact concluded (known.stable holds grown) (emits.keeps.toKept.trans kept)
      (prescribed later kept)

/-- One more plan has been read. -/
theorem serve {plan : Plan} {step : Lowering ρ Unit}
    (served : ∀ {built}, known.Holds built → built.Served plan)
    (fulfilling : Fulfilling owner index prescribes reads known step) :
    Fulfilling owner index prescribes (plan :: reads) known step where
  running := fulfilling.running
  reaches traced holds ran active := by
    obtain ⟨middle, others, grown, reached⟩ := fulfilling.reaches traced holds ran active
    refine ⟨middle, others, grown, fun entered => ?_⟩
    obtain ⟨more, positions, emits, prescribed, servedRest⟩ := reached entered
    refine ⟨more, positions, emits, prescribed, fun read member => ?_⟩
    -- The plan was served before the step went on, and it stays so.
    rcases List.mem_cons.mp member with rfl | member
    · exact (served (known.stable holds grown)).mono emits.keeps.toKept
    · exact servedRest read member

/-- A statement is appended, after which the step goes on. -/
theorem appendThen {step : Lowering ρ α} {next : α → Lowering ρ Unit}
    (made : α → Nat → CompiledTest → Prop)
    (appends : ∀ {session result after}, step session = .ok result after → ∃ target statement,
      Ready session target statement ∧ (∀ var ∈ statement.uses, session.test.Defined var) ∧
        (∀ name type, target = some (name, type) → name = owner) ∧
        after = session.appended statement target)
    (makes : ∀ {session result after later}, step session = .ok result after →
      Continues known session later → after.compiled.Kept later →
        made result session.test.size later)
    (rest : ∀ result position, Fulfilling owner index
      (fun later positions => prescribes later (position :: positions)) reads
      (known.and (.lasting (made result position))) (next result)) :
    Fulfilling owner index prescribes reads known (step >>= next) where
  running ran active := by
    obtain ⟨result, _, ran, ran'⟩ := bind_eq_ok_iff.mp ran
    obtain ⟨_, _, ready, _, _, rfl⟩ := appends ran
    exact ready.running
  reaches {session origins _ after} traced holds ran active := by
    refine ⟨session, origins, .refl traced, fun entered => ?_⟩
    obtain ⟨result, _, ran, ran'⟩ := bind_eq_ok_iff.mp ran
    obtain ⟨target, statement, ready, reads, owned, rfl⟩ := appends ran
    have emits : Emits setting (.step owner index) session origins _ _ _ :=
      .appended traced entered.consistent entered.active ready reads owned
    have kept := emits.keeps.toKept
    -- What is known before the statement is known after it, and so is what it has made.
    have later : (known.and (.lasting (made result session.test.size))).Holds
        (session.appended statement target).compiled :=
      ⟨known.stable holds emits.toGrown, fun last more =>
        makes ran ⟨traced.orderly, kept.trans more, holds⟩ more⟩
    obtain ⟨more, positions, emits', prescribed, served⟩ := (rest result session.test.size).fulfils
      emits.traced (entered.mono emits.keeps) later ran' active
    exact ⟨more, _, emits.trans emits', prescribed, served⟩

/-- A statement without a result is appended, after which the step goes on. -/
theorem emitThen {statement : Statement} {next : Unit → Lowering ρ Unit}
    (made : Nat → CompiledTest → Prop) (defines : statement.defines = none)
    (makes : ∀ {middle : Compilation ρ} {later}, Continues known middle later →
      later.At middle.test.size statement → made middle.test.size later)
    (rest : ∀ position, Fulfilling owner index
      (fun later positions => prescribes later (position :: positions)) reads
      (known.and (.lasting (made position))) (next ())) :
    Fulfilling owner index prescribes reads known (Lower.emit statement >>= next) := by
  -- A statement without a result is the case of no target.
  refine appendThen (fun _ => made) (fun ran => ?_) (fun ran goesOn kept => ?_) ?_
  · obtain ⟨ready, reads, rfl⟩ := Lower.emit_ready defines ran
    exact ⟨none, statement, ready, reads, nofun, rfl⟩
  · obtain ⟨_, _, rfl⟩ := Lower.emit_ready defines ran
    exact makes goesOn ((Compilation.at_appended none).mono kept)
  · exact fun _ position => rest position

/-- A statement without a result is the last one of a step. -/
theorem emit {statement : Statement} (defines : statement.defines = none)
    (prescribed : ∀ {middle : Compilation ρ} {later}, Continues known middle later →
      later.At middle.test.size statement → prescribes later [middle.test.size])
    (served : ∀ {built}, known.Holds built → ∀ plan ∈ reads, built.Served plan) :
    Fulfilling owner index prescribes reads known (Lower.emit statement) := by
  -- Going on with nothing is the same as ending there.
  rw [← bind_pure (Lower.emit statement)]
  refine emitThen (fun position later => prescribes later [position]) defines prescribed
    fun position => .done (fun holds kept => ?_) fun holds => served holds.1
  exact holds.2 _ kept

/-- The plan gets its value, after which the step goes on. -/
theorem defineThen {build : Var → Statement} {next : Var → Lowering ρ Unit}
    (made : Var → Nat → CompiledTest → Prop) (defines : ∀ var, (build var).defines = some var)
    (makes : ∀ {middle : Compilation ρ} {later var}, Continues known middle later →
      later.At middle.test.size (build var) → later.Owns owner type var →
        made var middle.test.size later)
    (rest : ∀ var position, Fulfilling owner index
      (fun later positions => prescribes later (position :: positions)) reads
      (known.and (.lasting (made var position))) (next var)) :
    Fulfilling owner index prescribes reads known (Lower.define owner type build >>= next) := by
  -- The target is the plan itself, which owns the new variable afterwards.
  refine appendThen made (fun ran => ?_) (fun ran goesOn kept => ?_) rest
  · obtain ⟨ready, reads, _, rfl⟩ := Lower.define_ok defines ran
    exact ⟨some (owner, type), _, ready, reads, by rintro _ _ ⟨⟩; rfl, rfl⟩
  · obtain ⟨ready, reads, rfl, rfl⟩ := Lower.define_ok defines ran
    exact makes goesOn ((Compilation.at_appended _).mono kept)
      ((Compilation.owns_appended ready).mono kept)

/-- The plan gets its value from the last statement of a step. -/
theorem define {build : Var → Statement} (defines : ∀ var, (build var).defines = some var)
    (prescribed : ∀ {middle : Compilation ρ} {later var}, Continues known middle later →
      later.At middle.test.size (build var) → later.Owns owner type var →
        prescribes later [middle.test.size])
    (served : ∀ {built}, known.Holds built → ∀ plan ∈ reads, built.Served plan) :
    Fulfilling owner index prescribes reads known
      (Lower.define owner type build >>= fun _ => pure ()) := by
  -- The last statement is followed by nothing.
  refine defineThen (fun _ position later => prescribes later [position]) defines prescribed
    fun _ position => .done (fun holds kept => ?_) fun holds => served holds.1
  exact holds.2 _ kept

/-- The last statement of a step has a result, which goes to the plan. -/
theorem give {build : Option Var → Statement} (defines : ∀ result, (build result).defines = result)
    (prescribed : ∀ {middle : Compilation ρ} {later var}, Continues known middle later →
      later.At middle.test.size (build (some var)) → later.Owns owner type var →
        prescribes later [middle.test.size])
    (served : ∀ {built}, known.Holds built → ∀ plan ∈ reads, built.Served plan) :
    Fulfilling owner index prescribes reads known (Lower.append (some (owner, type)) build) :=
  define (fun var => defines (some var)) prescribed served

/-- The last statement of a step may have a result, which goes to the plan. -/
theorem append {target : Option String} {build : Option Var → Statement}
    (owned : ∀ name ∈ target, name = owner) (defines : ∀ result, (build result).defines = result)
    (prescribed : ∀ {middle : Compilation ρ} {later result}, Continues known middle later →
      later.At middle.test.size (build result) → later.Receives type target result →
        prescribes later [middle.test.size])
    (served : ∀ {built}, known.Holds built → ∀ plan ∈ reads, built.Served plan) :
    Fulfilling owner index prescribes reads known
      (Lower.append (target.map (·, type)) build) := by
  cases target with
  | none =>
    -- Without a plan for the result the statement stands alone.
    exact emit (defines none) (fun goesOn there => prescribed goesOn there .nothing) served
  | some name =>
    cases owned name rfl
    exact give defines (fun goesOn there owns => prescribed goesOn there (.owner owns)) served

/-- A statement makes a value for the next one, which is the last one of a step. -/
theorem both {made : RuntimeType} {first : Var → Statement} {target : Option String}
    {second : Var → Option Var → Statement} (owned : ∀ name ∈ target, name = owner)
    (defines : ∀ var, (first var).defines = some var)
    (defines' : ∀ var result, (second var result).defines = result)
    (prescribed : ∀ {middle : Compilation ρ} {later var result}, Continues known middle later →
      later.At middle.test.size (first var) → later.test.typeOf? var = some made →
      later.At (middle.test.size + 1) (second var result) →
      later.Receives type target result →
        prescribes later [middle.test.size, middle.test.size + 1])
    (served : ∀ {built}, known.Holds built → ∀ plan ∈ reads, built.Served plan) :
    Fulfilling owner index prescribes reads known
      (Lower.temporary made first >>= fun var =>
        Lower.append (target.map (·, type)) (second var)) where
  running ran _ := by
    obtain ⟨_, _, ran, _⟩ := bind_eq_ok_iff.mp ran
    exact (Lower.temporary_ok ran).1
  reaches {session origins _ after} traced holds ran active := by
    refine ⟨session, origins, .refl traced, fun entered => ?_⟩
    obtain ⟨_, _, ran, ran'⟩ := bind_eq_ok_iff.mp ran
    obtain ⟨running, reads, rfl, rfl⟩ := Lower.temporary_ok ran
    obtain ⟨ready, reads', rfl⟩ := Lower.append_ok (defines' _) ran'
    have emits : Emits setting (.step owner index) session origins
        (session.produced made (first session.nextVar)) _ _ :=
      .produced traced entered.active running (defines _) reads
    have emits' : Emits setting (.step owner index) _ _ _ _ _ :=
      .appended emits.traced entered.consistent entered.active ready reads' fun name _ same => by
        obtain ⟨_, given, same⟩ := Option.map_eq_some_iff.mp same
        cases same
        exact owned name given
    -- The two statements stand side by side, since nothing is read between them.
    have both := emits.trans emits'
    have size := Compilation.size_extended (session.test.declare made).2 (first session.nextVar)
    refine ⟨_, _, both, fun later kept => ?_, fun plan member => ?_⟩
    · have kept' := emits'.keeps.toKept.trans kept
      have typed := kept'.types _ _ (Compilation.typeOf?_produced (defines _))
      have there := (Compilation.at_appended _).mono kept
      -- Whether there is a result does not depend on which variable it is.
      rw [Option.map_map] at there
      rw [Compilation.produced, size] at there ⊢
      exact prescribed ⟨traced.orderly, both.keeps.toKept.trans kept, holds⟩
        (Compilation.at_produced.mono kept') typed there
        ((Compilation.receives_appended ready).mono kept)
    · exact (served holds plan member).mono both.keeps.toKept

end Fulfilling

end TestPlan
