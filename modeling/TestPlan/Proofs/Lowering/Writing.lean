import TestPlan.Proofs.Lowering.Authors
import TestPlan.Proofs.Lowering.Leaves

/-!
Lowerings that keep a compilation sound: every statement has an author, and every plan with a
variable has declared the type of it.
-/

namespace TestPlan

variable {ρ α β : Type} [ClassLoading ρ] {setting : Setting ρ} {call : TestCall}

/-! ### Sound compilations -/

/-- A call under test that may be compiled: the given one, or that of a needed plan. -/
def Setting.Asks (setting : Setting ρ) (call asked : TestCall) : Prop :=
  asked = call ∨ ∃ name, Needed setting.roots (.mk name (.testCall asked))

/-- The statement at a position stands there for its author, which is no call but one asked for. -/
structure Setting.WroteFor (setting : Setting ρ) (call : TestCall) (built : CompiledTest)
    (position : Nat) (author : Author) : Prop where
  wrote : setting.Wrote built position author
  asks : ∀ asked, author = .call asked → setting.Asks call asked

/-- A fact about a test that holds now and will hold however the test grows. -/
def Compilation.Lasts (session : Compilation ρ) (fact : CompiledTest → Prop) : Prop :=
  ∀ later, session.compiled.Kept later → fact later

/-- A needed plan of a name declares that it makes a value of a type. -/
def Setting.Declares (setting : Setting ρ) (name : String) (type : RuntimeType) : Prop :=
  ∃ plan declared, Needed setting.roots plan ∧ plan.name = name ∧ declared ∈ plan.madeTypes ∧
    setting.Finds (Resolve.runtimeType declared) type

/-- A compilation in which variables are of declared types and statements have authors. -/
structure Sound (setting : Setting ρ) (call : TestCall) (session : Compilation ρ) : Prop where
  orderly : Orderly session
  loads : Loads setting.loader session.loader
  typed : ∀ name var, session.bindings.get? name = some var →
    ∃ type, session.test.typeOf? var = some type ∧ setting.Declares name type
  signed : ∀ position < session.test.size, ∃ author,
    session.Lasts fun later => setting.WroteFor call later position author

/-- In a sound compilation every statement has an author, which is no call but one asked for. -/
theorem Sound.exists_author {session : Compilation ρ} (sound : Sound setting call session)
    {position : Nat} {statement : Statement} (there : session.compiled.At position statement) :
    ∃ author, setting.WroteFor call session.compiled position author := by
  obtain ⟨inside, _⟩ := List.getElem?_eq_some_iff.mp there
  obtain ⟨author, wrote⟩ := sound.signed position inside
  exact ⟨author, wrote _ (.refl _)⟩

/-- The statements that a test gains each have an author, in every later test as well. -/
def Gains (setting : Setting ρ) (call : TestCall) (session after : Compilation ρ) : Prop :=
  ∀ position < after.test.size, session.test.size ≤ position →
    ∃ author, after.Lasts fun later => setting.WroteFor call later position author

omit [ClassLoading ρ] in
/-- An appended statement makes a test longer by one. -/
theorem Compilation.size_appended {session : Compilation ρ} {statement : Statement}
    {target : Option (String × RuntimeType)} :
    (session.appended statement target).test.size = session.test.size + 1 := by
  cases target <;> exact Compilation.size_extended _ _

omit [ClassLoading ρ] in
/-- What lasts goes on to last. -/
theorem Compilation.Lasts.mono {session after : Compilation ρ} {fact : CompiledTest → Prop}
    (lasts : session.Lasts fact) (kept : session.compiled.Kept after.compiled) :
    after.Lasts fact :=
  fun later more => lasts later (kept.trans more)

namespace Sound

variable {session after : Compilation ρ}

/-- Nothing has been compiled at first. -/
theorem initial (setting : Setting ρ) : Sound setting call { loader := setting.loader } where
  orderly := .initial _
  loads := .refl _
  typed := nofun
  signed := nofun

/-- A statement keeps a compilation sound, also after one that only makes a value for it. -/
theorem appended {middle : Compilation ρ} (sound : Sound setting call session)
    (kept : session.compiled.Kept middle.compiled) (orderly : Orderly middle)
    (loader : middle.loader = session.loader) (bindings : middle.bindings = session.bindings)
    {target : Option String} {type : RuntimeType} {statement : Statement}
    (ready : Ready middle (target.map (·, type)) statement)
    (reads : ∀ var ∈ statement.uses, middle.test.Defined var)
    (declares : ∀ name ∈ target, setting.Declares name type)
    (gains : Gains setting call session (middle.appended statement (target.map (·, type)))) :
    Sound setting call (middle.appended statement (target.map (·, type))) where
  orderly := orderly.appended ready reads
  loads := by
    have same : (middle.appended statement (target.map (·, type))).loader = session.loader := by
      rw [← loader]
      cases target <;> rfl
    rw [same]
    exact sound.loads
  typed name var found := by
    have kept := kept.trans (Compilation.keeps_appended ready).toKept
    by_cases own : name ∈ target
    · -- The plan that the statement is for has its new variable.
      cases own
      obtain ⟨bound, typed⟩ := Compilation.owns_appended ready
      cases found.symm.trans bound
      exact ⟨type, typed, declares name rfl⟩
    · -- Every other plan has had its variable before.
      rw [Compilation.get?_appended, bindings] at found
      · obtain ⟨type, typed, declares⟩ := sound.typed name var found
        exact ⟨type, kept.types var type typed, declares⟩
      · rintro other _ given rfl
        obtain ⟨_, member, ⟨⟩⟩ := Option.map_eq_some_iff.mp given
        exact own member
  signed position inside := by
    -- Old statements keep their authors, and the new ones have been given theirs.
    by_cases old : position < session.test.size
    · obtain ⟨author, wrote⟩ := sound.signed position old
      exact ⟨author, wrote.mono (kept.trans (Compilation.keeps_appended ready).toKept)⟩
    · exact gains position inside (Nat.le_of_not_lt old)

end Sound

/-! ### Authors that are asked for -/

namespace Setting.WroteFor

variable {built : CompiledTest} {position : Nat} {plan : Plan} {statement : Statement}

/-- A direct step of a needed plan is asked for. -/
theorem direct {step : Action} (has : setting.HasAction plan step)
    (there : built.At position statement)
    (performs : setting.Performs built plan.name step statement) :
    setting.WroteFor call built position (.direct plan step) :=
  ⟨.direct has there performs, nofun⟩

/-- A reflective step of a needed plan is asked for. -/
theorem reflective {step : ReflectiveAction} (has : setting.HasReflectiveAction plan step)
    (there : built.At position statement)
    (performs : setting.PerformsReflective built plan.name position step statement) :
    setting.WroteFor call built position (.reflective plan step) :=
  ⟨.reflective has there performs, nofun⟩

/-- The null before an access to a static field is asked for with the access. -/
theorem receiver {step : ReflectiveAction} (has : setting.HasReflectiveAction plan step)
    (isStatic : step.isStaticAccess = true) (there : built.At (position + 1) statement)
    (performs : setting.PerformsReflective built plan.name (position + 1) step statement) :
    setting.WroteFor call built position (.reflective plan step) :=
  ⟨.receiver has isStatic there performs, nofun⟩

/-- A needed literal or text is asked for. -/
theorem leaf (needed : Needed setting.roots plan)
    (prescribed : setting.PrescribesLeaf built plan position) :
    setting.WroteFor call built position (.leaf plan) :=
  ⟨.leaf needed prescribed, nofun⟩

/-- The call under test is asked for, and so are those of needed plans. -/
theorem testCall {method : MethodReference} {receiver : Option Plan}
    {args : List Plan} (asks : setting.Asks call (.mk method receiver args))
    (invokes : setting.Invokes built method receiver args none statement)
    (there : built.At position statement) :
    setting.WroteFor call built position (.call (.mk method receiver args)) :=
  ⟨.call invokes there, fun _ same => by
    cases same
    exact asks⟩

end Setting.WroteFor

/-! ### Writing -/

/-- A sound compilation that goes on, with a fact that lasts from then on. -/
structure Written (setting : Setting ρ) (call : TestCall) (session after : Compilation ρ)
    (fact : CompiledTest → Prop) : Prop where
  kept : session.compiled.Kept after.compiled
  sound : Sound setting call after
  lasts : after.Lasts fact

/-- A step that keeps a compilation sound when it succeeds, and then gives a lasting fact. -/
structure Writes (setting : Setting ρ) (call : TestCall) (known : CompiledTest → Prop)
    (step : Lowering ρ α) (post : α → CompiledTest → Prop) : Prop where
  written : ∀ {session result after}, Sound setting call session → session.Lasts known →
    step session = .ok result after → Written setting call session after (post result)

namespace Writes

variable {known : CompiledTest → Prop} {step : Lowering ρ α} {next : α → Lowering ρ β}
  {middle : α → CompiledTest → Prop} {post : β → CompiledTest → Prop}

/-- A step that changes nothing. -/
theorem still {post : α → CompiledTest → Prop}
    (same : ∀ {session result after}, Sound setting call session → session.Lasts known →
      step session = .ok result after → after = session ∧ session.Lasts (post result)) :
    Writes setting call known step post where
  written sound lasts ran := by
    obtain ⟨rfl, gives⟩ := same sound lasts ran
    exact ⟨.refl _, sound, gives⟩

/-- A result at hand is returned. -/
theorem pure {found : α} {post : α → CompiledTest → Prop}
    (gives : ∀ built, known built → post found built) :
    Writes setting call known (Pure.pure found : Lowering ρ α) post :=
  .still fun _ lasts ran => by
    cases ran
    exact ⟨rfl, fun later kept => gives later (lasts later kept)⟩

/-- A step that goes on from where another one has ended. -/
theorem bind (first : Writes setting call known step middle)
    (rest : ∀ found, Writes setting call (fun built => known built ∧ middle found built)
      (next found) post) : Writes setting call known (step >>= next) post where
  written sound lasts ran := by
    obtain ⟨found, between, ran, ran'⟩ := bind_eq_ok_iff.mp ran
    obtain ⟨kept, sound, gives⟩ := first.written sound lasts ran
    -- What was known before the first step is known after it, together with what it gives.
    have both : between.Lasts fun built => known built ∧ middle found built :=
      fun later more => ⟨lasts.mono kept later more, gives later more⟩
    obtain ⟨kept', sound', gives'⟩ := (rest found).written sound both ran'
    exact ⟨kept.trans kept', sound', gives'⟩

/-- More may be known, and less may be asked for. -/
theorem weaken {known' : CompiledTest → Prop} {post post' : α → CompiledTest → Prop}
    (writes : Writes setting call known step post)
    (enough : ∀ built, known' built → known built)
    (gives : ∀ result built, known' built → post result built → post' result built) :
    Writes setting call known' step post' where
  written sound lasts ran := by
    obtain ⟨kept, sound, holds⟩ :=
      writes.written sound (fun later more => enough later (lasts later more)) ran
    exact ⟨kept, sound, fun later more =>
      gives _ later (lasts.mono kept later more) (holds later more)⟩

/-- What may be done when nothing is known may be done at any time. -/
theorem anytime {post : α → CompiledTest → Prop}
    (writes : Writes setting call (fun _ => True) step post) :
    Writes setting call known step post :=
  writes.weaken (fun _ _ => trivial) fun _ _ _ holds => holds

/-- What a lookup finds is found with a loader that has only loaded classes. -/
theorem resolve {lookup : Lookup ρ α} (plain : Plain lookup) :
    Writes setting call known (Lower.resolve lookup) fun found _ => setting.Finds lookup found where
  written {session _ _} sound _ ran := by
    obtain ⟨loader, looked, rfl⟩ := Lower.resolve_ok ran
    have loads := plain session.loader
    rw [looked] at loads
    exact ⟨.refl _, { sound with
      orderly := { sound.orderly with }
      loads := sound.loads.trans loads }, fun _ _ => ⟨_, _, sound.loads, looked⟩⟩

/-- The variable of the plan that is worked on is read. -/
theorem ownerVar (owner : String) :
    Writes setting call known (Lower.ownerVar owner) fun var built =>
      built.bindings.get? owner = some var :=
  .still fun _ _ ran => by
    obtain ⟨found, rfl⟩ := Lower.ownerVar_ok ran
    exact ⟨rfl, fun _ kept => kept.get? found⟩

/-- What is looked up may be used as found from then on. -/
theorem find {lookup : Lookup ρ α} {next : α → Lowering ρ β} (plain : Plain lookup)
    (rest : ∀ found, setting.Finds lookup found →
      Writes setting call known (next found) post) :
    Writes setting call known (Lower.resolve lookup >>= next) post where
  written sound lasts ran := by
    obtain ⟨found, between, ran, ran'⟩ := bind_eq_ok_iff.mp ran
    have looks : Writes setting call known (Lower.resolve lookup) fun found _ =>
      setting.Finds lookup found := resolve plain
    obtain ⟨kept, sound, finds⟩ := looks.written sound lasts ran
    obtain ⟨kept', sound', gives⟩ :=
      (rest found (finds _ (.refl _))).written sound (lasts.mono kept) ran'
    exact ⟨kept.trans kept', sound', gives⟩

/-- A result that is no failure is taken as it is. -/
theorem take {result : Except CompileError α} {next : α → Lowering ρ β}
    (rest : ∀ found, result = .ok found → Writes setting call known (next found) post) :
    Writes setting call known (Lower.ofExcept result >>= next) post where
  written sound lasts ran := by
    obtain ⟨found, _, ran, ran'⟩ := bind_eq_ok_iff.mp ran
    obtain ⟨same, rfl⟩ := Lower.ofExcept_ok ran
    exact (rest found same).written sound lasts ran'

/-- A plan is checked for a variable. -/
theorem ensureUnbound (owner : String) :
    Writes setting call known (Lower.ensureUnbound owner) fun _ _ => True :=
  .still fun _ _ ran => ⟨(Lower.ensureUnbound_ok ran).2, fun _ _ => trivial⟩

/-- A failure writes nothing. -/
theorem throw {error : CompileError} {post : α → CompiledTest → Prop} :
    Writes setting call known (MonadExcept.throw error : Lowering ρ α) post where
  written := nofun

/-! ### Statements -/

/-- A statement that is appended for a plan when one is given. -/
theorem append_of_ready {session : Compilation ρ} {author : Author} (target : Option String)
    {type : RuntimeType} {statement : Statement} (sound : Sound setting call session)
    (ready : Ready session (target.map (·, type)) statement)
    (reads : ∀ var ∈ statement.uses, session.test.Defined var)
    (declares : ∀ name ∈ target, setting.Declares name type)
    (wrote : (session.appended statement (target.map (·, type))).Lasts fun later =>
      setting.WroteFor call later session.test.size author) :
    Sound setting call (session.appended statement (target.map (·, type))) :=
  sound.appended (.refl _) sound.orderly rfl rfl ready reads declares fun position inside new => by
    -- The new statement is the only one at a new position.
    rw [Compilation.size_appended] at inside
    cases Nat.le_antisymm new (Nat.le_of_lt_succ inside)
    exact ⟨author, wrote⟩

/-- A statement without a result is appended. -/
theorem emit (author : Author) {statement : Statement} (defines : statement.defines = none)
    (wrote : ∀ {built position}, known built → built.At position statement →
      setting.WroteFor call built position author) :
    Writes setting call known (Lower.emit statement) fun _ _ => True where
  written {session _ _} sound lasts ran := by
    obtain ⟨ready, reads, rfl⟩ := Lower.emit_ready defines ran
    have kept := (Compilation.keeps_appended ready).toKept
    have ready' : Ready session (none.map (·, .void)) statement := ready
    have wrote : (session.appended statement none).Lasts fun later =>
        setting.WroteFor call later session.test.size author := fun later more =>
      wrote (lasts later (kept.trans more)) ((Compilation.at_appended none).mono more)
    exact ⟨kept, append_of_ready none sound ready' reads
      (fun _ none => absurd none (Option.not_mem_none _)) wrote, fun _ _ => trivial⟩

/-- A plan gets its value from a statement. -/
theorem define (author : Author) {owner : String} {type : RuntimeType} {build : Var → Statement}
    (defines : ∀ var, (build var).defines = some var)
    (declares : ∀ {built}, known built → setting.Declares owner type)
    (wrote : ∀ {built position var}, known built → built.Owns owner type var →
      built.At position (build var) → setting.WroteFor call built position author) :
    Writes setting call known (Lower.define owner type build) fun var built =>
      built.Owns owner type var where
  written {session _ _} sound lasts ran := by
    obtain ⟨ready, reads, rfl, rfl⟩ := Lower.define_ok defines ran
    have kept := (Compilation.keeps_appended ready).toKept
    have owns := Compilation.owns_appended ready
    -- The new variable stays that of the plan, and the statement stays where it is.
    refine ⟨kept, append_of_ready (some owner) sound ready reads
      (fun _ own => Option.mem_some.mp own ▸ declares (lasts _ (.refl _)))
      fun later more => wrote (lasts later (kept.trans more)) (owns.mono more) ?_,
      fun later more => owns.mono more⟩
    exact (Compilation.at_appended (some (owner, type))).mono more

/-- A plan gets its value from the last statement of a step. -/
theorem give (author : Author) {owner : String} {type : RuntimeType} {build : Var → Statement}
    (defines : ∀ var, (build var).defines = some var)
    (declares : ∀ {built}, known built → setting.Declares owner type)
    (wrote : ∀ {built position var}, known built → built.Owns owner type var →
      built.At position (build var) → setting.WroteFor call built position author) :
    Writes setting call known (Lower.define owner type build >>= fun _ => Pure.pure ()) fun _ _ =>
      True :=
  .bind (.define author defines declares wrote) fun _ => .pure fun _ _ => trivial

/-- What is needed of a statement that is appended, for a plan when one is given. -/
structure Signs (setting : Setting ρ) (call : TestCall) (known : CompiledTest → Prop)
    (author : Author) (target : Option String) (type : RuntimeType)
    (build : Option Var → Statement) : Prop where
  defines : ∀ result, (build result).defines = result
  declares : ∀ {built}, known built → ∀ name ∈ target, setting.Declares name type
  wrote : ∀ {built position result}, known built → built.Receives type target result →
    built.At position (build result) → setting.WroteFor call built position author

/-- A statement is appended, for a plan when one is given. -/
theorem append (author : Author) {target : Option String} {type : RuntimeType}
    {build : Option Var → Statement} (signs : Signs setting call known author target type build) :
    Writes setting call known (Lower.append (target.map (·, type)) build) fun _ _ => True := by
  cases target with
  | none =>
    exact .emit author (signs.defines none) fun holds there => signs.wrote holds .nothing there
  | some owner =>
    exact .give author (fun var => signs.defines (some var))
      (fun holds => signs.declares holds owner rfl)
      fun holds owns there => signs.wrote holds (.owner owns) there

/-- What is needed of a statement that makes a value for the next one. -/
structure Makes (setting : Setting ρ) (call : TestCall) (known : CompiledTest → Prop)
    (author : Author) (made : RuntimeType) (first : Var → Statement) (target : Option String)
    (type : RuntimeType) (second : Var → Option Var → Statement) : Prop where
  defines : ∀ var, (first var).defines = some var
  defines' : ∀ var result, (second var result).defines = result
  declares : ∀ {built}, known built → ∀ name ∈ target, setting.Declares name type
  wrote : ∀ {built position var result}, known built → built.test.typeOf? var = some made →
    built.Receives type target result → built.At position (first var) →
    built.At (position + 1) (second var result) →
      setting.WroteFor call built position author ∧
        setting.WroteFor call built (position + 1) author

/-- A statement makes a value for the next one, which is appended right after it. -/
theorem both (author : Author) {made : RuntimeType} {first : Var → Statement}
    (target : Option String) (type : RuntimeType) (second : Var → Option Var → Statement)
    (makes : Makes setting call known author made first target type second) :
    Writes setting call known (Lower.temporary made first >>= fun var =>
      Lower.append (target.map (·, type)) (second var)) fun _ _ => True where
  written {session _ _} sound lasts ran := by
    obtain ⟨_, _, ran, ran'⟩ := bind_eq_ok_iff.mp ran
    obtain ⟨running, reads, rfl, rfl⟩ := Lower.temporary_ok ran
    obtain ⟨ready, reads', rfl⟩ := Lower.append_ok (makes.defines' _) ran'
    have kept : session.compiled.Kept (session.produced made (first session.nextVar)).compiled :=
      (Compilation.keeps_produced running (makes.defines _)).toKept
    have kept' := (Compilation.keeps_appended ready).toKept
    have size := Compilation.size_extended (session.test.declare made).2 (first session.nextVar)
    -- Both statements are known to stand side by side in every later test.
    have wrote := fun later more => makes.wrote (lasts later ((kept.trans kept').trans more))
      ((kept'.trans more).types _ _ (Compilation.typeOf?_produced (makes.defines _)))
      ((Compilation.receives_appended ready).mono more)
      (Compilation.at_produced.mono (kept'.trans more)) (by
        have there := (Compilation.at_appended _).mono more
        rw [Option.map_map, Compilation.produced, size] at there
        exact there)
    refine ⟨kept.trans kept', sound.appended kept
      (sound.orderly.produced made running (makes.defines _) reads) rfl rfl ready reads'
      (makes.declares (lasts _ (.refl _))) fun position inside new => ?_, fun _ _ => trivial⟩
    -- A new position is that of the first statement or that of the second one.
    rw [Compilation.size_appended, Compilation.produced, size] at inside
    rcases Nat.eq_or_lt_of_le new with same | later
    · exact ⟨author, fun later more => same ▸ (wrote later more).1⟩
    · cases Nat.le_antisymm later (Nat.le_of_lt_succ inside)
      exact ⟨author, fun later more => (wrote later more).2⟩

/-! ### Operands and plans -/

/-- The routine that serves the type of an operand, which is known when the operand is. -/
theorem operandRoutine {purpose : HelperPurpose} {plan : Plan} {operand : Operand}
    (denotes : ∀ built, known built → built.Denotes plan operand) :
    Writes setting call known (Lower.operandRoutine setting.config.helpers purpose operand)
      fun helper built => setting.FindsOperand built purpose operand helper where
  written {session _ _} sound lasts ran := by
    rw [Lower.operandRoutine, get_bind] at ran
    -- An operand that denotes a plan is a constant or a variable whose type has been declared.
    obtain ⟨type, typed⟩ : ∃ type, session.Lasts fun later =>
        later.test.operandTypeName? operand = some type := by
      cases denotes _ (lasts _ (.refl _)) with
      | constant => exact ⟨_, fun _ _ => rfl⟩
      | var bound =>
        obtain ⟨type, typed, _⟩ := sound.typed _ _ bound
        exact ⟨type.typeName, fun later more => by
          simp only [TestCase.operandTypeName?, more.types _ _ typed, Option.map_some]⟩
    rw [show session.test.operandTypeName? operand = some type from typed _ (.refl _)] at ran
    have looks : Writes setting call known (Lower.familyRoutine setting.config.helpers purpose type)
      fun helper _ => setting.FindsFamily purpose type helper := resolve (Resolve.helper_plain _ _)
    obtain ⟨kept, sound, finds⟩ := looks.written sound lasts ran
    exact ⟨kept, sound, fun later more => ⟨type, typed later (kept.trans more), finds later more⟩⟩

/-- A plan that is compiled at most once keeps a compilation sound if its statements do. -/
theorem once {config : CompilerConfig} {name : String} {body : Lowering ρ Unit}
    (writes : Writes setting call (fun _ => True) body fun _ _ => True) :
    Writes setting call known (Lower.once config name body) fun _ _ => True where
  written {session _ _} sound lasts ran := by
    rcases Lower.once_ok ran with ⟨_, rfl⟩ | ⟨_, _, inside, lowered, rfl⟩
    · exact ⟨.refl _, sound, fun _ _ => trivial⟩
    · -- Which plans are being compiled, or are, is no part of what is sound.
      have entered : Sound setting call (session.enter name) :=
        { sound with orderly := { sound.orderly with } }
      obtain ⟨kept, sound, _⟩ := writes.written entered (fun _ _ => trivial) lowered
      refine ⟨{ kept with }, { sound with
        orderly := { sound.orderly with }
        signed := fun position there => ?_ }, fun _ _ => trivial⟩
      obtain ⟨author, wrote⟩ := sound.signed position there
      exact ⟨author, fun later more => wrote later { more with }⟩

end Writes

end TestPlan
