import TestPlan.Proofs.Lowering.Fulfil

/-! A plan is settled when all its steps have been carried out. -/

namespace TestPlan

variable {ρ β : Type} [ClassLoading ρ] {setting : Setting ρ}

/-! ### Steps in order -/

/-- The steps of a plan from an index on are not begun. -/
def Unbegun (owner : String) (base : Nat) (origins : List Origin) : Prop :=
  ∀ index, base ≤ index → .step owner index ∉ origins

/-- The steps of a plan from an index on have been carried out in order. -/
structure Carried (setting : Setting ρ) (owner : String)
    (prescribes : β → CompiledTest → List Nat → Prop) (reads : β → List Plan) (base : Nat)
    (steps : List β) (session : Compilation ρ) (origins : List Origin) (after : Compilation ρ)
    (more : List Origin) : Prop where
  grown : Grown setting (fun origin => ∃ index, base ≤ index ∧ index < base + steps.length ∧
    origin = .step owner index) session origins after more
  fulfilled : ∀ index step, steps[index]? = some step → ∀ later, after.compiled.Kept later →
    prescribes step later (positionsOf more (.step owner (base + index)))
  in_order : ∀ first second, base ≤ first → first < second →
    ∀ position ∈ positionsOf more (.step owner first),
      ∀ later ∈ positionsOf more (.step owner second), position < later
  served : ∀ step ∈ steps, ∀ read ∈ reads step, after.compiled.Served read

section Carried

variable {owner : String} {prescribes : β → CompiledTest → List Nat → Prop}
  {reads : β → List Plan} {base : Nat} {session middle after : Compilation ρ}
  {origins others more : List Origin}

/-- While a step is carried out, the steps after it are not begun. -/
theorem Unbegun.after_step (unbegun : Unbegun owner base origins) (active : owner ∈ session.active)
    {positions : List Nat}
    (emits : Emits setting (.step owner base) session origins middle others positions) :
    Unbegun owner (base + 1) others := by
  intro index beyond
  -- Only statements of this step and of plans not met before are added.
  have other : Origin.step owner index ≠ .step owner base := fun same => by
    cases same
    omega
  rw [← positionsOf_eq_nil_iff, emits.positionsOf_eq rfl (.inr active) other]
  exact positionsOf_eq_nil_iff.mpr (unbegun index (by omega))

namespace Carried

/-- No steps have nothing to be carried out. -/
theorem nil (traced : Traced setting session origins) (unbegun : Unbegun owner base origins) :
    Carried setting owner prescribes reads base [] session origins session origins where
  grown := .refl traced
  fulfilled := by simp
  in_order first second beyond _ position there := by
    rw [positionsOf_eq_nil_iff.mpr (unbegun first beyond)] at there
    cases there
  served := by simp

/-- The first step is carried out before the others. -/
theorem cons {step : β} {steps : List β} {positions : List Nat}
    (emits : Emits setting (.step owner base) session origins middle others positions)
    (prescribed : ∀ later, middle.compiled.Kept later → prescribes step later positions)
    (served : ∀ read ∈ reads step, middle.compiled.Served read)
    (active : owner ∈ session.active) (unbegun : Unbegun owner base origins)
    (rest : Carried setting owner prescribes reads (base + 1) steps middle others after more) :
    Carried setting owner prescribes reads base (step :: steps) session origins after more := by
  have active' : owner ∈ middle.active := emits.keeps.active ▸ active
  -- The first step gets no statements while the others are carried out.
  have first : positionsOf more (.step owner base) = positions := by
    have apart : ¬ ∃ index, base + 1 ≤ index ∧ index < base + 1 + steps.length ∧
        Origin.step owner base = .step owner index := by
      rintro ⟨_, beyond, _, ⟨⟩⟩
      omega
    rw [rest.grown.positionsOf_eq rfl (.inr active') apart, emits.positions,
      positionsOf_eq_nil_iff.mpr (unbegun base (Nat.le_refl base)), List.nil_append]
  have later := unbegun.after_step active emits
  obtain ⟨added, rfl, _⟩ := rest.grown.added
  constructor
  · -- What is new belongs to the first step or to the others.
    refine .trans (emits.toGrown.mono ?_) (rest.grown.mono ?_)
    · rintro _ rfl
      exact ⟨base, Nat.le_refl _, by rw [List.length_cons]; omega, rfl⟩
    · rintro _ ⟨index, beyond, inside, rfl⟩
      exact ⟨index, by omega, by rw [List.length_cons]; omega, rfl⟩
  · intro index other there last kept
    cases index with
    | zero =>
      cases there
      rw [Nat.add_zero, first]
      exact prescribed last (rest.grown.keeps.toKept.trans kept)
    | succ index =>
      -- The other steps are counted from the one after the first.
      rw [List.getElem?_cons_succ] at there
      have found := rest.fulfilled index other there last kept
      rwa [Nat.add_right_comm] at found
  · intro early late beyond before position there position' there'
    rcases Nat.eq_or_lt_of_le beyond with rfl | beyond
    · -- The positions of the first step are there already when the others begin.
      have below : position < others.length := by
        rw [first, ← List.nil_append positions,
          ← positionsOf_eq_nil_iff.mpr (unbegun base (Nat.le_refl base)), ← emits.positions]
          at there
        exact (List.getElem?_eq_some_iff.mp (mem_positionsOf.mp there)).1
      exact Nat.lt_of_lt_of_le below (length_le_of_mem_positionsOf (later late before) there')
    · exact rest.in_order early late beyond before position there position' there'
  · intro other member read isRead
    rcases List.mem_cons.mp member with rfl | member
    · exact (served read isRead).mono rest.grown.keeps.toKept
    · exact rest.served other member read isRead

end Carried

/-- A lowering that carries out the steps of a plan from an index on. -/
structure Carrying (setting : Setting ρ) (owner : String)
    (prescribes : β → CompiledTest → List Nat → Prop) (reads : β → List Plan) (base : Nat)
    (steps : List β) (lower : Lowering ρ Unit) : Prop where
  running : ∀ {session result after}, lower session = .ok result after →
    after.terminated = false → session.terminated = false
  carries : ∀ {session origins result after}, Traced setting session origins →
    Entered setting owner session → Unbegun owner base origins →
    lower session = .ok result after → after.terminated = false →
      ∃ more, Carried setting owner prescribes reads base steps session origins after more

namespace Carrying

/-- No steps need no lowering. -/
theorem nil : Carrying setting owner prescribes reads base [] (pure () : Lowering ρ Unit) where
  running ran active := by
    cases ran
    exact active
  carries traced _ unbegun ran _ := by
    cases ran
    exact ⟨_, .nil traced unbegun⟩

/-- One step after the other is carried out. -/
theorem cons {step : β} {steps : List β} {lower : Lowering ρ Unit} {next : Lowering ρ Unit}
    (first : Fulfilling owner base (fun later => prescribes step later) (reads step)
      (.nothing : Fact setting) lower)
    (rest : Carrying setting owner prescribes reads (base + 1) steps next) :
    Carrying setting owner prescribes reads base (step :: steps) (lower >>= fun _ => next) where
  running ran active := by
    obtain ⟨_, _, ran, ran'⟩ := bind_eq_ok_iff.mp ran
    exact first.running ran (rest.running ran' active)
  carries traced entered unbegun ran active := by
    obtain ⟨_, _, ran, ran'⟩ := bind_eq_ok_iff.mp ran
    -- The first step is carried out in a test that must still be running for the others.
    obtain ⟨others, positions, emits, prescribed, served⟩ :=
      first.fulfils traced entered trivial ran (rest.running ran' active)
    obtain ⟨more, carried⟩ := rest.carries emits.traced (entered.mono emits.keeps)
      (unbegun.after_step entered.active emits) ran' active
    exact ⟨more, .cons emits prescribed served entered.active unbegun carried⟩

end Carrying

end Carried

/-! ### Whole plans -/

/-- All steps of a plan have been carried out. -/
structure Completed (setting : Setting ρ) (plan : Plan) (session : Compilation ρ)
    (origins : List Origin) (after : Compilation ρ) (more : List Origin) : Prop where
  grown : Grown setting (fun origin => ∃ index < plan.stepCount, origin = .step plan.name index)
    session origins after more
  fulfilled : ∀ index < plan.stepCount, ∀ later, after.compiled.Kept later →
    setting.PrescribesStep later plan index (positionsOf more (.step plan.name index))
  in_order : ∀ first second, first < second →
    ∀ position ∈ positionsOf more (.step plan.name first),
      ∀ later ∈ positionsOf more (.step plan.name second), position < later
  served : ∀ read ∈ plan.kind.reads, after.compiled.Served read
  stepwise : plan.isStepwise = true

/-- A lowering that carries out all steps of a plan. -/
structure Completing (setting : Setting ρ) (plan : Plan) (lower : Lowering ρ Unit) : Prop where
  running : ∀ {session result after}, lower session = .ok result after →
    after.terminated = false → session.terminated = false
  completes : ∀ {session origins result after}, Traced setting session origins →
    Entered setting plan.name session → Unbegun plan.name 0 origins →
    lower session = .ok result after → after.terminated = false →
      ∃ more, Completed setting plan session origins after more

namespace Completing

variable {lower : Lowering ρ Unit}

/-- A plan is complete when all its steps have been carried out. -/
theorem of_carrying {plan : Plan} {prescribes : β → CompiledTest → List Nat → Prop}
    {reads : β → List Plan} {steps : List β} (stepwise : plan.isStepwise = true)
    (count : plan.stepCount = steps.length)
    (prescribed : ∀ {index step later positions}, steps[index]? = some step →
      prescribes step later positions → setting.PrescribesStep later plan index positions)
    (reading : plan.kind.reads = steps.flatMap reads)
    (carrying : Carrying setting plan.name prescribes reads 0 steps lower) :
    Completing setting plan lower where
  running := carrying.running
  completes traced entered unbegun ran active := by
    obtain ⟨more, carried⟩ := carrying.carries traced entered unbegun ran active
    refine ⟨more, ?_, fun index inside later kept => ?_, fun first second =>
      carried.in_order first second first.zero_le, fun read member => ?_, stepwise⟩
    · simpa [count] using carried.grown
    · -- The step at the index is the one that has been carried out there.
      have there := List.getElem?_eq_getElem (count ▸ inside)
      have fulfilled := carried.fulfilled index _ there later kept
      rw [Nat.zero_add] at fulfilled
      exact prescribed there fulfilled
    · rw [reading] at member
      obtain ⟨step, inside, isRead⟩ := List.mem_flatMap.mp member
      exact carried.served step inside read isRead

/-- A lowering that never leaves the test running completes whatever it may. -/
theorem never {plan : Plan}
    (stops : ∀ {session result after}, lower session = .ok result after →
      after.terminated = true) : Completing setting plan lower where
  running ran active := by
    -- There is nothing to show, since the test is complete whenever the lowering succeeds.
    rw [stops ran] at active
    cases active
  completes _ _ _ ran active := by
    rw [stops ran] at active
    cases active

end Completing

end TestPlan
