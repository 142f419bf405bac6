import TestPlan.Proofs.Lowering.Settling

/-! A plan that is compiled is settled from then on, and no plan is compiled twice. -/

namespace TestPlan

variable {ρ : Type} [ClassLoading ρ] {setting : Setting ρ} {session after : Compilation ρ}
  {origins more : List Origin} {plan : Plan}

/-! ### Plans that are made of steps -/

namespace Traced

/-- What has not been met has no statements. -/
theorem absent (traced : Traced setting session origins) (unmet : ¬ session.Met plan.name)
    {origin : Origin} (named : origin.plan? = some plan.name) : origin ∉ origins := by
  intro member
  obtain ⟨name, named', met⟩ := traced.met origin member
  rw [named] at named'
  cases named'
  exact unmet met

/-- A plan that is made of steps may be entered. -/
theorem enter (traced : Traced setting session origins) (needed : Needed setting.roots plan)
    (steps : plan.isLeaf = false) : Traced setting (session.enter plan.name) origins where
  orderly := { traced.orderly with }
  running := traced.running
  loads := traced.loads
  length := traced.length
  met origin member := by
    obtain ⟨name, named, met⟩ := traced.met origin member
    exact ⟨name, named, met.imp_right (List.mem_cons_of_mem _)⟩
  settled name compiled outside :=
    traced.settled name compiled fun active => outside (List.mem_cons_of_mem _ active)
  active name member := by
    -- The plan that is entered is made of steps, and so are those around it.
    rcases List.mem_cons.mp member with rfl | around
    · exact ⟨plan, needed, rfl, steps⟩
    · exact traced.active name around

end Traced

/-- A plan is compiled when it has been completed, besides those that were compiled before. -/
theorem Bindings.isCompiled_complete {bindings : Bindings} {name other : String} :
    (bindings.complete name).isCompiled other = true ↔
      other = name ∨ bindings.isCompiled other = true := by
  simp [isCompiled, complete, isBound, get?, or_assoc]

namespace Traced

/-- A plan that has been met may be recorded as compiled. -/
theorem record {name : String} (traced : Traced setting session origins) (met : session.Met name) :
    Traced setting (session.recorded name) origins where
  orderly := { traced.orderly with }
  running := traced.running
  loads := traced.loads
  length := traced.length
  met origin member := by
    obtain ⟨other, named, met⟩ := traced.met origin member
    exact ⟨other, named, met.mono (session.keeps_recorded name)⟩
  settled other compiled outside := by
    -- The plan itself is active or was compiled before, so nothing new has to be settled.
    have before : session.bindings.isCompiled other = true := by
      rcases Bindings.isCompiled_complete.mp compiled with rfl | before
      · exact met.resolve_right outside
      · exact before
    obtain ⟨plan, needed, named, settled⟩ := traced.settled other before outside
    refine ⟨plan, needed, named, ?_⟩
    simpa using settled.mono (session.keeps_recorded name).toKept (List.forall_mem_nil _)
  active := traced.active

/-- A plan that is settled may be left. -/
theorem leave {active : List String} (traced : Traced setting session origins)
    (needed : Needed setting.roots plan) (innermost : session.active = plan.name :: active)
    (compiled : session.bindings.isCompiled plan.name = true)
    (settled : Settled setting session.compiled origins plan) :
    Traced setting session.leave origins where
  orderly := { traced.orderly with }
  running := traced.running
  loads := traced.loads
  length := traced.length
  met origin member := by
    obtain ⟨name, named, met⟩ := traced.met origin member
    refine ⟨name, named, ?_⟩
    -- A plan that was met is compiled, or it is still around.
    rcases met with compiled | entered
    · exact .inl compiled
    · rw [innermost] at entered
      rcases List.mem_cons.mp entered with rfl | around
      · exact .inl compiled
      · exact .inr (by rw [Compilation.leave, innermost]; exact around)
  settled name isCompiled outside := by
    rw [Compilation.leave, innermost, List.tail_cons] at outside
    -- Only the plan that is left stops being active, and that one is settled.
    by_cases same : name = plan.name
    · exact ⟨plan, needed, same.symm, settled⟩
    · refine traced.settled name isCompiled fun entered => ?_
      rw [innermost] at entered
      exact (List.mem_cons.mp entered).elim same outside
  active name member := by
    refine traced.active name ?_
    rw [innermost]
    rw [Compilation.leave, innermost] at member
    exact List.mem_cons_of_mem _ member

end Traced

/-- A plan is settled when all its steps have been carried out. -/
theorem Completed.settled (completed : Completed setting plan session origins after more)
    (steps : plan.isLeaf = false) (active : plan.name ∈ session.active)
    (absent : ∀ origin ∈ origins, origin.plan? ≠ some plan.name) :
    Settled setting after.compiled more plan := by
  -- The plan has got no statements but those of its steps.
  have own : ∀ origin ∈ more, origin.plan? = some plan.name →
      ∃ index < plan.stepCount, origin = .step plan.name index := by
    obtain ⟨added, rfl, fresh⟩ := completed.grown.added
    intro origin member named
    rcases List.mem_append.mp member with old | new
    · exact absurd named (absent origin old)
    · refine (fresh origin new).resolve_right fun ⟨name, named', unmet⟩ => ?_
      rw [named] at named'
      cases named'
      exact unmet (.inr active)
  constructor
  · exact completed.fulfilled
  · intro index member
    obtain ⟨_, inside, ⟨⟩⟩ := own _ member rfl
    exact inside
  · exact completed.in_order
  · exact completed.served
  · intro member
    obtain ⟨_, _, same⟩ := own _ member rfl
    cases same
  · exact fun leaf => by rw [steps] at leaf; cases leaf
  · exact fun constant => by rw [Plan.isLeaf_of_constant? constant] at steps; cases steps
  · exact .inr completed.stepwise

/-- A plan that is made of steps is compiled at most once, whenever it is read. -/
theorem Reading.once (needed : Needed setting.roots plan) (steps : plan.isLeaf = false)
    (consistent : setting.Consistent) {config : CompilerConfig} {lower : Lowering ρ Unit}
    (completing : Completing setting plan lower) :
    Reading (.nothing : Fact setting) (Lower.once config plan.name lower) fun _ => .nothing where
  running ran active := by
    rcases Lower.once_ok ran with ⟨_, rfl⟩ | ⟨_, _, inside, lowered, rfl⟩
    · exact active
    · have entered := completing.running lowered active
      exact entered
  grows {session origins _ _} traced _ ran active := by
    rcases Lower.once_ok ran with ⟨_, rfl⟩ | ⟨uncompiled, outside, inside, lowered, rfl⟩
    · exact ⟨origins, .refl traced, trivial⟩
    -- A plan that is neither compiled nor active has no statements yet.
    have unmet : ¬ session.Met plan.name :=
      fun met => met.elim (fun compiled => by rw [uncompiled] at compiled; cases compiled) outside
    have absent : ∀ origin ∈ origins, origin.plan? ≠ some plan.name :=
      fun origin member named => traced.absent unmet named member
    have entered : plan.name ∈ (session.enter plan.name).active := List.mem_cons_self
    obtain ⟨more, completed⟩ := completing.completes (traced.enter needed steps)
      ⟨consistent, entered⟩ (fun _ _ member => absent _ member rfl) lowered active
    have grown := completed.grown
    have settled := completed.settled steps entered absent
    have recorded := inside.keeps_recorded plan.name
    have innermost : inside.active = plan.name :: session.active := grown.keeps.active
    -- The completed plan is recorded first and left afterwards.
    have traced' : Traced setting (inside.recorded plan.name).leave more :=
      (grown.traced.record (.inr (innermost ▸ List.mem_cons_self))).leave needed innermost
        (Bindings.isCompiled_complete.mpr (.inl rfl))
        (by simpa using settled.mono recorded.toKept (List.forall_mem_nil _))
    refine ⟨more, ⟨?_, traced', ?_, grown.constants⟩, trivial⟩
    · have kept := grown.keeps.trans recorded
      exact { kept with active := congrArg List.tail innermost }
    · obtain ⟨added, split, fresh⟩ := grown.added
      refine ⟨added, split, fun origin member => .inr ?_⟩
      -- What is new has been lowered for the plan itself, or for others that were not met.
      rcases fresh origin member with ⟨index, _, rfl⟩ | ⟨name, named, unmet'⟩
      · exact ⟨plan.name, rfl, unmet⟩
      · exact ⟨name, named, fun met => unmet' (met.imp_right (List.mem_cons_of_mem _))⟩

end TestPlan
