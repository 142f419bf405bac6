import TestPlan.Proofs.Lowering.Lowered
import TestPlan.Proofs.Lowering.Settings
import TestPlan.Proofs.Lowering.Veiled

/-!
Where the statements of a test come from when lowerings may have failed: from plans that have been
lowered to the end, and otherwise from nobody.
-/

namespace TestPlan

variable {ρ : Type} [ClassLoading ρ] {setting : Setting ρ} {nobody : String}
  {session after : Compilation ρ} {origins more : List Origin} {abandoned : List String}
  {plan : Plan} {name : String}

omit [ClassLoading ρ] in
/-- A plan that has a value keeps it. -/
theorem Keeps.isBound (kept : Keeps session after)
    (bound : session.bindings.isBound name = true) : after.bindings.isBound name = true := by
  obtain ⟨var, found⟩ := Option.isSome_iff_exists.mp bound
  exact Option.isSome_iff_exists.mpr ⟨var, kept.get? found⟩

/-! ### Accounts -/

/--
The call under test that a plan asks for has been appended: it comes last, and once, it is what is
prescribed, and nothing else comes from the plan.
-/
structure Concluded (setting : Setting ρ) (session : Compilation ρ) (origins : List Origin)
    (plan : Plan) : Prop where
  complete : session.terminated = true
  last : ∃ before, origins = before ++ [.call] ∧ .call ∉ before
  absent : ∀ origin ∈ origins, origin.plan? ≠ some plan.name
  prescribed : ∃ call, plan.kind = .testCall call ∧ ∀ later, session.compiled.Kept later →
    setting.PrescribesCall later call (origins.length - 1)

/-- All that a plan asks for is in the test: the statements of its steps, or its call at the end. -/
inductive Fulfilled (setting : Setting ρ) (session : Compilation ρ) (origins : List Origin)
    (plan : Plan) : Prop
  | settled : Settled setting session.compiled origins plan → Fulfilled setting session origins plan
  | called : Concluded setting session origins plan → Fulfilled setting session origins plan

/-- A plan of steps that has got a value and has failed afterwards. -/
structure Abandoned (setting : Setting ρ) (session : Compilation ρ) (origins : List Origin)
    (name : String) : Prop where
  bound : session.bindings.isBound name = true
  uncompleted : name ∉ session.bindings.completed
  outside : name ∉ session.active
  absent : ∀ origin ∈ origins, origin.plan? ≠ some name
  steps : ∃ plan, Needed setting.roots plan ∧ plan.name = name ∧ plan.isLeaf = false

/--
Every statement comes from a plan that has been met, or from nobody, which is a name that no plan
has, or it is the call of a plan; and all compiled plans are fulfilled, unless they have been
abandoned.
-/
structure Accounted (setting : Setting ρ) (nobody : String) (abandoned : List String)
    (session : Compilation ρ) (origins : List Origin) : Prop where
  length : origins.length = session.test.size
  met : ∀ origin ∈ origins,
    (origin = .call ∧ ∃ plan, Needed setting.roots plan ∧
      Concluded setting session origins plan) ∨
    ∃ name, origin.plan? = some name ∧ (session.Met name ∨ name = nobody)
  fulfilled : ∀ name, session.bindings.isCompiled name = true → name ≠ nobody →
    name ∉ session.active → name ∉ abandoned →
      ∃ plan, Needed setting.roots plan ∧ plan.name = name ∧ Fulfilled setting session origins plan
  active : ∀ name ∈ session.active,
    ∃ plan, Needed setting.roots plan ∧ plan.name = name ∧ plan.isLeaf = false
  abandoned : ∀ name ∈ abandoned, Abandoned setting session origins name

/-- An accounted compilation that can go on. -/
structure Standing (setting : Setting ρ) (nobody : String) (abandoned : List String)
    (session : Compilation ρ) (origins : List Origin) : Prop
    extends Accounted setting nobody abandoned session origins where
  orderly : Orderly session
  running : session.terminated = false
  loads : Loads setting.loader session.loader

/-- An accounted compilation after another one, with all its statements and origins. -/
structure Advances (setting : Setting ρ) (nobody : String) (abandoned : List String)
    (session : Compilation ρ) (origins : List Origin) (abandoned' : List String)
    (after : Compilation ρ) (more : List Origin) : Prop where
  accounted : Accounted setting nobody abandoned' after more
  keeps : Keeps session after
  origins : origins <+: more
  /-- What has been abandoned meanwhile has had no value before. -/
  abandoned : ∀ name ∈ abandoned', name ∈ abandoned ∨ session.bindings.isBound name = false

omit [ClassLoading ρ] in
/-- Origins to which others have been added, none of them nobody. -/
def Owned (nobody : String) (origins more : List Origin) : Prop :=
  ∃ added, more = origins ++ added ∧ ∀ origin ∈ added, origin.plan? ≠ some nobody

namespace Advances

variable {middle : Compilation ρ} {abandoned' abandoned'' : List String} {others : List Origin}

/-- An account may stay as it is. -/
theorem refl (accounted : Accounted setting nobody abandoned session origins) :
    Advances setting nobody abandoned session origins abandoned session origins :=
  ⟨accounted, .refl session, List.prefix_refl _, fun _ => .inl⟩

/-- An account may go on twice. -/
theorem trans (first : Advances setting nobody abandoned session origins abandoned' middle others)
    (second : Advances setting nobody abandoned' middle others abandoned'' after more) :
    Advances setting nobody abandoned session origins abandoned'' after more where
  accounted := second.accounted
  keeps := first.keeps.trans second.keeps
  origins := first.origins.trans second.origins
  abandoned name member := by
    rcases second.abandoned name member with before | unbound
    · exact first.abandoned name before
    · refine .inr ?_
      by_contra bound
      -- What had a value at first would still have it halfway.
      rw [first.keeps.isBound (by simpa using bound)] at unbound
      cases unbound

end Advances

/-! ### Plans around -/

/-- The setting with one more plan, which has no steps, and without a limit on nesting. -/
def Setting.aside (setting : Setting ρ) (nobody : String) : Setting ρ where
  config := setting.config.unlimited
  loader := setting.loader
  roots := .mk nobody (.actions []) :: setting.roots

/-- A name that no needed plan has. -/
def Setting.Lacks (setting : Setting ρ) (nobody : String) : Prop :=
  ∀ plan, Needed setting.roots plan → plan.name ≠ nobody

section Aside

omit [ClassLoading ρ]

/-- The setting finds the same classes and helpers with one more plan. -/
theorem Setting.like_aside : setting.Like (setting.aside nobody) :=
  ⟨rfl, rfl⟩

/-- A plan is needed with one more plan if it was, or it is that plan. -/
theorem Setting.needed_aside : Needed (setting.aside nobody).roots plan ↔
    plan = .mk nobody (.actions []) ∨ Needed setting.roots plan := by
  constructor
  · intro needed
    induction needed with
    | root member => exact (List.mem_cons.mp member).imp_right .root
    | read _ member ih =>
      rcases ih with rfl | needed
      · cases member
      · exact .inr (needed.read member)
  · rintro (rfl | needed)
    · exact .root List.mem_cons_self
    · exact .trans (fun _ member => .root (List.mem_cons_of_mem _ member)) needed

/-- Needed plans of one name are alike with one more plan of another name. -/
theorem Setting.consistent_aside (consistent : setting.Consistent) (lacks : setting.Lacks nobody) :
    (setting.aside nobody).Consistent := by
  intro plan other needed needed' same
  rcases needed_aside.mp needed with rfl | needed <;>
    rcases needed_aside.mp needed' with rfl | needed'
  · exact ⟨rfl, rfl, rfl, rfl, rfl⟩
  · exact absurd same.symm (lacks other needed')
  · exact absurd same (lacks plan needed)
  · exact consistent plan other needed needed' same

end Aside

namespace Standing

/-- A compilation that can go on is traced inside the plans that are abandoned. -/
theorem traced (standing : Standing setting nobody abandoned session origins) :
    Traced (setting.aside nobody) (session.veiled (nobody :: abandoned)) origins where
  orderly := { standing.orderly with }
  running := standing.running
  loads := standing.loads
  length := standing.length
  met origin member := by
    rcases standing.met origin member with
      ⟨-, _, -, concluded⟩ | ⟨name, named, met | rfl⟩
    · exact absurd concluded.complete (by simp [standing.running])
    · exact ⟨name, named, met.imp_right (List.mem_append_left _)⟩
    · exact ⟨name, named, .inr (List.mem_append_right _ List.mem_cons_self)⟩
  settled name compiled outside := by
    rw [Compilation.veiled, List.mem_append, List.mem_cons, not_or, not_or] at outside
    obtain ⟨inactive, known, kept⟩ := outside
    obtain ⟨plan, needed, named, fulfilled⟩ :=
      standing.fulfilled name compiled known inactive kept
    refine ⟨plan, Setting.needed_aside.mpr (.inr needed), named, ?_⟩
    cases fulfilled with
    | settled settled => exact settled.congr Setting.like_aside (List.mem_cons_of_mem _)
    | called concluded => exact absurd concluded.complete (by simp [standing.running])
  active name member := by
    have aside : ∀ {name}, (∃ plan, Needed setting.roots plan ∧ plan.name = name ∧
        plan.isLeaf = false) → ∃ plan, Needed (setting.aside nobody).roots plan ∧
          plan.name = name ∧ plan.isLeaf = false := fun found =>
      found.imp fun _ => .imp_left fun needed => Setting.needed_aside.mpr (.inr needed)
    rcases List.mem_append.mp member with active | hidden
    · exact aside (standing.active name active)
    · rcases List.mem_cons.mp hidden with rfl | hidden
      · exact ⟨_, .root List.mem_cons_self, rfl, rfl⟩
      · exact aside (standing.abandoned name hidden).steps

/-- No plan that is abandoned has to be entered. -/
theorem passed (standing : Standing setting nobody abandoned session origins)
    (lacks : setting.Lacks nobody) : Passed setting.roots (nobody :: abandoned) session := by
  intro name member
  rcases List.mem_cons.mp member with rfl | member
  · exact .inr lacks
  · exact .inl (standing.abandoned name member).bound

end Standing

/-! ### Lowerings that succeed -/

omit [ClassLoading ρ] in
/-- A plan that has been abandoned stays so while nothing is added to it. -/
theorem Abandoned.mono (abandoned : Abandoned setting session origins name)
    (marked : Marked setting.roots session after)
    (absent : ∀ origin ∈ more, origin.plan? ≠ some name) : Abandoned setting after more name where
  bound := marked.bound name abandoned.bound
  uncompleted member := by
    rcases marked.completed name member with before | fresh
    · exact abandoned.uncompleted before
    · have unbound := fresh.unbound
      rw [abandoned.bound] at unbound
      cases unbound
  outside := marked.active ▸ abandoned.outside
  absent := absent
  steps := abandoned.steps

/-- What is traced inside the plans that are abandoned is accounted for. -/
theorem Standing.of_traced (before : Accounted setting nobody abandoned session origins)
    (marked : Marked setting.roots session after)
    (traced : Traced (setting.aside nobody) (after.veiled (nobody :: abandoned)) more)
    (absent : ∀ name ∈ abandoned, ∀ origin ∈ more, origin.plan? ≠ some name) :
    Standing setting nobody abandoned after more where
  orderly := { traced.orderly with }
  running := traced.running
  loads := traced.loads
  length := traced.length
  met origin member := by
    obtain ⟨name, named, compiled | active⟩ := traced.met origin member
    · exact .inr ⟨name, named, .inl (.inl compiled)⟩
    refine .inr ⟨name, named, ?_⟩
    rcases List.mem_append.mp active with active | hidden
    · exact .inl (.inr active)
    rcases List.mem_cons.mp hidden with rfl | hidden
    · exact .inr rfl
    · exact absurd named (absent name hidden origin member)
  fulfilled name compiled known outside kept := by
    have apart : name ∉ (after.veiled (nobody :: abandoned)).active := by
      rw [Compilation.veiled, List.mem_append, List.mem_cons, not_or, not_or]
      exact ⟨outside, known, kept⟩
    obtain ⟨plan, needed, rfl, settled⟩ := traced.settled name compiled apart
    rcases Setting.needed_aside.mp needed with rfl | needed
    · exact absurd rfl known
    · refine ⟨plan, needed, rfl, .settled (settled.congr Setting.like_aside.symm fun root => ?_)⟩
      rcases List.mem_cons.mp root with rfl | root
      · exact absurd rfl known
      · exact root
  active := by
    rw [marked.active]
    exact before.active
  abandoned name member := (before.abandoned name member).mono marked (absent name member)

/-- What a lowering adds for active plans, and for plans not met before, is accounted for. -/
theorem Standing.grown {added : List Origin}
    (standing : Standing setting nobody abandoned session origins) (lacks : setting.Lacks nobody)
    (marked : Marked setting.roots session after)
    (kept : Keeps (session.veiled (nobody :: abandoned)) (after.veiled (nobody :: abandoned)))
    (traced : Traced (setting.aside nobody) (after.veiled (nobody :: abandoned))
      (origins ++ added))
    (fresh : ∀ origin ∈ added, ∃ name, origin.plan? = some name ∧
      (name ∈ session.active ∨ ¬ (session.veiled (nobody :: abandoned)).Met name)) :
    Standing setting nobody abandoned after (origins ++ added) ∧
      Advances setting nobody abandoned session origins abandoned after (origins ++ added) ∧
      Owned nobody origins (origins ++ added) := by
  -- What is added belongs to a plan that is active, or was not met even as abandoned.
  have apart : ∀ origin ∈ added, ∀ name, (name = nobody ∨ name ∈ abandoned) →
      origin.plan? ≠ some name := by
    intro origin new name hidden named
    obtain ⟨other, named', active | unmet⟩ := fresh origin new
    · cases named.symm.trans named'
      rcases hidden with rfl | hidden
      · obtain ⟨plan, needed, same, -⟩ := standing.active name active
        exact lacks plan needed same
      · exact (standing.abandoned name hidden).outside active
    · cases named.symm.trans named'
      refine unmet (.inr (List.mem_append_right _ ?_))
      rcases hidden with rfl | hidden
      · exact List.mem_cons_self
      · exact List.mem_cons_of_mem _ hidden
  have stands : Standing setting nobody abandoned after (origins ++ added) := by
    refine .of_traced standing.toAccounted marked traced fun name hidden origin member => ?_
    rcases List.mem_append.mp member with old | new
    · exact (standing.abandoned name hidden).absent origin old
    · exact apart origin new name (.inr hidden)
  refine ⟨stands, ⟨stands.toAccounted, { kept with active := marked.active },
    List.prefix_append _ _, fun _ => .inl⟩, added, rfl, fun origin new => ?_⟩
  exact apart origin new nobody (.inl rfl)

/-! ### Plans that fail -/

omit [ClassLoading ρ] in
/-- The origins after the statements of a name have been given to nobody. -/
def disowned (name nobody : String) (origins : List Origin) : List Origin :=
  origins.map fun origin => if origin.plan? = some name then .step nobody 0 else origin

section Disowned

omit [ClassLoading ρ]

variable {origin : Origin}

/-- What is not given to nobody has another name. -/
theorem mem_disowned (member : origin ∈ disowned name nobody origins) :
    origin ∈ origins ∧ origin.plan? ≠ some name ∨ origin = .step nobody 0 := by
  obtain ⟨before, there, rfl⟩ := List.mem_map.mp member
  by_cases own : before.plan? = some name
  · exact .inr (if_pos own)
  · rw [if_neg own]
    exact .inl ⟨there, own⟩

/-- What has another name is not given to nobody. -/
theorem disowned_of_absent (absent : ∀ origin ∈ origins, origin.plan? ≠ some name) :
    disowned name nobody origins = origins := by
  rw [disowned]
  conv_rhs => rw [← List.map_id origins]
  exact List.map_congr_left fun origin member => if_neg (absent origin member)

/-- The statements of other names stay where they are. -/
theorem positionsOf_disowned (apart : origin.plan? ≠ some name)
    (known : origin.plan? ≠ some nobody) :
    positionsOf (disowned name nobody origins) origin = positionsOf origins origin := by
  rw [positionsOf, positionsOf, disowned, List.length_map]
  refine List.filter_congr fun position _ => ?_
  rw [List.getElem?_map]
  cases there : origins[position]? with
  | none => rfl
  | some before =>
    -- An origin is given to nobody if it is neither the one that is looked for nor nobody's.
    by_cases own : before.plan? = some name
    · have other : before ≠ origin := fun same => apart (same ▸ own)
      have given : Origin.step nobody 0 ≠ origin := fun same => known (same ▸ rfl)
      simp [own, other, given]
    · simp [own]

end Disowned

/-- A plan stays settled when the statements of another one are given to nobody. -/
theorem Settled.disowned {built : CompiledTest} (settled : Settled setting built origins plan)
    (apart : plan.name ≠ name) (known : plan.name ≠ nobody) :
    Settled setting built (disowned name nobody origins) plan := by
  have step : ∀ index, positionsOf (TestPlan.disowned name nobody origins) (.step plan.name index)
      = positionsOf origins (.step plan.name index) := fun index =>
    positionsOf_disowned (fun same => apart (Option.some.inj same)) fun same =>
      known (Option.some.inj same)
  have leaf : positionsOf (TestPlan.disowned name nobody origins) (.leaf plan.name)
      = positionsOf origins (.leaf plan.name) :=
    positionsOf_disowned (fun same => apart (Option.some.inj same)) fun same =>
      known (Option.some.inj same)
  constructor
  · simpa only [step] using settled.steps
  · intro index member
    rcases mem_disowned member with ⟨member, -⟩ | same
    · exact settled.indices index member
    · cases same
      exact absurd rfl known
  · simpa only [step] using settled.in_order
  · exact settled.served
  · intro member
    rcases mem_disowned member with ⟨member, -⟩ | same
    · exact settled.leaf member
    · cases same
  · simpa only [leaf] using settled.statement
  · exact settled.root
  · exact settled.kind

/-- A call stays the last statement when statements are given to nobody. -/
theorem Concluded.disowned (concluded : Concluded setting session origins plan)
    (known : plan.name ≠ nobody) :
    Concluded setting session (disowned name nobody origins) plan where
  complete := concluded.complete
  last := by
    obtain ⟨before, rfl, once⟩ := concluded.last
    refine ⟨TestPlan.disowned name nobody before, by rw [TestPlan.disowned, List.map_append]; rfl,
      fun member => ?_⟩
    rcases mem_disowned member with ⟨member, -⟩ | same
    · exact once member
    · cases same
  absent origin member := by
    rcases mem_disowned member with ⟨member, -⟩ | rfl
    · exact concluded.absent origin member
    · exact fun same => known (Option.some.inj same).symm
  prescribed := by
    rw [TestPlan.disowned, List.length_map]
    exact concluded.prescribed

/-- A call stays the last statement while nothing is added to the origins. -/
theorem Concluded.mono (concluded : Concluded setting session origins plan)
    (kept : session.compiled.Kept after.compiled)
    (complete : session.terminated = true → after.terminated = true) :
    Concluded setting after origins plan where
  complete := complete concluded.complete
  last := concluded.last
  absent := concluded.absent
  prescribed := by
    obtain ⟨call, kind, prescribed⟩ := concluded.prescribed
    exact ⟨call, kind, fun later more => prescribed later (kept.trans more)⟩

/-- A plan stays fulfilled when the statements of another one are given to nobody. -/
theorem Fulfilled.disowned (fulfilled : Fulfilled setting session origins plan)
    (apart : plan.name ≠ name) (known : plan.name ≠ nobody) :
    Fulfilled setting session (disowned name nobody origins) plan := by
  cases fulfilled with
  | settled settled => exact .settled (settled.disowned apart known)
  | called concluded => exact .called (concluded.disowned known)

/-- A plan stays fulfilled while nothing is added to the origins. -/
theorem Fulfilled.mono (fulfilled : Fulfilled setting session origins plan)
    (kept : session.compiled.Kept after.compiled)
    (complete : session.terminated = true → after.terminated = true) :
    Fulfilled setting after origins plan := by
  cases fulfilled with
  | settled settled => exact .settled (by simpa using settled.mono kept (List.forall_mem_nil _))
  | called concluded => exact .called (concluded.mono kept complete)

/-- A plan of steps may be entered. -/
theorem Standing.enter (standing : Standing setting nobody abandoned session origins)
    (needed : Needed setting.roots plan) (steps : plan.isLeaf = false)
    (uncompiled : session.bindings.isCompiled plan.name = false) :
    Standing setting nobody abandoned (session.enter plan.name) origins where
  orderly := { standing.orderly with }
  running := standing.running
  loads := standing.loads
  length := standing.length
  met origin member := by
    rcases standing.met origin member with
      ⟨same, plan, needed, concluded⟩ | ⟨name, named, met | none⟩
    · exact .inl ⟨same, plan, needed, concluded.mono (.refl _) id⟩
    · exact .inr ⟨name, named, .inl (met.imp_right (List.mem_cons_of_mem _))⟩
    · exact .inr ⟨name, named, .inr none⟩
  fulfilled name compiled known outside kept := by
    have inactive : name ∉ session.active := fun active =>
      outside (List.mem_cons_of_mem _ active)
    obtain ⟨plan, needed, named, fulfilled⟩ :=
      standing.fulfilled name compiled known inactive kept
    exact ⟨plan, needed, named, fulfilled.mono (.refl _) id⟩
  active name member := by
    rcases List.mem_cons.mp member with rfl | around
    · exact ⟨plan, needed, rfl, steps⟩
    · exact standing.active name around
  abandoned name member := by
    have hidden := standing.abandoned name member
    refine { hidden with outside := fun active => ?_ }
    -- What has a value is not entered.
    rcases List.mem_cons.mp active with rfl | around
    · rw [Bindings.isCompiled, hidden.bound, Bool.or_true] at uncompiled
      cases uncompiled
    · exact hidden.outside around

/-- A plan that has failed is left, and is abandoned if it has a value. -/
theorem Accounted.leave {active : List String}
    (accounted : Accounted setting nobody abandoned session origins)
    (lacks : setting.Lacks nobody) (needed : Needed setting.roots plan)
    (steps : plan.isLeaf = false) (innermost : session.active = plan.name :: active)
    (outside : plan.name ∉ active) (uncompleted : plan.name ∉ session.bindings.completed) :
    ∃ abandoned', Accounted setting nobody abandoned' session.leave
        (disowned plan.name nobody origins) ∧
      ∀ name ∈ abandoned', name ∈ abandoned ∨ name = plan.name := by
  have left : session.leave.active = active := congrArg List.tail innermost
  -- Whether the plan is abandoned or not, the account is the same for all others.
  have account : ∀ abandoned', abandoned ⊆ abandoned' →
      (∀ name ∈ abandoned', name ∈ abandoned ∨
        name = plan.name ∧ session.bindings.isBound plan.name = true) →
      (session.bindings.isCompiled plan.name = true → plan.name ∈ abandoned') →
      Accounted setting nobody abandoned' session.leave (disowned plan.name nobody origins) := by
    intro abandoned' inside only covers
    constructor
    · rw [disowned, List.length_map]
      exact accounted.length
    · intro origin member
      rcases mem_disowned member with ⟨member, apart⟩ | rfl
      · rcases accounted.met origin member with
          ⟨same, plan, needed, concluded⟩ |
          ⟨name, named, (compiled | entered) | none⟩
        · exact .inl ⟨same, plan, needed,
            (concluded.disowned (lacks plan needed)).mono (.refl _) id⟩
        · exact .inr ⟨name, named, .inl (.inl compiled)⟩
        · rw [innermost] at entered
          rcases List.mem_cons.mp entered with rfl | around
          · exact absurd named apart
          · exact .inr ⟨name, named, .inl (.inr (left ▸ around))⟩
        · exact .inr ⟨name, named, .inr none⟩
      · exact .inr ⟨nobody, rfl, .inr rfl⟩
    · intro name compiled known inactive kept
      rw [left] at inactive
      have apart : name ≠ plan.name := by
        rintro rfl
        exact kept (covers compiled)
      have inactive : name ∉ session.active := by
        rw [innermost, List.mem_cons, not_or]
        exact ⟨apart, inactive⟩
      obtain ⟨other, needed', rfl, fulfilled⟩ :=
        accounted.fulfilled name compiled known inactive fun member => kept (inside member)
      exact ⟨other, needed', rfl, (fulfilled.disowned apart known).mono (.refl _) id⟩
    · intro name member
      rw [left] at member
      exact accounted.active name (innermost ▸ List.mem_cons_of_mem _ member)
    · intro name member
      rcases only name member with before | ⟨rfl, bound⟩
      · have hidden := accounted.abandoned name before
        refine ⟨hidden.bound, hidden.uncompleted, fun inactive => ?_, fun origin member => ?_,
          hidden.steps⟩
        · exact hidden.outside (innermost ▸ List.mem_cons_of_mem _ (left ▸ inactive))
        · rcases mem_disowned member with ⟨member, -⟩ | rfl
          · exact hidden.absent origin member
          · obtain ⟨other, needed', rfl, -⟩ := hidden.steps
            exact fun same => lacks other needed' (Option.some.inj same).symm
      · refine ⟨bound, uncompleted, left ▸ outside, fun origin member => ?_,
          plan, needed, rfl, steps⟩
        rcases mem_disowned member with ⟨-, apart⟩ | rfl
        · exact apart
        · exact fun same => lacks plan needed (Option.some.inj same).symm
  by_cases bound : session.bindings.isBound plan.name = true
  · refine ⟨plan.name :: abandoned, account _ (List.subset_cons_self _ _) (fun name member => ?_)
      fun _ => List.mem_cons_self, fun name member => (List.mem_cons.mp member).symm⟩
    exact (List.mem_cons.mp member).symm.imp_right fun same => ⟨same, bound⟩
  · refine ⟨abandoned, account _ (List.Subset.refl _) (fun _ => .inl) (fun compiled => ?_),
      fun _ => .inl⟩
    rcases Bool.or_eq_true_iff.mp compiled with completed | bound'
    · exact absurd (List.contains_iff_mem.mp completed) uncompleted
    · exact absurd bound' bound

end TestPlan
