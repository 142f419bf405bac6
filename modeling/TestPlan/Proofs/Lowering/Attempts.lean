import TestPlan.Proofs.Lowering.Failing
import TestPlan.Proofs.Lowering.Requests

/-!
Whether it succeeds or fails, compiling a plan is accounted for: what a plan has appended before it
fails is nobody's, and what it has read by then is fulfilled.
-/

namespace TestPlan

variable {ρ : Type} [ClassLoading ρ] {setting : Setting ρ} {nobody : String}
  {session after : Compilation ρ} {abandoned : List String} {origins : List Origin} {plan : Plan}

/-! ### The call under test -/

/-- It is all the same which plans the call under test is appended inside. -/
theorem Lower.Called.unveil {call : TestCall} {middle : Compilation ρ} {names : List String}
    (called : Lower.Called setting call middle (after.veiled names)) :
    Lower.Called setting call { middle with active := after.active } after := by
  obtain ⟨⟨statement, ready, same⟩, prescribed⟩ := called
  refine ⟨⟨statement, { ready with }, ?_⟩, prescribed⟩
  exact congrArg (fun state : Compilation ρ => { state with active := after.active }) same

/-- A call under test that is appended comes last, and once. -/
theorem Standing.concluded {call : TestCall}
    (standing : Standing setting nobody abandoned session origins)
    (kind : plan.kind = .testCall call) (absent : ∀ origin ∈ origins, origin.plan? ≠ some plan.name)
    (called : Lower.Called (setting.aside nobody) call session after) :
    Concluded setting after (origins ++ [.call]) plan where
  complete := by
    obtain ⟨_, _, rfl⟩ := called.appended
    rfl
  last := by
    refine ⟨origins, rfl, fun member => ?_⟩
    -- An earlier call would have completed the test.
    rcases standing.met _ member with ⟨-, _, -, concluded⟩ | ⟨_, ⟨⟩, _⟩
    exact absurd concluded.complete (by simp [standing.running])
  absent origin member := by
    rcases List.mem_append.mp member with old | new
    · exact absent origin old
    · cases List.mem_singleton.mp new
      nofun
  prescribed := by
    rw [List.length_append, List.length_singleton, Nat.add_sub_cancel, standing.length]
    exact ⟨call, kind, fun later more =>
      (called.prescribed later more).congr Setting.like_aside.symm⟩

/-- The call under test may be appended. -/
theorem Standing.call {call : TestCall}
    (standing : Standing setting nobody abandoned session origins)
    (needed : Needed setting.roots plan) (kind : plan.kind = .testCall call)
    (absent : ∀ origin ∈ origins, origin.plan? ≠ some plan.name)
    (called : Lower.Called (setting.aside nobody) call session after) :
    Accounted setting nobody abandoned after (origins ++ [.call]) := by
  have concluded := standing.concluded kind absent called
  obtain ⟨⟨statement, ready, rfl⟩, -⟩ := called
  have kept := Compilation.keeps_appended ready
  constructor
  · rw [List.length_append, standing.length]
    exact (Compilation.size_extended _ _).symm
  · intro origin member
    rcases List.mem_append.mp member with old | new
    · refine (standing.met origin old).imp_left fun ⟨same, _⟩ => ?_
      exact ⟨same, plan, needed, concluded⟩
    · exact .inl ⟨List.mem_singleton.mp new, plan, needed, concluded⟩
  · intro name compiled known outside covered
    obtain ⟨plan, needed, rfl, fulfilled⟩ :=
      standing.fulfilled name compiled known outside covered
    refine ⟨plan, needed, rfl, ?_⟩
    -- The test has been running, so no plan was fulfilled by its call.
    cases fulfilled with
    | settled settled =>
      refine .settled (settled.mono kept.toKept fun origin member => ?_)
      cases List.mem_singleton.mp member
      nofun
    | called concluded => exact absurd concluded.complete (by simp [standing.running])
  · exact standing.active
  · intro name member
    have hidden := standing.abandoned name member
    refine { hidden with absent := fun origin there => ?_ }
    rcases List.mem_append.mp there with old | new
    · exact hidden.absent origin old
    · cases List.mem_singleton.mp new
      nofun

/-! ### Plans that succeed -/

/-- A plan that is fulfilled may be recorded and left. -/
theorem Accounted.record {active : List String}
    (accounted : Accounted setting nobody abandoned session origins)
    (needed : Needed setting.roots plan) (innermost : session.active = plan.name :: active)
    (fulfilled : Fulfilled setting session origins plan) :
    Accounted setting nobody abandoned (session.recorded plan.name).leave origins := by
  have left : (session.recorded plan.name).leave.active = active := congrArg List.tail innermost
  have kept := (session.keeps_recorded plan.name).toKept
  constructor
  · exact accounted.length
  · intro origin member
    rcases accounted.met origin member with
      ⟨same, plan, needed, concluded⟩ | ⟨name, named, met⟩
    · exact .inl ⟨same, plan, needed, concluded.mono kept id⟩
    refine .inr ⟨name, named, met.imp_left fun met => ?_⟩
    -- A plan that was active is compiled now, or it is still around.
    rcases met with compiled | entered
    · exact .inl (Bindings.isCompiled_complete.mpr (.inr compiled))
    · rw [innermost] at entered
      rcases List.mem_cons.mp entered with rfl | around
      · exact .inl (Bindings.isCompiled_complete.mpr (.inl rfl))
      · exact .inr (left ▸ around)
  · intro name compiled known outside covered
    by_cases same : name = plan.name
    · exact ⟨plan, needed, same.symm, fulfilled.mono kept id⟩
    have before := (Bindings.isCompiled_complete.mp compiled).resolve_left same
    have inactive : name ∉ session.active := by
      rw [innermost, List.mem_cons, not_or]
      exact ⟨same, left ▸ outside⟩
    obtain ⟨other, needed', rfl, fulfilled'⟩ :=
      accounted.fulfilled name before known inactive covered
    exact ⟨other, needed', rfl, fulfilled'.mono kept id⟩
  · intro name member
    exact accounted.active name (innermost ▸ List.mem_cons_of_mem _ (left ▸ member))
  · intro name member
    have hidden := accounted.abandoned name member
    have outside := hidden.outside
    rw [innermost, List.mem_cons, not_or] at outside
    refine { hidden with uncompleted := fun completed => ?_, outside := left ▸ outside.2 }
    exact (List.mem_cons.mp completed).elim outside.1 hidden.uncompleted

/-- A plan that is neither compiled nor active has no statements. -/
theorem Standing.absent (standing : Standing setting nobody abandoned session origins)
    (lacks : setting.Lacks nobody) (needed : Needed setting.roots plan)
    (uncompiled : session.bindings.isCompiled plan.name = false)
    (outside : plan.name ∉ session.active) : ∀ origin ∈ origins, origin.plan? ≠ some plan.name := by
  intro origin member named
  rcases standing.met origin member with ⟨rfl, -⟩ | ⟨name, named', met⟩
  · cases named
  cases named.symm.trans named'
  rcases met with (compiled | active) | none
  · rw [uncompiled] at compiled
    cases compiled
  · exact outside active
  · exact lacks plan needed none

namespace Lower

/-- Whether it succeeds or fails, a plan that is compiled keeps all there is. -/
theorem compile_keeps (config : CompilerConfig) (plan : Plan) (orderly : Orderly session) :
    match compile config plan session with
    | .ok _ after
    | .error _ after => Keeps session after := by
  have ensured := compile_ensures config plan session orderly
  revert ensured
  cases compile config plan session with
  | ok _ after => exact fun ensured => ensured.1.keeps
  | error _ after => exact fun ensured => ensured.1.keeps

/-- The call under test is appended to a compilation that is accounted for. -/
theorem lowerKind_called (named : setting.Named nobody) (needed : Needed setting.roots plan)
    {call : TestCall} (kind : plan.kind = .testCall call)
    (standing : Standing setting nobody abandoned session origins)
    (active : plan.name ∈ session.active) {result : Unit}
    (ran : lowerKind setting.config plan.name plan.kind session = .ok result after) :
    ∃ middle added, Standing setting nobody abandoned middle (origins ++ added) ∧
      (∀ origin ∈ added, origin.plan? ≠ some nobody ∧ origin.plan? ≠ some plan.name) ∧
        Called (setting.aside nobody) call middle after := by
  have marked := (lowerKind_marks needed).of_ok ran
  -- Without a limit the call is appended inside the plans that are abandoned as well.
  have veiled := lowerKind_veils needed _ _ _ (standing.passed named.lacks) ran
  have reads : call.operands = plan.kind.reads := by rw [kind]; rfl
  rw [kind] at veiled
  obtain ⟨-, calls⟩ := lowerTestCall_called named.consistent
    (fun read member => Setting.needed_aside.mpr (.inr (needed.read (reads ▸ member)))) veiled
  obtain ⟨middle, _, grown, called⟩ := calls standing.traced
  obtain ⟨added, rfl, fresh⟩ := grown.added
  -- Outside of these the operands of the call have been read in the same way.
  have middle_veiled : middle
      = Compilation.veiled { middle with active := after.active } (nobody :: abandoned) := by
    have active : middle.active = after.active ++ (nobody :: abandoned) :=
      grown.keeps.active.trans (congrArg (· ++ _) marked.active.symm)
    rw [Compilation.veiled, ← active]
  have called := called.unveil
  have marked : Marked setting.roots session { middle with active := after.active } := by
    obtain ⟨⟨_, _, same⟩, _⟩ := called
    exact {
      active := marked.active
      terminated := fun complete => by rw [standing.running] at complete; cases complete
      bound := fun name found => by
        have bound := marked.bound name found
        rwa [same] at bound
      completed := fun name member => marked.completed name (by rw [same]; exact member) }
  obtain ⟨stands, -, owned⟩ := standing.grown named.lacks marked
    (middle_veiled ▸ grown.keeps) (middle_veiled ▸ grown.traced) fun origin member =>
      ((fresh origin member).resolve_left id).imp fun _ => .imp_right .inr
  obtain ⟨_, same, known⟩ := owned
  cases List.append_cancel_left same
  refine ⟨_, added, stands, fun origin member => ⟨known origin member, fun named => ?_⟩, called⟩
  -- The plan is being compiled, so what is read meanwhile belongs to others.
  obtain ⟨name, named', unmet⟩ := (fresh origin member).resolve_left id
  cases named.symm.trans named'
  exact unmet (.inr (List.mem_append_left _ active))

/-- A plan of the call under test is accounted for when it succeeds. -/
theorem once_called (named : setting.Named nobody) (needed : Needed setting.roots plan)
    {call : TestCall} (kind : plan.kind = .testCall call) (steps : plan.isLeaf = false)
    (standing : Standing setting nobody abandoned session origins) {result : Unit}
    (ran : compile setting.config plan session = .ok result after) :
    ∃ more, Advances setting nobody abandoned session origins abandoned after more ∧
      Owned nobody origins more := by
  have keeps := compile_keeps setting.config plan standing.orderly
  rw [ran] at keeps
  rcases once_ok ran with ⟨-, rfl⟩ | ⟨uncompiled, outside, inside, lowered, rfl⟩
  · exact ⟨origins, .refl standing.toAccounted, [], by simp, List.forall_mem_nil _⟩
  have innermost : inside.active = plan.name :: session.active :=
    ((lowerKind_marks needed).of_ok lowered).active
  obtain ⟨middle, added, stands, known, called⟩ := lowerKind_called named needed kind
    (standing.enter needed steps uncompiled) List.mem_cons_self lowered
  have absent : ∀ origin ∈ origins ++ added, origin.plan? ≠ some plan.name := by
    intro origin member
    rcases List.mem_append.mp member with old | new
    · exact standing.absent named.lacks needed uncompiled outside origin old
    · exact (known origin new).2
  have accounted := stands.call needed kind absent called
  have fulfilled : Fulfilled setting inside (origins ++ added ++ [.call]) plan :=
    .called (stands.concluded kind absent called)
  refine ⟨_, ⟨accounted.record needed innermost fulfilled, keeps, ?_, fun _ => .inl⟩,
    added ++ [.call], List.append_assoc _ _ _, fun origin member => ?_⟩
  · exact ⟨added ++ [.call], (List.append_assoc _ _ _).symm⟩
  · rcases List.mem_append.mp member with before | last
    · exact (known origin before).1
    · cases List.mem_singleton.mp last
      nofun

/-- A plan that is made of steps is accounted for when it succeeds. -/
theorem once_accounted (named : setting.Named nobody) (needed : Needed setting.roots plan)
    (steps : plan.isLeaf = false)
    (standing : Standing setting nobody abandoned session origins) {result : Unit}
    (ran : compile setting.config plan session = .ok result after) :
    ∃ more, Advances setting nobody abandoned session origins abandoned after more ∧
      Owned nobody origins more := by
  by_cases isCall : plan.isTestCall = true
  · obtain ⟨call, kind⟩ := Plan.kind_of_isTestCall isCall
    exact once_called named needed kind steps standing ran
  have marked := (once_marks needed fun read member =>
    operand_marks read (needed.read member)).of_ok ran
  have running := once_staysRunning (by simpa using isCall)
    (named.staysRunning fun _ => needed.read) _ _ _ ran standing.running
  -- Without a limit the plan is compiled inside the plans that are abandoned as well.
  have veiled := compile_veils needed _ _ _ (standing.passed named.lacks) ran
  have aside : Needed (setting.aside nobody).roots plan := Setting.needed_aside.mpr (.inr needed)
  have completing : Completing (setting.aside nobody) plan
      (lowerKind setting.config.unlimited plan.name plan.kind) := by
    obtain ⟨name, kind⟩ := plan
    exact lowerKind_completing named.consistent name kind (fun _ => aside.read) steps
  have reading := @Reading.once _ _ _ _ aside steps named.consistent setting.config.unlimited _
    completing
  obtain ⟨_, grown, -⟩ := reading.grows standing.traced trivial veiled running
  obtain ⟨added, rfl, fresh⟩ := grown.added
  obtain ⟨-, advances, owned⟩ := standing.grown named.lacks marked grown.keeps grown.traced
    fun origin member =>
      ((fresh origin member).resolve_left id).imp fun _ => .imp_right .inr
  exact ⟨_, advances, owned⟩

/-- A literal or text that is a root is accounted for when it succeeds. -/
theorem compileLeaf_accounted (named : setting.Named nobody) (root : plan ∈ setting.roots)
    (leaf : plan.isLeaf = true)
    (standing : Standing setting nobody abandoned session origins) {result : Unit}
    (ran : compile setting.config plan session = .ok result after) :
    ∃ more, Advances setting nobody abandoned session origins abandoned after more ∧
      Owned nobody origins more := by
  have marked := (once_marks (.root root) fun read member =>
    operand_marks read ((Needed.root root).read member)).of_ok ran
  have veiled := compile_veils (.root root) _ _ _ (standing.passed named.lacks) ran
  have aside : plan ∈ (setting.aside nobody).roots := List.mem_cons_of_mem _ root
  obtain ⟨added, traced, kept, fresh⟩ := compileLeaf_traced aside leaf
    (fun loads ran => lowerKind_leafMade leaf loads ran) standing.traced veiled
  obtain ⟨-, advances, owned⟩ := standing.grown named.lacks marked kept traced
    fun origin member => (fresh origin member).imp fun _ => .imp_right .inr
  exact ⟨_, advances, owned⟩

/-- A root is accounted for when it succeeds. -/
theorem compile_accounted (named : setting.Named nobody) (root : plan ∈ setting.roots)
    (standing : Standing setting nobody abandoned session origins) {result : Unit}
    (ran : compile setting.config plan session = .ok result after) :
    ∃ more, Advances setting nobody abandoned session origins abandoned after more ∧
      Owned nobody origins more := by
  by_cases leaf : plan.isLeaf = true
  · exact compileLeaf_accounted named root leaf standing ran
  · exact once_accounted named (.root root) (by simpa using leaf) standing ran

end Lower

/-! ### Plans that fail -/

/-- Steps of an active plan are accounted for when one of them fails, if what they read is. -/
theorem ComposedSteps.fails (named : setting.Named nobody) {reads : List Plan} {owner : String}
    {roles : List Role} {steps free : Lowering ρ Unit}
    (needed : ∀ read ∈ reads, Needed setting.roots read)
    (operands : ∀ read ∈ reads, Fails setting nobody [] (Lower.operand setting.config read))
    (composed : ComposedSteps setting.config setting.config.unlimited owner reads roles steps
      free) : Fails setting nobody [owner] steps := by
  induction composed with
  | nil => exact .of_still nofun
  | cons first _ ih =>
    exact .bind (first.fails named needed operands) (first.stands named needed) fun _ => ih

/-- A plan that is made of steps is accounted for when it fails, if what it reads is. -/
theorem ComposedPlan.fails (named : setting.Named nobody) {lower free : Lowering ρ Unit}
    (needed : ∀ read ∈ plan.kind.reads, Needed setting.roots read)
    (operands : ∀ read ∈ plan.kind.reads,
      Fails setting nobody [] (Lower.operand setting.config read))
    (steps : plan.isLeaf = false)
    (composed : ComposedPlan setting.config setting.config.unlimited plan lower free) :
    Fails setting nobody [plan.name] lower := by
  cases composed with
  | steps _ composed => exact composed.fails named needed operands
  | leaf leaf _ =>
    rw [steps] at leaf
    cases leaf
  | testCall _ composed =>
    -- Nothing fails once the call has been appended.
    exact .bind (composed.fails named needed operands) (composed.stands named needed)
      fun _ => .of_still nofun
  | unsupported _ =>
    refine .of_still fun _ _ _ failed => ?_
    cases failed
    exact .refl _

namespace Lower

/-- A plan that is compiled at most once is left to nobody when it fails. -/
theorem once_fails (named : setting.Named nobody) (needed : Needed setting.roots plan)
    (steps : plan.isLeaf = false)
    (fails : Fails setting nobody [plan.name]
      (lowerKind setting.config plan.name plan.kind)) :
    Fails setting nobody [] (compile setting.config plan) := by
  intro abandoned session origins error after standing _ failed
  rcases once_error failed with rfl | ⟨uncompiled, outside, inside, failed', rfl⟩
  · exact ⟨abandoned, origins, .refl standing.toAccounted⟩
  have entered := standing.enter needed steps uncompiled
  obtain ⟨abandoned', more, advances⟩ := fails _ _ _ _ _ entered
    (List.cons_subset_cons _ (List.nil_subset _)) failed'
  have innermost : inside.active = plan.name :: session.active := advances.keeps.active
  obtain ⟨unrecorded, unbound⟩ := Bool.or_eq_false_iff.mp uncompiled
  -- While it is active the plan is not recorded as compiled.
  have uncompleted : plan.name ∉ inside.bindings.completed := by
    intro completed
    rcases ((lowerKind_marks needed).of_error failed').completed plan.name completed with
      before | fresh
    · have recorded : session.bindings.completed.contains plan.name = true :=
        List.contains_iff_mem.mpr before
      rw [unrecorded] at recorded
      cases recorded
    · exact fresh.outside List.mem_cons_self
  obtain ⟨abandoned'', accounted, only⟩ :=
    advances.accounted.leave named.lacks needed steps innermost outside uncompleted
  refine ⟨abandoned'', _, accounted,
    { advances.keeps with active := congrArg List.tail innermost }, ?_, fun name member => ?_⟩
  · obtain ⟨added, rfl⟩ := advances.origins
    rw [disowned, List.map_append, ← disowned,
      disowned_of_absent (standing.absent named.lacks needed uncompiled outside)]
    exact List.prefix_append _ _
  · rcases only name member with before | rfl
    · exact advances.abandoned name before
    · exact .inr unbound

/-- A plan that is read is accounted for when it fails. -/
theorem operand_fails (named : setting.Named nobody) (plan : Plan)
    (needed : Needed setting.roots plan) :
    Fails setting nobody [] (operand setting.config plan) := by
  -- The induction is on what a plan reads.
  induction plan using Plan.induction_reads with
  | step plan ih =>
    intro abandoned session origins error after standing _ failed
    by_cases leaf : plan.isLeaf = true
    · rcases operand_of_isLeaf leaf session with ⟨found, read⟩ | ⟨-, value, read⟩
      · rw [read] at failed
        cases failed
      · rw [read] at failed
        rcases bind_eq_error_iff.mp failed with failed' | ⟨_, _, _, ⟨⟩⟩
        exact ⟨abandoned, origins, standing.toAccounted.still (literalLeaf_still failed')⟩
    have steps : plan.isLeaf = false := by simpa using leaf
    rw [operand_of_steps steps, get_bind] at failed
    cases found : session.bindings.get? plan.name with
    | some var =>
      rw [found] at failed
      cases failed
    | none =>
      rw [found] at failed
      rcases bind_eq_error_iff.mp failed with failed' | ⟨_, middle, ran, failed'⟩
      · have composed := @lowerKind_composed ρ _ setting.config setting.config.unlimited rfl plan
        exact once_fails named needed steps (composed.fails named (fun _ => needed.read)
          (fun read member => ih read member (needed.read member)) steps) _ _ _ _ _ standing
          (List.nil_subset _) failed'
      · -- The plan is fulfilled, but has no value.
        obtain ⟨more, advances, -⟩ := once_accounted named needed steps standing ran
        exact ⟨abandoned, more,
          advances.trans (advances.accounted.still (compiledValue_still failed'))⟩

/-- A root is accounted for when it fails. -/
theorem compile_fails (named : setting.Named nobody) (root : plan ∈ setting.roots) :
    Fails setting nobody [] (compile setting.config plan) := by
  by_cases leaf : plan.isLeaf = true
  · -- A literal or text that fails has done nothing.
    refine .of_still fun session error after failed => ?_
    rcases once_error failed with rfl | ⟨-, -, inside, failed', rfl⟩
    · exact .refl _
    · exact (lowerLeaf_still leaf failed').leave
  have needed : Needed setting.roots plan := .root root
  have steps : plan.isLeaf = false := by simpa using leaf
  have composed := @lowerKind_composed ρ _ setting.config setting.config.unlimited rfl plan
  exact once_fails named needed steps (composed.fails named (fun _ => needed.read)
    (fun read member => operand_fails named read (needed.read member)) steps)

end Lower

end TestPlan
