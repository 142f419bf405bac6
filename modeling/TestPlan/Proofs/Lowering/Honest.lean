import TestPlan.Proofs.Lowering.Composed
import TestPlan.Proofs.Lowering.Once

/-!
Names that are honest: a plan gets a variable only while it is being compiled or when it is a
literal, and it is recorded only when its steps are done. What one step does with them.
-/

namespace TestPlan

variable {ρ α β : Type}

/-! ### Names that are honest -/

/-- A failure for a name is due to the steps of a needed plan of that name. -/
def Justified (roots : List Plan) : CompileError → Prop
  | .cyclicPlan _ => False
  | .duplicateBinding name => ∃ plan, Needed roots plan ∧ plan.name = name ∧ plan.ProducesTwice
  | .unboundOwner name => ∃ plan, Needed roots plan ∧ plan.name = name ∧ plan.UsesEarly
  | .noValue name => ∃ plan, Needed roots plan ∧ plan.name = name ∧ plan.Valueless
  | _ => True

/-- Other failures need no justification. -/
theorem Justified.of_not_ofName {roots : List Plan} {error : CompileError}
    (other : ¬ error.OfName) : Justified roots error := by
  cases error <;> first | trivial | exact absurd trivial other

/-- A plan that has been compiled to the end, with a value unless its steps make none. -/
structure Finished (bindings : Bindings) (terminated : Bool) (plan : Plan) : Prop where
  once : ¬ plan.ProducesTwice
  value : bindings.isBound plan.name = true ∨ plan.Valueless
  terminated : plan.isTestCall = true → terminated = true

/-- A compilation in which all names are those of needed plans, compiled or being compiled. -/
structure Honest (roots : List Plan) (session : Compilation ρ) : Prop where
  completed : ∀ name ∈ session.bindings.completed, ∃ plan, Needed roots plan ∧
    plan.name = name ∧ Finished session.bindings session.terminated plan
  bound : ∀ name, session.bindings.isBound name = true →
    name ∈ session.active ∨ name ∈ session.bindings.completed ∨
      ∃ plan, Needed roots plan ∧ plan.name = name ∧ plan.isLeaf = true

/-- A finished plan stays finished while more plans get variables. -/
theorem Finished.mono {bindings later : Bindings} {terminated terminated' : Bool} {plan : Plan}
    (finished : Finished bindings terminated plan)
    (bound : ∀ name, bindings.isBound name = true → later.isBound name = true)
    (ended : terminated = true → terminated' = true) : Finished later terminated' plan where
  once := finished.once
  value := finished.value.imp_left (bound plan.name)
  terminated call := ended (finished.terminated call)

namespace Honest

variable {roots : List Plan} {session : Compilation ρ} {plan : Plan}

/-- A compilation that has not begun is honest. -/
theorem initial (loader : ρ) : Honest roots ({ loader } : Compilation ρ) where
  completed := nofun
  bound := nofun

/-- A plan may be entered. -/
theorem enter (honest : Honest roots session) (name : String) :
    Honest roots (session.enter name) where
  completed := honest.completed
  bound other bound := (honest.bound other bound).imp_left (List.mem_cons_of_mem _)

/-- A plan that is being compiled, or that is a literal, may get a variable. -/
theorem appended {owner : String} {type : RuntimeType} {statement : Statement}
    (honest : Honest roots session) (ready : Ready session (some (owner, type)) statement)
    (own : owner ∈ session.active ∨ ∃ plan, Needed roots plan ∧ plan.name = owner ∧
      plan.isLeaf = true) : Honest roots (session.appended statement (some (owner, type))) := by
  have others : ∀ name, name ≠ owner →
      (session.appended statement (some (owner, type))).bindings.isBound name
        = session.bindings.isBound name := fun name other =>
    congrArg Option.isSome (Compilation.get?_appended (by rintro _ _ ⟨⟩; exact other))
  constructor
  · intro name member
    obtain ⟨plan, needed, named, finished⟩ := honest.completed name member
    refine ⟨plan, needed, named, finished.mono (fun name bound => ?_) id⟩
    -- The owner had no variable, so a plan with one is another.
    rw [others name fun same => ?_]
    · exact bound
    · rw [same, ready.unbound owner type rfl] at bound
      cases bound
  · intro name bound
    by_cases same : name = owner
    · subst same
      exact own.imp_right .inr
    · exact honest.bound name ((others name same).symm.trans bound)

end Honest

/-! ### Steps -/

section Steps

variable {roots : List Plan} {active watched : List String} {owner : String} {role : Role}

/-- What a lowering with a role has done to honest names, looking at some of them. -/
structure Acted (roots : List Plan) (watched : List String) (owner : String) (role : Role)
    (session after : Compilation ρ) : Prop where
  honest : Honest roots after
  active : after.active = session.active
  /-- Only the owner may have got a variable, among the names that are watched. -/
  others : ∀ name ∈ watched, (role = .produces → name ≠ owner) →
    after.bindings.get? name = session.bindings.get? name
  gave : role = .produces →
    session.bindings.isBound owner = false ∧ after.bindings.isBound owner = true

/-- Why a lowering with a role fails. -/
inductive Refused (roots : List Plan) (owner : String) (session : Compilation ρ) :
    Role → CompileError → Prop
  | justified {role : Role} {error : CompileError} : Justified roots error →
      Refused roots owner session role error
  | produces : session.bindings.isBound owner = true →
      Refused roots owner session .produces (.duplicateBinding owner)
  | uses : session.bindings.isBound owner = false →
      Refused roots owner session .uses (.unboundOwner owner)

/-- Inside some plans, a lowering does with names what its role says. -/
def Acts (roots : List Plan) (active watched : List String) (owner : String) (role : Role)
    (step : Lowering ρ α) : Prop :=
  ∀ session, Honest roots session → session.active = active →
    match step session with
    | .ok _ after => Acted roots watched owner role session after
    | .error error _ => Refused roots owner session role error

/-- A lowering that leaves the bindings alone gives no plan a value. -/
theorem Acted.of_same {session after : Compilation ρ} (quiet : role ≠ .produces)
    (honest : Honest roots session)
    (bindings : after.bindings = session.bindings) (active : after.active = session.active)
    (terminated : after.terminated = session.terminated) :
    Acted roots watched owner role session after where
  honest := {
    completed := by rw [bindings, terminated]; exact honest.completed
    bound := by rw [bindings, active]; exact honest.bound }
  active := active
  others _ _ _ := by rw [bindings]
  gave gives := absurd gives quiet

namespace Acts

/-- Two lowerings of which only the second has a role. -/
theorem before {first : Lowering ρ α} {next : α → Lowering ρ β}
    (own : role ≠ .neither → owner ∈ watched)
    (acts : Acts roots active watched owner .neither first)
    (rest : ∀ result, Acts roots active watched owner role (next result)) :
    Acts roots active watched owner role (first >>= next) := by
  intro session honest inside
  have acted := acts session honest inside
  cases ran : first session with
  | error error after =>
    rw [ran] at acted
    rw [bind_of_error ran]
    -- Without a role the first lowering fails for a good reason only.
    obtain justified | _ | _ := acted
    exact .justified justified
  | ok result middle =>
    rw [ran] at acted
    rw [bind_of_ok ran]
    have acted' := rest result middle acted.honest (acted.active.trans inside)
    -- The first lowering has left the owner as it was.
    have same : role ≠ .neither →
        middle.bindings.isBound owner = session.bindings.isBound owner := fun has =>
      congrArg Option.isSome (acted.others owner (own has) nofun)
    revert acted'
    cases next result middle with
    | ok _ after =>
      intro acted'
      exact {
        honest := acted'.honest
        active := acted'.active.trans acted.active
        others := fun name member other =>
          (acted'.others name member other).trans (acted.others name member nofun)
        gave := fun gives => same (by simp [gives]) ▸ acted'.gave gives }
    | error error after =>
      intro refused
      -- What is wrong with the owner after the first lowering was wrong before it.
      cases refused with
      | justified justified => exact .justified justified
      | produces bound => exact .produces (same nofun ▸ bound)
      | uses unbound => exact .uses (same nofun ▸ unbound)

/-- Two lowerings of which only the first has a role. -/
theorem after {first : Lowering ρ α} {next : α → Lowering ρ β}
    (own : role ≠ .neither → owner ∈ watched) (acts : Acts roots active watched owner role first)
    (rest : ∀ result, Acts roots active watched owner .neither (next result)) :
    Acts roots active watched owner role (first >>= next) := by
  intro session honest inside
  have acted := acts session honest inside
  cases ran : first session with
  | error error after =>
    rw [ran] at acted
    rw [bind_of_error ran]
    exact acted
  | ok result middle =>
    rw [ran] at acted
    rw [bind_of_ok ran]
    have acted' := rest result middle acted.honest (acted.active.trans inside)
    revert acted'
    cases next result middle with
    | ok _ after =>
      intro acted'
      exact {
        honest := acted'.honest
        active := acted'.active.trans acted.active
        others := fun name member other =>
          (acted'.others name member nofun).trans (acted.others name member other)
        gave := fun gives => by
          -- The second lowering leaves the owner with its value.
          have same := acted'.others owner (own (by simp [gives])) nofun
          obtain ⟨unbound, bound⟩ := acted.gave gives
          exact ⟨unbound, (congrArg Option.isSome same).trans bound⟩ }
    | error error after =>
      rintro (justified | _ | _)
      exact .justified justified

end Acts

end Steps

variable [ClassLoading ρ] {roots : List Plan} {active watched : List String} {owner : String}
  {config : CompilerConfig}

/-- A lowering that reads plans without a role does with names what its own role says. -/
theorem Composed.acts {reads : List Plan} {role : Role} {step step' : Lowering ρ α}
    (own : role ≠ .neither → owner ∈ watched ∧ (owner ∈ active ∨
      ∃ plan, Needed roots plan ∧ plan.name = owner ∧ plan.isLeaf = true))
    (operands : ∀ read ∈ reads,
      Acts roots active watched owner .neither (Lower.operand (ρ := ρ) config read))
    (composed : Composed config config owner reads role step step') :
    Acts roots active watched owner role step := by
  -- Most primitive steps leave the bindings alone; only `define` gives the owner a value.
  induction composed with
  | pure result => exact fun _ honest _ => .of_same nofun honest rfl rfl rfl
  | throw other => exact fun _ _ _ => .justified (.of_not_ofName other)
  | resolve plain =>
    intro session honest _
    split
    · rename_i ran
      obtain ⟨_, _, rfl⟩ := Lower.resolve_ok ran
      exact .of_same nofun honest rfl rfl rfl
    · exact .justified (.of_not_ofName (Lower.not_ofName_of_resolve plain ‹_›))
  | inspect _ _ _ ih => exact fun session => ih session.test own session
  | operand member => exact operands _ member
  | emit statement =>
    intro session honest _
    split
    · rename_i ran
      obtain ⟨_, _, rfl⟩ := Lower.emit_ok ran
      exact .of_same nofun honest rfl rfl rfl
    · exact .justified (.of_not_ofName (Lower.not_ofName_of_emit ‹_›))
  | temporary type build =>
    intro session honest _
    split
    · rename_i ran
      obtain ⟨_, _, _, rfl⟩ := Lower.temporary_ok ran
      exact .of_same nofun honest rfl rfl rfl
    · exact .justified (.of_not_ofName (Lower.not_ofName_of_temporary ‹_›))
  | ownerVar =>
    intro session honest _
    split
    · rename_i ran
      obtain ⟨_, rfl⟩ := Lower.ownerVar_ok ran
      exact .of_same nofun honest rfl rfl rfl
    · obtain ⟨rfl, unbound⟩ := Lower.ownerVar_error ‹_›
      exact .uses unbound
  | define defines =>
    intro session honest inside
    split
    · rename_i ran
      obtain ⟨ready, _, _, rfl⟩ := Lower.define_ok defines ran
      -- The owner is being compiled or a literal, so it may get its variable.
      exact {
        honest := honest.appended ready (inside ▸ (own nofun).2)
        active := rfl
        others := fun name _ other =>
          Compilation.get?_appended (by rintro _ _ ⟨⟩; exact other rfl)
        gave := fun _ => ⟨ready.unbound _ _ rfl,
          congrArg Option.isSome (Compilation.owns_appended ready).bound⟩ }
    · rename_i failed
      rcases Lower.define_error failed with ⟨rfl, bound⟩ | other
      · exact .produces bound
      · exact .justified (.of_not_ofName other)
  | ensureUnbound _ ih =>
    intro session honest inside
    have acted := ih () own session honest inside
    have ensured := @Lower.ensureUnbound_eq ρ session owner
    by_cases bound : session.bindings.isBound owner = true
    · rw [if_pos bound] at ensured
      rw [bind_of_error ensured]
      exact .produces bound
    · rw [if_neg bound] at ensured
      rw [bind_of_ok ensured]
      exact acted
  | before _ _ ih ih' =>
    exact .before (fun has => (own has).1) (ih (absurd rfl)) fun result => ih' result own
  | after _ _ ih ih' =>
    exact .after (fun has => (own has).1) (ih own) fun result => ih' result (absurd rfl)

end TestPlan
