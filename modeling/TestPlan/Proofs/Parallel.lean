import Mathlib.Data.List.Forall2
import TestPlan.Proofs.Runs

/-! Pairs of runs that go on alike: both succeed or both fail, and they end in related states. -/

namespace TestPlan

open List (Forall₂)

/-- Two answers that are both results, which are related, or both errors, which are related. -/
inductive Answers {ε ε' α α' : Type} (errors : ε → ε' → Prop) (results : α → α' → Prop) :
    Except ε α → Except ε' α' → Prop
  | ok {result : α} {result' : α'} : results result result' →
      Answers errors results (.ok result) (.ok result')
  | error {error : ε} {error' : ε'} : errors error error' →
      Answers errors results (.error error) (.error error')

/-- Two runs that both succeed with related results, or both fail with related errors. -/
inductive Outcomes {ε ε' σ σ' α α' : Type} (states : σ → σ' → Prop) (errors : ε → ε' → Prop)
    (results : α → α' → Prop) : EStateM.Result ε σ α → EStateM.Result ε' σ' α' → Prop
  | ok {result : α} {result' : α'} {after : σ} {after' : σ'} : results result result' →
      states after after' → Outcomes states errors results (.ok result after) (.ok result' after')
  | error {error : ε} {error' : ε'} {after : σ} {after' : σ'} : errors error error' →
      states after after' →
        Outcomes states errors results (.error error after) (.error error' after')

/-- When one run succeeds, the other one does, with a related result. -/
theorem Outcomes.exists_ok {ε ε' σ σ' α α' : Type} {states : σ → σ' → Prop}
    {errors : ε → ε' → Prop} {results : α → α' → Prop} {result : α} {after : σ}
    {other : EStateM.Result ε' σ' α'}
    (outcomes : Outcomes states errors results (.ok result after) other) :
    ∃ result' after', other = .ok result' after' ∧ results result result' ∧
      states after after' := by
  cases outcomes with
  | ok related ended => exact ⟨_, _, rfl, related, ended⟩

/-- Two steps that go on alike from related states. -/
def Parallel {ε ε' σ σ' α α' : Type} (states : σ → σ' → Prop) (errors : ε → ε' → Prop)
    (results : α → α' → Prop) (step : EStateM ε σ α) (step' : EStateM ε' σ' α') : Prop :=
  ∀ state state', states state state' → Outcomes states errors results (step state) (step' state')

namespace Parallel

variable {ε ε' σ σ' α α' β β' : Type} {states : σ → σ' → Prop} {errors : ε → ε' → Prop}
  {results : α → α' → Prop} {others : β → β' → Prop}

/-- A step goes on like itself. -/
theorem self (step : EStateM ε σ α) : Parallel Eq Eq Eq step step := by
  rintro state _ rfl
  cases step state with
  | ok => exact .ok rfl rfl
  | error => exact .error rfl rfl

/-- Results at hand need only be related. -/
theorem pure {result : α} {result' : α'} (related : results result result') :
    Parallel states errors results (Pure.pure result) (Pure.pure result') :=
  fun _ _ start => .ok related start

/-- Failures need only be related. -/
theorem throw {error : ε} {error' : ε'} (related : errors error error') :
    Parallel states errors results (MonadExcept.throw error) (MonadExcept.throw error') :=
  fun _ _ start => .error related start

/-- One step after another goes on alike when both do. -/
theorem bind {step : EStateM ε σ α} {step' : EStateM ε' σ' α'} {next : α → EStateM ε σ β}
    {next' : α' → EStateM ε' σ' β'} (first : Parallel states errors results step step')
    (rest : ∀ result result', results result result' →
      Parallel states errors others (next result) (next' result')) :
    Parallel states errors others (step >>= next) (step' >>= next') := by
  intro state state' start
  have outcomes := first state state' start
  simp only [Bind.bind, EStateM.bind]
  generalize step state = ran, step' state' = ran' at outcomes ⊢
  cases outcomes with
  -- Both have succeeded, and go on from where they have come to.
  | ok related ended => exact rest _ _ related _ _ ended
  | error related ended => exact .error related ended

/-- Steps with the same results go on alike when they do after each result. -/
theorem bind_eq {step : EStateM ε σ α} {step' : EStateM ε' σ' α} {next : α → EStateM ε σ β}
    {next' : α → EStateM ε' σ' β'} (first : Parallel states errors Eq step step')
    (rest : ∀ result, Parallel states errors others (next result) (next' result)) :
    Parallel states errors others (step >>= next) (step' >>= next') :=
  first.bind fun result _ same => same ▸ rest result

/-- The results of steps may be dropped. -/
theorem discard {step : EStateM ε σ α} {step' : EStateM ε' σ' α'}
    (parallel : Parallel states errors results step step') :
    Parallel states errors (fun _ _ => True) (step >>= fun _ => Pure.pure ())
      (step' >>= fun _ => Pure.pure ()) :=
  parallel.bind fun _ _ _ => .pure trivial

/-- Results that are wrapped are related when their wrappings are. -/
theorem map {step : EStateM ε σ α} {step' : EStateM ε' σ' α'} {wrap : α → β} {wrap' : α' → β'}
    (parallel : Parallel states errors results step step')
    (wrapped : ∀ result result', results result result' → others (wrap result) (wrap' result')) :
    Parallel states errors others (wrap <$> step) (wrap' <$> step') := by
  rw [← bind_pure_comp, ← bind_pure_comp]
  exact parallel.bind fun _ _ related => .pure (wrapped _ _ related)

/-- What looks at the state goes on alike when it does from every two related states. -/
theorem get_bind {next : σ → EStateM ε σ α} {next' : σ' → EStateM ε' σ' α'}
    (each : ∀ state state', states state state' →
      Outcomes states errors results (next state state) (next' state' state')) :
    Parallel states errors results (get >>= next) (get >>= next') :=
  each

/-- A change of the state need only keep states related. -/
theorem change {change : σ → σ} {change' : σ' → σ'}
    (kept : ∀ state state', states state state' → states (change state) (change' state')) :
    Parallel states errors (fun _ _ => True) (modify change : EStateM ε σ Unit)
      (modify change' : EStateM ε' σ' Unit) :=
  fun _ _ start => .ok trivial (kept _ _ start)

/-- Steps for each of some inputs go on alike when those for related inputs do. -/
theorem forM {γ γ' : Type} {inputs : List γ} {inputs' : List γ'} {related : γ → γ' → Prop}
    {step : γ → EStateM ε σ Unit} {step' : γ' → EStateM ε' σ' Unit}
    (each : ∀ input ∈ inputs, ∀ input', related input input' →
      Parallel states errors (fun _ _ => True) (step input) (step' input'))
    (all : Forall₂ related inputs inputs') :
    Parallel states errors (fun _ _ => True) (inputs.forM step) (inputs'.forM step') := by
  -- The inputs are related one by one, so that both lists end together.
  induction all with
  | nil => exact .pure trivial
  | cons first _ ih =>
    exact (each _ List.mem_cons_self _ first).bind fun _ _ _ =>
      ih fun input member => each input (List.mem_cons_of_mem _ member)

end Parallel

end TestPlan
