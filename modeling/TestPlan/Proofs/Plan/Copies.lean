import TestPlan.Proofs.Number.Widening
import TestPlan.Proofs.Plan.Comparable
import TestPlan.Proofs.Plan.Exact

/-!
Copies of a plan, which are equal to it: they agree with it in everything but the signs of zeros,
since zeros of both signs are equal as numbers.
-/

namespace TestPlan

open List (Forall₂)

/-! ### Numbers but for the signs of zeros -/

/-- The number, without its sign when it is zero. -/
def Binary32.unsigned (x : Binary32) : Binary32 :=
  if x.magnitude = 0 then ⟨0⟩ else x

/-- The number, without its sign when it is zero. -/
def Binary64.unsigned (x : Binary64) : Binary64 :=
  if x.magnitude = 0 then ⟨0⟩ else x

/-- The literal, without its sign when it is a zero. -/
def Literal.unsigned : Literal → Literal
  | .float x => .float x.unsigned
  | .double x => .double x.unsigned
  | value => value

/-- Numbers are the same without the signs of zeros when they are, or are zeros of both signs. -/
theorem ite_magnitude_eq_iff {α : Type} {negative : α → Bool} {magnitude : α → Nat} {zero x y : α}
    (exact : ∀ {x y}, negative x = negative y → magnitude x = magnitude y → x = y)
    (least : magnitude zero = 0) :
    (if magnitude x = 0 then zero else x) = (if magnitude y = 0 then zero else y) ↔
      magnitude x = magnitude y ∧ (negative x = negative y ∨ magnitude x = 0) := by
  constructor
  · intro same
    -- What is left of a number has its magnitude, and its sign unless that is zero.
    have kept : ∀ x, magnitude (if magnitude x = 0 then zero else x) = magnitude x := by
      intro x
      split
      · rename_i none
        rw [least, none]
      · rfl
    have magnitudes : magnitude x = magnitude y := by rw [← kept x, same, kept y]
    refine ⟨magnitudes, ?_⟩
    by_cases none : magnitude x = 0
    · exact .inr none
    · rw [if_neg none, if_neg (magnitudes ▸ none)] at same
      exact .inl (same ▸ rfl)
  · rintro ⟨magnitudes, signs⟩
    rw [← magnitudes]
    split
    · rfl
    · rename_i some
      exact exact (signs.resolve_right some) magnitudes

/-- Numbers are equal when they are defined and agree but for the signs of zeros. -/
theorem Binary32.numericEq_iff {x y : Binary32} :
    x.numericEq y = true ↔ x.isNaN = false ∧ x.unsigned = y.unsigned := by
  rw [numericEq, sameNumber_iff, unsigned, unsigned,
    ite_magnitude_eq_iff eq_of_magnitude (by decide)]
  simp [isNaN]

/-- Numbers are equal when they are defined and agree but for the signs of zeros. -/
theorem Binary64.numericEq_iff {x y : Binary64} :
    x.numericEq y = true ↔ x.isNaN = false ∧ x.unsigned = y.unsigned := by
  rw [numericEq, sameNumber_iff, unsigned, unsigned,
    ite_magnitude_eq_iff eq_of_magnitude (by decide)]
  simp [isNaN]

namespace Literal

/-- Literals are equal when they are defined and agree but for the signs of zeros. -/
theorem same_iff {value other : Literal} :
    value.same other = true ↔ value.isNaN = false ∧ value.unsigned = other.unsigned := by
  cases value <;> cases other <;>
    simp [same, isNaN, unsigned, Binary32.numericEq_iff, Binary64.numericEq_iff]

/-- Whether a number is defined does not depend on the sign of a zero. -/
theorem isNaN_unsigned (value : Literal) : value.unsigned.isNaN = value.isNaN := by
  cases value with
  | float x =>
    simp only [unsigned, isNaN, Binary32.unsigned]
    split
    · rename_i zero
      rw [Binary32.isNaN, Binary32.isNaN, zero]
      rfl
    · rfl
  | double x =>
    simp only [unsigned, isNaN, Binary64.unsigned]
    split
    · rename_i zero
      rw [Binary64.isNaN, Binary64.isNaN, zero]
      rfl
    · rfl
  | _ => rfl

/-- A literal without its sign stands for the same integer, if for any. -/
theorem asInt?_unsigned (value : Literal) : value.unsigned.asInt? = value.asInt? := by
  cases value <;> rfl

end Literal

/-! ### Plans but for the signs of zeros -/

/-- Literals that agree but for the signs of zeros. -/
def Literal.Resembles (value value' : Literal) : Prop :=
  value'.unsigned = value.unsigned

/-- Plans that agree in everything but the signs of zeros, at any depth. -/
inductive Plan.Resembles : Plan → Plan → Prop
  | mk {plan plan' : Plan} : plan'.name = plan.name →
      plan.kind.Twins Resembles Literal.Resembles plan'.kind → Resembles plan plan'

namespace Plan

variable {plan plan' other other' : Plan}

namespace Resembles

/-- Every plan resembles itself. -/
theorem refl (plan : Plan) : plan.Resembles plan := by
  -- The induction is on what the plan reads at any depth, here and in the lemmas below.
  induction plan using Plan.induction_operands with
  | step plan ih => exact .mk rfl (.refl (fun _ _ => rfl) ih)

/-- Resemblance goes both ways. -/
theorem symm (resembles : plan.Resembles plan') : plan'.Resembles plan := by
  induction plan using Plan.induction_operands generalizing plan' with
  | step plan ih =>
    obtain ⟨name, twins⟩ := resembles
    have exchanged : plan.kind.Twins (flip Resembles) (flip Literal.Resembles) plan'.kind :=
      twins.imp_mem (fun _ _ => Eq.symm) fun _ member _ => ih _ member
    exact .mk name.symm exchanged.symm

/-- Equal plans resemble each other. -/
theorem of_same (same : plan.same plan' = true) : plan.Resembles plan' := by
  induction plan using Plan.induction_operands generalizing plan' with
  | step plan ih =>
    obtain ⟨name, twins⟩ := same_iff_twins.mp same
    exact .mk name.symm (twins.imp_mem (fun _ _ same => (Literal.same_iff.mp same).2.symm)
      fun _ member _ => ih _ member)

/-- Plans that resemble equal plans are equal. -/
theorem same (resembles : plan.Resembles plan') (resembles' : other.Resembles other')
    (same : plan.same other = true) : plan'.same other' = true := by
  induction plan' using Plan.induction_operands generalizing plan other other' with
  | step plan' ih =>
    obtain ⟨name, twins⟩ := resembles.symm
    obtain ⟨name', twins'⟩ := resembles'
    obtain ⟨named, equal⟩ := same_iff_twins.mp same
    -- Between operands of the two plans are those of the plans that are equal.
    refine same_iff_twins.mpr ⟨?_, ((twins.comp equal).comp twins').imp_mem ?_ ?_⟩
    · rw [← name, named, name']
    · rintro value value' ⟨last, ⟨first, left, same⟩, right⟩
      obtain ⟨defined, same⟩ := Literal.same_iff.mp same
      refine Literal.same_iff.mpr ⟨?_, left.symm.trans (same.trans right.symm)⟩
      rw [← value.isNaN_unsigned, ← left, first.isNaN_unsigned, defined]
    · rintro operand member operand' ⟨last, ⟨first, left, same⟩, right⟩
      exact ih operand member left.symm right same

end Resembles

end Plan

/-! ### Copies -/

/-- A plan in which, at any depth, reachable plans may be replaced by others of the same names. -/
inductive Plan.Copied (roots : List Plan) : Plan → Plan → Prop
  | copy {plan plan' : Plan} : Reachable roots plan → Reachable roots plan' →
      plan'.name = plan.name → Copied roots plan plan'
  | inside {plan plan' : Plan} : plan'.name = plan.name →
      plan.kind.Twins (Copied roots) Eq plan'.kind → Copied roots plan plan'

/-- Reachable literals of one name are the same, and so no zeros of different signs. -/
def LiteralsAgree (roots : List Plan) : Prop :=
  ∀ plan plan' value value', Reachable roots plan → Reachable roots plan' →
    plan'.name = plan.name → plan.kind = .primitive value → plan'.kind = .primitive value' →
      value' = value

/-- Where copies pass for each other, at the same meetings as the plans that they replace. -/
def Sharing.Copied (roots : List Plan) (sharing sharing' : Sharing) : Prop :=
  ∀ meeting indexed indexed' plan plan', Plan.Copied roots indexed indexed' →
    Plan.Copied roots plan plan' →
      sharing'.accepts meeting indexed' plan' = sharing.accepts meeting indexed plan

section Copies

variable {sharing sharing' : Sharing} {roots roots' : List Plan} {graph : PlanGraph}
  {plan plan' : Plan}

/-- Copies resemble what they replace, when the roots form a graph. -/
theorem Plan.Copied.resembles (consistent : PlanGraph.ofRoots sharing roots = .ok graph)
    (copied : plan.Copied roots plan') : plan.Resembles plan' := by
  induction plan using Plan.induction_operands generalizing plan' with
  | step plan ih =>
    cases copied with
    | copy reachable reachable' name =>
      -- The graph has only one of them, which the other one is equal to.
      rcases (reachable.linked consistent reachable' name.symm).eq_or_same with rfl | same
      · exact .refl _
      · exact .of_same same
    | inside name twins =>
      exact .mk name (twins.imp_mem (fun _ _ same => same ▸ rfl) fun _ member _ => ih _ member)

/-- Without sharing copies pass for each other when the plans that they replace do. -/
theorem Sharing.none_copied (consistent : PlanGraph.ofRoots sharing roots = .ok graph) :
    Sharing.none.Copied roots .none := by
  intro meeting indexed indexed' plan plan' copied copied'
  have resembles := copied.resembles consistent
  have resembles' := copied'.resembles consistent
  rw [Sharing.accepts_none, Sharing.accepts_none, Bool.eq_iff_iff]
  exact ⟨resembles.symm.same resembles'.symm, resembles.same resembles'⟩

/-- Copies have copies of the operands. -/
theorem Plan.Copied.operands (consistent : PlanGraph.ofRoots sharing roots = .ok graph)
    (copied : plan.Copied roots plan') :
    Forall₂ (Plan.Copied roots) plan.operands plan'.operands := by
  cases copied with
  | inside _ twins => exact twins.operands
  | copy reachable reachable' name =>
    have named : Forall₂ (fun operand operand' : Plan => operand'.name = operand.name)
        plan.operands plan'.operands := by
      rcases (reachable.linked consistent reachable' name.symm).eq_or_same with rfl | same
      · exact List.forall₂_same.mpr fun _ _ => rfl
      · exact (Plan.forall₂_operands_of_same same).imp fun _ _ same =>
          (Plan.same_iff_twins.mp same).1.symm
    -- The operands of both plans are reachable.
    refine List.forall₂_iff_zip.mpr ⟨named.length_eq, fun pair => ?_⟩
    obtain ⟨member, member'⟩ := List.of_mem_zip pair
    exact .copy (reachable.operand member) (reachable'.operand member')
      (List.forall₂_zip named pair)

/-- Copies correspond to what they replace, when the roots form a graph. -/
theorem Plan.comparable_copied (consistent : PlanGraph.ofRoots sharing roots = .ok graph)
    (shared : sharing.Copied roots sharing') :
    Comparable id (Plan.Copied roots) sharing sharing' where
  injective := Function.injective_id
  name := by
    rintro plan plan' (⟨_, _, name⟩ | ⟨name, _⟩) <;> exact name
  operands := fun copied => copied.operands consistent
  accepts := fun copied copied' => shared _ _ _ _ _ copied copied'

/-- Copies of roots form a graph. -/
theorem PlanGraph.exists_ofRoots_of_copied (consistent : ofRoots sharing roots = .ok graph)
    (shared : sharing.Copied roots sharing') (copied : Forall₂ (Plan.Copied roots) roots roots') :
    ∃ graph', ofRoots sharing' roots' = .ok graph' := by
  have answers := ofRoots_alike (Plan.comparable_copied consistent shared) copied
  rw [consistent] at answers
  generalize ofRoots sharing' roots' = formed at answers
  cases answers with
  | ok => exact ⟨_, rfl⟩

/-- Equal plans are the same when their literals are. -/
theorem Reachable.eq_of_same (agree : LiteralsAgree roots) (reachable : Reachable roots plan)
    (reachable' : Reachable roots plan') (same : plan.same plan' = true) : plan' = plan := by
  induction plan using Plan.induction_operands generalizing plan' with
  | step plan ih =>
    obtain ⟨name, twins⟩ := Plan.same_iff_twins.mp same
    -- The operands of both plans are reachable, and so are their literals.
    refine Plan.eq_of_twins name.symm (twins.imp_inside ?_ ?_)
    · exact fun value value' kind kind' _ =>
        (agree _ _ value value' reachable reachable' name.symm kind kind').symm
    · exact fun operand member operand' member' same =>
        (ih operand member (reachable.operand member) (reachable'.operand member') same).symm

/-- Copies are what they replace when literals of one name are the same. -/
theorem Plan.Copied.eq (consistent : PlanGraph.ofRoots sharing roots = .ok graph)
    (agree : LiteralsAgree roots) (copied : plan.Copied roots plan') : plan' = plan := by
  induction plan using Plan.induction_operands generalizing plan' with
  | step plan ih =>
    cases copied with
    | copy reachable reachable' name =>
      rcases (reachable.linked consistent reachable' name.symm).eq_or_same with rfl | same
      · rfl
      · exact reachable.eq_of_same agree reachable' same
    | inside name twins =>
      exact Plan.eq_of_twins name
        (twins.imp_mem (fun _ _ => id) fun _ member _ copied => (ih _ member copied).symm)

end Copies

end TestPlan
