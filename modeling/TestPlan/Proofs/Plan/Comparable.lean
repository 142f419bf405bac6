import TestPlan.Proofs.Parallel
import TestPlan.Proofs.Plan.Insertion

/-! Plans that correspond, and pass for others alike, form graphs that correspond. -/

namespace TestPlan

open List (Forall₂)

/-- Plans that correspond under other names, and pass for each other at the same meetings. -/
structure Comparable (names : String → String) (related : Plan → Plan → Prop)
    (sharing sharing' : Sharing) : Prop where
  injective : Function.Injective names
  name : ∀ {plan plan'}, related plan plan' → plan'.name = names plan.name
  operands : ∀ {plan plan'}, related plan plan' → Forall₂ related plan.operands plan'.operands
  accepts : ∀ {meeting plan plan' other other'}, related plan plan' → related other other' →
    sharing'.accepts meeting plan' other' = sharing.accepts meeting plan other

namespace PlanGraph

/-- Graphs of plans that correspond one by one, with the same edges. -/
structure Matches (related : Plan → Plan → Prop) (graph graph' : PlanGraph) : Prop where
  nodes : Forall₂ related graph.nodes graph'.nodes
  edges : graph'.edges = graph.edges
  meetings : graph'.meetings = graph.meetings

variable {names : String → String} {related : Plan → Plan → Prop} {sharing sharing' : Sharing}

/-- Two insertions that go on alike in graphs that match. -/
def Alike {α : Type} (names : String → String) (related : Plan → Plan → Prop)
    (build build' : Build α) : Prop :=
  Parallel (Matches related) (fun error error' => error' = error.map names) Eq build build'

/-- A link does not depend on plans. -/
theorem link_alike (operand consumer : Nat) :
    Alike names related (link operand consumer) (link operand consumer) := by
  refine fun graph graph' start => .ok rfl ?_
  dsimp only
  rw [start.edges]
  -- Edges join positions, which are the same.
  split
  · exact start
  · exact ⟨start.nodes, rfl, start.meetings⟩

/-- A meeting does not depend on plans. -/
theorem meet_alike : Alike names related meet meet :=
  fun _ _ start => .ok rfl ⟨start.nodes, start.edges, congrArg (· + 1) start.meetings⟩

/-- Plans that correspond are added at the same position. -/
theorem add_alike {plan plan' : Plan} (corresponds : related plan plan') :
    Alike names related (add plan) (add plan') :=
  fun _ _ start => .ok start.nodes.length_eq
    ⟨List.rel_append start.nodes (.cons corresponds .nil), start.edges, start.meetings⟩

/-- Operands are inserted and linked alike. -/
theorem insertOperands_alike {plans plans' : List Plan}
    (each : ∀ plan ∈ plans, ∀ plan', related plan plan' →
      Alike names related (insert sharing plan) (insert sharing' plan'))
    (node : Nat) (all : Forall₂ related plans plans') :
    Alike names related (insertOperands sharing node plans)
      (insertOperands sharing' node plans') := by
  induction all with
  | nil => exact .pure rfl
  | cons first _ ih =>
    have fed : Alike names related (feed node (insert sharing _)) (feed node (insert sharing' _)) :=
      Parallel.bind_eq (each _ List.mem_cons_self _ first) fun position => link_alike position node
    exact Parallel.bind fed fun _ _ _ => ih fun plan member =>
      each plan (List.mem_cons_of_mem _ member)

section Comparable

variable (comparable : Comparable names related sharing sharing')

include comparable

/-- A name is found at the same position under its other name, and the plans there correspond. -/
theorem Matches.find {graph graph' : PlanGraph} (start : graph.Matches related graph')
    (name : String) : graph'.position? (names name) = graph.position? name ∧
      Option.Rel related (graph.get? name) (graph'.get? (names name)) := by
  have same : ∀ {plan plan'}, related plan plan' →
      (plan'.name == names name) = (plan.name == name) := by
    intro plan plan' corresponds
    rw [comparable.name corresponds, Bool.eq_iff_iff, beq_iff_eq, beq_iff_eq,
      comparable.injective.eq_iff]
  obtain ⟨_, _⟩ := graph
  obtain ⟨_, _⟩ := graph'
  obtain ⟨all, -, -⟩ := start
  simp only [position?, get?] at all ⊢
  induction all with
  | nil => exact ⟨rfl, .none⟩
  | @cons plan _ _ _ first _ ih =>
    simp only [List.findIdx?_cons, List.find?_cons, same first]
    cases plan.name == name with
    | true => exact ⟨rfl, .some first⟩
    | false => exact ⟨congrArg (Option.map _) ih.1, ih.2⟩

/-- Plans that correspond are inserted at the same position, or are both refused. -/
theorem insert_alike {plan plan' : Plan} (corresponds : related plan plan') :
    Alike names related (insert sharing plan) (insert sharing' plan') := by
  -- The induction is on the plan, whose operands correspond as well.
  induction plan using Plan.induction_operands generalizing plan' with
  | step plan ih =>
    have named := comparable.name corresponds
    have operands := comparable.operands corresponds
    have added : Alike names related
        (do let node ← add plan; insertKind sharing node plan.kind; return node)
        (do let node ← add plan'; insertKind sharing' node plan'.kind; return node) := by
      refine Parallel.bind_eq (add_alike corresponds) fun node => ?_
      rw [insertKind_eq, insertKind_eq]
      refine Parallel.bind (insertOperands_alike ?_ node operands) fun _ _ _ => .pure rfl
      exact fun operand member operand' => ih operand member
    obtain ⟨name, kind⟩ := plan
    obtain ⟨name', kind'⟩ := plan'
    obtain rfl : name' = names name := named
    rw [insert, insert]
    refine Parallel.get_bind fun graph graph' start => ?_
    obtain ⟨position, found⟩ := start.find comparable name
    rw [position]
    -- What is found decides in both graphs whether the plan is new, accepted or in conflict.
    cases graph.position? name with
    | none => exact added graph graph' start
    | some position =>
      generalize graph.get? name = node, graph'.get? (names name) = node' at found
      cases found with
      | none => exact added graph graph' start
      | some existing =>
        dsimp only
        rw [start.meetings, comparable.accepts existing corresponds]
        refine Parallel.bind meet_alike (fun _ _ _ => ?_) graph graph' start
        split
        · exact .pure rfl
        · exact .throw rfl

/-- Roots that correspond are inserted alike. -/
theorem insertAll_alike {plans plans' : List Plan} (all : Forall₂ related plans plans') :
    Alike names related (insertAll sharing plans) (insertAll sharing' plans') := by
  induction all with
  | nil => exact .pure rfl
  | cons first _ ih => exact Parallel.bind (insert_alike comparable first) fun _ _ _ => ih

/-- Roots that correspond form graphs that match, or are both refused. -/
theorem ofRoots_alike {roots roots' : List Plan} (all : Forall₂ related roots roots') :
    Answers (fun error error' => error' = error.map names) (Matches related)
      (ofRoots sharing roots) (ofRoots sharing' roots') := by
  have outcomes := insertAll_alike comparable all {} {} ⟨.nil, rfl, rfl⟩
  unfold ofRoots
  generalize insertAll sharing roots {} = ran, insertAll sharing' roots' {} = ran' at outcomes ⊢
  cases outcomes with
  | ok _ ended => exact .ok ended
  | error same _ => exact .error same

end Comparable

end PlanGraph

end TestPlan
