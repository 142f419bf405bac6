import Mathlib.Data.List.Nodup
import TestPlan.Proofs.Plan.Insertion

/-! When plans form a graph, those of one name cannot be told apart by a compilation. -/

namespace TestPlan

namespace PlanGraph

variable {sharing : Sharing}

/-- A plan is in the graph up to equality. -/
def Represents (graph : PlanGraph) (plan : Plan) : Prop :=
  ∃ node ∈ graph.nodes, node.Linked plan

/-- What indexing some plans does to a graph. -/
structure Indexes (before after : PlanGraph) (plans : List Plan) : Prop where
  nodes : before.nodes <+: after.nodes
  distinct : (before.nodes.map Plan.name).Nodup → (after.nodes.map Plan.name).Nodup
  represents : ∀ plan ∈ plans, after.Represents plan
  /-- With a new plan all its operands are in the graph. -/
  closed : ∀ node ∈ after.nodes, node ∈ before.nodes ∨
    ∀ operand ∈ node.operands, after.Represents operand

/-- A plan stays in a graph that grows. -/
theorem Represents.mono {before after : PlanGraph} {plan : Plan}
    (represented : before.Represents plan) (grown : before.nodes <+: after.nodes) :
    after.Represents plan := by
  obtain ⟨node, member, linked⟩ := represented
  exact ⟨node, grown.subset member, linked⟩

namespace Indexes

/-- Nothing is indexed. -/
theorem nothing (graph : PlanGraph) : Indexes graph graph [] where
  nodes := List.prefix_refl _
  distinct := id
  represents _ member := by cases member
  closed _ member := .inl member

/-- Some plans are indexed after others. -/
theorem append {before middle after : PlanGraph} {plans others : List Plan}
    (first : Indexes before middle plans) (second : Indexes middle after others) :
    Indexes before after (plans ++ others) where
  nodes := first.nodes.trans second.nodes
  distinct unique := second.distinct (first.distinct unique)
  represents plan member := by
    rcases List.mem_append.mp member with early | late
    · exact (first.represents plan early).mono second.nodes
    · exact second.represents plan late
  closed node member := by
    -- A node is new to the second part, new to the first, or has been there before.
    rcases second.closed node member with old | new
    · rcases first.closed node old with older | new
      · exact .inl older
      · exact .inr fun operand read => (new operand read).mono second.nodes
    · exact .inr new

/-- Edges are no part of what is indexed. -/
theorem link {before after : PlanGraph} {plans : List Plan} {operand consumer : Nat}
    (indexed : Indexes before after plans) {last : PlanGraph}
    (linked : PlanGraph.link operand consumer after = .ok () last) :
    Indexes before last plans := by
  -- A link adds an edge or nothing.
  have nodes : last.nodes = after.nodes := by
    cases linked
    dsimp only
    split <;> rfl
  constructor
  · rw [nodes]; exact indexed.nodes
  · rw [nodes]; exact indexed.distinct
  · simp only [Represents, nodes]; exact indexed.represents
  · simp only [Represents, nodes]; exact indexed.closed

/-- An operand is indexed when it is fed to its consumer. -/
theorem feed {before after : PlanGraph} {plan : Plan} {consumer : Nat} {index : Build Nat}
    (fed : PlanGraph.feed consumer index before = .ok () after)
    (indexes : ∀ {node middle}, index before = .ok node middle → Indexes before middle [plan]) :
    Indexes before after [plan] := by
  obtain ⟨node, middle, indexed, linked⟩ := bind_eq_ok_iff.mp fed
  exact (indexes indexed).link linked

/-- A plan that is in the graph already need not be indexed. -/
theorem existing {graph : PlanGraph} {node plan : Plan} (member : node ∈ graph.nodes)
    (linked : node.Linked plan) : Indexes graph graph.again [plan] where
  nodes := List.prefix_refl _
  distinct := id
  represents other asked := by
    cases List.mem_singleton.mp asked
    exact ⟨node, member, linked⟩
  closed _ member := .inl member

/-- A plan is indexed by adding it and indexing its operands. -/
theorem added {before after : PlanGraph} {plan : Plan}
    (fresh : plan.name ∉ before.nodes.map Plan.name)
    (operands : Indexes (before.extend plan) after plan.operands) :
    Indexes before after [plan] where
  nodes := (List.prefix_append _ _).trans operands.nodes
  distinct unique := operands.distinct (by
    rw [extend, List.map_append, List.map_singleton, List.nodup_append]
    refine ⟨unique, by simp, ?_⟩
    rintro name member _ new rfl
    cases List.mem_singleton.mp new
    exact fresh member)
  represents other asked := by
    cases List.mem_singleton.mp asked
    exact ⟨plan, operands.nodes.subset (by simp [extend]), .refl plan⟩
  closed node member := by
    -- The new plan has its operands in the graph once they have all been indexed.
    rcases operands.closed node member with old | new
    · rcases List.mem_append.mp old with older | same
      · exact .inl older
      · cases List.mem_singleton.mp same
        exact .inr operands.represents
    · exact .inr new

end Indexes

/-- Operands are indexed in order, if each of them is. -/
theorem insertOperands_indexes {plans : List Plan}
    (each : ∀ plan ∈ plans, ∀ {before after : PlanGraph} {node : Nat},
      insert sharing plan before = .ok node after → Indexes before after [plan])
    {consumer : Nat} {before after : PlanGraph}
    (inserted : insertOperands sharing consumer plans before = .ok () after) :
    Indexes before after plans := by
  induction plans generalizing before with
  | nil =>
    cases inserted
    exact .nothing _
  | cons plan rest ih =>
    obtain ⟨_, middle, first, others⟩ := bind_eq_ok_iff.mp inserted
    have fed := Indexes.feed first fun indexed => each plan List.mem_cons_self indexed
    exact fed.append (ih (fun plan member => each plan (List.mem_cons_of_mem _ member)) others)

/-- Inserting a plan indexes it. -/
theorem insert_indexes (plan : Plan) {before after : PlanGraph} {node : Nat}
    (inserted : insert sharing plan before = .ok node after) : Indexes before after [plan] := by
  -- The induction is on the plan, whose operands are indexed in the same way.
  induction plan using Plan.induction_operands generalizing before after node with
  | step plan ih =>
    cases inserts sharing plan before with
    | found placed linked ran =>
      cases ran.symm.trans inserted
      exact .existing (List.mem_of_getElem? placed) linked
    | refused _ _ _ ran => cases ran.symm.trans inserted
    | added fresh ran =>
      rw [ran] at inserted
      obtain ⟨_, _, operands, ⟨⟩⟩ := bind_eq_ok_iff.mp inserted
      exact .added fresh (insertOperands_indexes ih operands)

/-- A plan that is in a graph is found there, up to equality, under its name. -/
theorem Represents.get? {graph : PlanGraph} {plan : Plan} (represented : graph.Represents plan)
    (distinct : (graph.nodes.map Plan.name).Nodup) :
    ∃ node, graph.get? plan.name = some node ∧ node.Linked plan := by
  obtain ⟨node, member, linked⟩ := represented
  cases found : graph.get? plan.name with
  | none =>
    have absent := graph.name_fresh (.inr found)
    exact absurd (List.mem_map.mpr ⟨node, member, linked.name⟩) absent
  | some first =>
    -- No two nodes have one name.
    have named : first.name = plan.name := by simpa using List.find?_some found
    have same := List.inj_on_of_nodup_map distinct (List.mem_of_find?_eq_some found) member
      (named.trans linked.name.symm)
    exact ⟨first, rfl, same ▸ linked⟩

/-- Inserting plans in order indexes them. -/
theorem insertAll_indexes (plans : List Plan) {before after : PlanGraph}
    (inserted : insertAll sharing plans before = .ok () after) : Indexes before after plans := by
  -- The induction is on the plans, each inserted into what those before it have made.
  induction plans generalizing before with
  | nil =>
    cases inserted
    exact .nothing _
  | cons plan rest ih =>
    obtain ⟨_, middle, first, others⟩ := bind_eq_ok_iff.mp inserted
    exact (insert_indexes plan first).append (ih others)

end PlanGraph

/-- A graph that is made of roots has indexed them. -/
theorem PlanGraph.ofRoots_indexes {sharing : Sharing} {roots : List Plan} {graph : PlanGraph}
    (consistent : PlanGraph.ofRoots sharing roots = .ok graph) :
    PlanGraph.Indexes {} graph roots := by
  unfold PlanGraph.ofRoots at consistent
  split at consistent
  · cases consistent
    exact PlanGraph.insertAll_indexes roots ‹_›
  · cases consistent

namespace Needed

variable {sharing : Sharing} {roots : List Plan} {graph : PlanGraph} {plan other : Plan}

/-- Whatever is needed is in the graph. -/
theorem represents (consistent : PlanGraph.ofRoots sharing roots = .ok graph)
    (needed : Needed roots plan) : graph.Represents plan := by
  have indexes := PlanGraph.ofRoots_indexes consistent
  induction needed with
  | root member => exact indexes.represents _ member
  | @read consumer plan _ read ih =>
    -- A node has all its operands in the graph, those that are read among them.
    obtain ⟨node, member, linked⟩ := ih
    obtain ⟨operand, read, linked⟩ := linked.alike.2.exists_linked read
    rcases indexes.closed node member with absent | closed
    · cases absent
    · obtain ⟨source, member, first⟩ := closed operand (node.kind.reads_subset read)
      exact ⟨source, member, first.trans linked⟩

/-- The graph finds the name of whatever is needed, at an equal plan. -/
theorem get? (consistent : PlanGraph.ofRoots sharing roots = .ok graph)
    (needed : Needed roots plan) :
    ∃ node, graph.get? plan.name = some node ∧ node.Linked plan :=
  (needed.represents consistent).get? ((PlanGraph.ofRoots_indexes consistent).distinct (by simp))

/-- When the plans form a graph, needed plans of one name are alike. -/
theorem alike (consistent : PlanGraph.ofRoots sharing roots = .ok graph)
    (needed : Needed roots plan) (needed' : Needed roots other) (name : plan.name = other.name) :
    plan.Alike other := by
  obtain ⟨node, found, linked⟩ := needed.get? consistent
  obtain ⟨node', found', linked'⟩ := needed'.get? consistent
  rw [name, found'] at found
  cases found
  exact linked.alike.1.symm.trans linked'.alike.1

/-- When the plans form a graph, no plan is inside one of its own name. -/
theorem name_ne
    (consistent : PlanGraph.ofRoots sharing roots = .ok graph) {inner : Plan}
    (needed : Needed roots plan) (inside : Needed plan.kind.reads inner) :
    inner.name ≠ plan.name := by
  intro same
  -- What is inside a needed plan is needed as well.
  have needed' : Needed roots inner := inside.trans fun read member => needed.read member
  obtain ⟨node, found, linked⟩ := needed.get? consistent
  obtain ⟨node', found', linked'⟩ := needed'.get? consistent
  -- One name has one node, which both plans are linked from.
  rw [same, found] at found'
  cases found'
  exact linked.not_inside linked' inside

end Needed

end TestPlan
