import Mathlib.Data.Set.Card
import TestPlan.Demo.Plans
import TestPlan.Proofs.Plan.Consistent
import TestPlan.Proofs.Plan.Order

/-! Roots form a graph just when reachable plans of one name are equal: the graph of these plans. -/

namespace TestPlan

/-- The plans among some roots and, at any depth, among the operands of those. -/
inductive Reachable (roots : List Plan) : Plan → Prop
  | root {plan : Plan} : plan ∈ roots → Reachable roots plan
  | operand {consumer plan : Plan} : Reachable roots consumer → plan ∈ consumer.operands →
      Reachable roots plan

/-- Whether a plan is a number that is undefined. -/
def Plan.isNaN (plan : Plan) : Bool :=
  match plan.kind with
  | .primitive value => value.isNaN
  | _ => false

/-- Any two reachable plans of one name are equal. -/
def Agreeing (roots : List Plan) : Prop :=
  ∀ plan other, Reachable roots plan → Reachable roots other → plan.name = other.name →
    plan.same other = true

namespace Reachable

variable {roots others : List Plan} {plan : Plan}

/-- More roots reach more. -/
theorem mono (reachable : Reachable roots plan) (subset : roots ⊆ others) :
    Reachable others plan := by
  induction reachable with
  | root member => exact .root (subset member)
  | operand _ member ih => exact ih.operand member

/-- Reachable plans are among plans that have the roots and all their own operands among them. -/
theorem mem_of_closed (reachable : Reachable roots plan) (plans : List Plan) (start : roots ⊆ plans)
    (closed : ∀ consumer ∈ plans, consumer.operands ⊆ plans) : plan ∈ plans := by
  induction reachable with
  | root member => exact start member
  | operand _ member ih => exact closed _ ih member

/-- Plans equal themselves when no undefined number is reachable from them. -/
theorem same_refl (reachable : Reachable roots plan)
    (defined : ∀ other, Reachable roots other → other.isNaN = false) : plan.same plan = true := by
  -- The induction is on the plan, whose operands are reachable as well.
  induction plan using Plan.induction_operands with
  | step plan ih =>
    refine Plan.same_iff_twins.mpr ⟨rfl, .refl (fun value kind => ?_) fun operand member =>
      ih operand member (reachable.operand member)⟩
    have number := defined plan reachable
    rw [Plan.isNaN, kind] at number
    exact Literal.same_refl number

end Reachable

/-- Whatever the compilation of some roots needs is reachable from them. -/
theorem Needed.reachable {roots : List Plan} {plan : Plan} (needed : Needed roots plan) :
    Reachable roots plan := by
  induction needed with
  | root member => exact .root member
  | @read consumer _ _ read ih => exact ih.operand (consumer.kind.reads_subset read)

namespace PlanGraph

variable {sharing : Sharing} {roots : List Plan} {graph before after : PlanGraph}

/-! ### Operands are linked -/

/-- An edge leads to the position from a plan that is named like the operand. -/
def Draws (graph : PlanGraph) (consumer : Nat) (operand : Plan) : Prop :=
  ∃ source node, (source, consumer) ∈ graph.edges ∧ graph.nodes[source]? = some node ∧
    node.name = operand.name

/-- The operands of the plan at a position are all linked to it. -/
def Wired (graph : PlanGraph) (consumer : Nat) : Prop :=
  ∀ reader, graph.nodes[consumer]? = some reader →
    ∀ operand ∈ reader.operands, graph.Draws consumer operand

/-- An operand stays linked. -/
theorem Draws.mono {consumer : Nat} {operand : Plan} (draws : before.Draws consumer operand)
    (changes : Changes before after) : after.Draws consumer operand := by
  obtain ⟨source, node, edge, found, named⟩ := draws
  exact ⟨source, node, changes.subset_edges edge, changes.getElem?_nodes found, named⟩

/-- The operands of a plan stay linked. -/
theorem Wired.mono {consumer : Nat} (wired : before.Wired consumer)
    (inside : consumer < before.size) (changes : Changes before after) : after.Wired consumer := by
  intro reader found operand member
  -- The plan at the position is the one that has been there before.
  have kept := changes.getElem?_nodes (List.getElem?_eq_getElem inside)
  cases kept.symm.trans found
  exact (wired _ (List.getElem?_eq_getElem inside) operand member).mono changes

/-- The first operand is inserted and linked, and the others after it. -/
theorem insertOperands_cons_ok {consumer : Nat} {plan : Plan} {rest : List Plan} :
    insertOperands sharing consumer (plan :: rest) before = .ok () after ↔
      ∃ position middle, insert sharing plan before = .ok position middle ∧
        ∃ linked, link position consumer middle = .ok () linked ∧
          insertOperands sharing consumer rest linked = .ok () after := by
  simp [insertOperands, feed, bind_eq_ok_iff, Unique.exists_iff]

/-- The insertion of a plan links the operands of all the plans that it adds. -/
def InsertWires (sharing : Sharing) (plan : Plan) : Prop :=
  ∀ {before position after}, insert sharing plan before = .ok position after →
    ∀ consumer, before.size ≤ consumer → after.Wired consumer

/-- Inserting operands links them, and the operands of all the plans that are added. -/
theorem insertOperands_wires {plans : List Plan} (each : ∀ plan ∈ plans, InsertWires sharing plan)
    {consumer : Nat} {reader : Plan} (found : before.nodes[consumer]? = some reader)
    (operands : plans ⊆ reader.operands)
    (inserted : insertOperands sharing consumer plans before = .ok () after) :
    (∀ plan ∈ plans, after.Draws consumer plan) ∧
      ∀ other, before.size ≤ other → after.Wired other := by
  induction plans generalizing before with
  | nil =>
    cases inserted
    refine ⟨nofun, fun other beyond node inside => ?_⟩
    -- There is no plan beyond the last one.
    rw [List.getElem?_eq_none beyond] at inside
    cases inside
  | cons plan rest ih =>
    obtain ⟨position, middle, first, linked, laid, others⟩ := insertOperands_cons_ok.mp inserted
    obtain ⟨changes, result⟩ := insert_changes sharing plan before
    rw [endState_of_ok first] at changes
    obtain ⟨node, placed, same⟩ := result position middle first
    have member := operands List.mem_cons_self
    obtain ⟨kept, edge⟩ := link_changes laid
      ⟨node, reader, placed, changes.getElem?_nodes found, plan, member, same⟩
    have later : rest ⊆ reader.operands := fun plan member =>
      operands (List.mem_cons_of_mem _ member)
    have found' := kept.getElem?_nodes (changes.getElem?_nodes found)
    have rest' := insertOperands_changes (fun plan _ => insert_changes sharing plan) found' later
    rw [endState_of_ok others] at rest'
    obtain ⟨drawn, wired⟩ := ih (fun plan member => each plan (List.mem_cons_of_mem _ member))
      found' later others
    refine ⟨?_, fun other beyond => ?_⟩
    · intro operand member
      rcases List.mem_cons.mp member with rfl | inside
      · exact Draws.mono ⟨position, node, edge, kept.getElem?_nodes placed, same.name⟩ rest'
      · exact drawn operand inside
    · -- A plan is added with the first operand, or with those after it.
      rcases Nat.lt_or_ge other middle.size with inside | beyond'
      · exact (each plan List.mem_cons_self first other beyond).mono inside (kept.trans rest')
      · exact wired other (by rwa [size, nodes_of_link laid])

/-- The insertion of a plan links the operands of the plan, and of all that it adds. -/
theorem insert_wires (plan : Plan) : InsertWires sharing plan := by
  -- The induction is on the plan: what its operands add is wired, and it has all of them linked.
  induction plan using Plan.induction_operands with
  | step plan ih =>
    intro before position after inserted consumer beyond reader found
    cases inserts sharing plan before with
    | found _ _ ran =>
      -- Nothing has been added beyond the plans that were there.
      cases ran.symm.trans inserted
      rw [nodes_again, List.getElem?_eq_none beyond] at found
      cases found
    | refused _ _ _ ran => cases ran.symm.trans inserted
    | added fresh ran =>
      rw [ran] at inserted
      obtain ⟨_, middle, operands, result⟩ := bind_eq_ok_iff.mp inserted
      cases result
      have placed := before.getElem?_extend plan
      have changes := insertOperands_changes (fun plan _ => insert_changes sharing plan) placed
        (List.Subset.refl _)
      rw [endState_of_ok operands] at changes
      obtain ⟨drawn, wired⟩ := insertOperands_wires ih placed (List.Subset.refl _) operands
      -- The plan itself comes first, and its operands come after it.
      rcases Nat.eq_or_lt_of_le beyond with rfl | beyond
      · cases (changes.getElem?_nodes placed).symm.trans found
        exact drawn
      · exact wired consumer (by simpa [size, extend] using beyond) reader found

/-! ### Reachable plans are indexed -/

/-- The insertion of a plan adds reachable plans, and fails only if two of these are in conflict. -/
def InsertReaches (sharing : Sharing) (roots : List Plan) (plan : Plan) : Prop :=
  ∀ graph, (∀ node ∈ graph.nodes, Reachable roots node) →
    (∀ node ∈ (endState (insert sharing plan) graph).nodes, Reachable roots node) ∧
      ∀ error after, insert sharing plan graph = .error error after → ¬ Agreeing roots

/-- Inserting operands adds reachable plans, and fails only if two of these are in conflict. -/
theorem insertOperands_reaches {plans : List Plan}
    (each : ∀ plan ∈ plans, InsertReaches sharing roots plan) (consumer : Nat)
    (reached : ∀ node ∈ graph.nodes, Reachable roots node) :
    (∀ node ∈ (endState (insertOperands sharing consumer plans) graph).nodes,
        Reachable roots node) ∧
      ∀ error after, insertOperands sharing consumer plans graph = .error error after →
        ¬ Agreeing roots := by
  induction plans generalizing graph with
  | nil => exact ⟨reached, nofun⟩
  | cons plan rest ih =>
    obtain ⟨reached', refused⟩ := each plan List.mem_cons_self graph reached
    cases ran : insert sharing plan graph with
    | error error middle =>
      rw [endState_of_error ran] at reached'
      rw [endState_of_error (insertOperands_of_error ran), insertOperands_of_error ran]
      exact ⟨reached', fun _ _ _ => refused error middle ran⟩
    | ok position middle =>
      obtain ⟨linked, laid⟩ := exists_link position consumer middle
      rw [endState_of_ok ran, ← nodes_of_link laid] at reached'
      simp only [endState, insertOperands_of_ok ran laid]
      exact ih (fun plan member => each plan (List.mem_cons_of_mem _ member)) reached'

/-- Inserting a reachable plan adds reachable plans, and fails only if two of these conflict. -/
theorem insert_reaches (sharing : Sharing) {plan : Plan} (reachable : Reachable roots plan) :
    InsertReaches sharing roots plan := by
  induction plan using Plan.induction_operands with
  | step plan ih =>
    intro graph reached
    cases inserts sharing plan graph with
    | found _ _ ran =>
      rw [endState_of_ok ran, ran]
      exact ⟨reached, nofun⟩
    | refused member named different ran =>
      rw [endState_of_error ran, ran]
      -- The plan that has taken the name is reachable, too, and would have to be equal.
      refine ⟨reached, fun _ _ _ agreeing => ?_⟩
      rw [agreeing _ _ (reached _ member) reachable named] at different
      cases different
    | added _ ran =>
      have reached' : ∀ node ∈ (graph.extend plan).nodes, Reachable roots node := by
        simpa [extend, or_imp, forall_and] using And.intro reached reachable
      obtain ⟨ended, refused⟩ := insertOperands_reaches
        (fun operand member => ih operand member (reachable.operand member)) graph.size reached'
      refine ⟨by rwa [endState_of_added ran], fun error after failed => ?_⟩
      rw [ran] at failed
      rcases bind_eq_error_iff.mp failed with failed | ⟨_, _, _, ⟨⟩⟩
      exact refused error after failed

/-- Inserting roots adds reachable plans, and fails only if two of these conflict. -/
theorem insertAll_reaches (sharing : Sharing) {plans : List Plan} (graph : PlanGraph)
    (subset : plans ⊆ roots) (reached : ∀ node ∈ graph.nodes, Reachable roots node) :
    (∀ node ∈ (endState (insertAll sharing plans) graph).nodes, Reachable roots node) ∧
      ∀ error after, insertAll sharing plans graph = .error error after → ¬ Agreeing roots := by
  induction plans generalizing graph with
  | nil => exact ⟨reached, nofun⟩
  | cons plan rest ih =>
    obtain ⟨reached', refused⟩ :=
      insert_reaches sharing (.root (subset List.mem_cons_self)) graph reached
    cases ran : insert sharing plan graph with
    | error error middle =>
      have failed : insertAll sharing (plan :: rest) graph = .error error middle := by
        simp only [insertAll, bind_of_error ran]
      rw [endState_of_error ran] at reached'
      rw [endState_of_error failed, failed]
      exact ⟨reached', fun _ _ _ => refused error middle ran⟩
    | ok position middle =>
      have goesOn : insertAll sharing (plan :: rest) graph = insertAll sharing rest middle := by
        simp only [insertAll, bind_of_ok ran]
      rw [endState_of_ok ran] at reached'
      simp only [endState, goesOn]
      exact ih middle (fun plan member => subset (List.mem_cons_of_mem _ member)) reached'

/-- Roots that are inserted one after the other are inserted by changes, which link all operands. -/
theorem insertAll_wires {plans : List Plan}
    (inserted : insertAll sharing plans before = .ok () after) :
    Changes before after ∧ ∀ consumer, before.size ≤ consumer → after.Wired consumer := by
  induction plans generalizing before with
  | nil =>
    cases inserted
    refine ⟨.refl, fun consumer beyond reader found => ?_⟩
    rw [List.getElem?_eq_none beyond] at found
    cases found
  | cons plan rest ih =>
    obtain ⟨_, middle, first, others⟩ := bind_eq_ok_iff.mp inserted
    have changes := (insert_changes sharing plan before).1
    rw [endState_of_ok first] at changes
    obtain ⟨changes', wired⟩ := ih others
    -- What is new has been added with the first root, or with those after it.
    refine ⟨changes.trans changes', fun consumer beyond => ?_⟩
    rcases Nat.lt_or_ge consumer middle.size with inside | beyond'
    · exact (insert_wires plan first consumer beyond).mono inside changes'
    · exact wired consumer beyond'

/-! ### Graphs of roots -/

/-- A graph of exactly the plans that are reachable from some roots. -/
structure Indexed (graph : PlanGraph) (roots : List Plan) : Prop where
  names : ∀ name, (graph.get? name).isSome = true ↔ ∃ plan, Reachable roots plan ∧ plan.name = name
  plans : ∀ plan, Reachable roots plan → ∃ node, graph.get? plan.name = some node ∧
    node.same plan = true
  size : graph.size = {name | ∃ plan, Reachable roots plan ∧ plan.name = name}.ncard
  dependencies : ∀ plan, Reachable roots plan → (graph.dependencies plan.name).Nodup ∧
    ∀ name, name ∈ graph.dependencies plan.name ↔ name ∈ plan.operands.map Plan.name

/-- What has been made of roots without failing. -/
theorem insertAll_of_ofRoots (consistent : ofRoots sharing roots = .ok graph) :
    insertAll sharing roots {} = .ok () graph := by
  unfold ofRoots at consistent
  split at consistent
  · cases consistent
    assumption
  · cases consistent

/-- What has been made of roots without failing is sound. -/
theorem sound_ofRoots (consistent : ofRoots sharing roots = .ok graph) : Sound graph :=
  Sound.empty.changes (insertAll_wires (insertAll_of_ofRoots consistent)).1

end PlanGraph

namespace Reachable

variable {sharing : Sharing} {roots : List Plan} {graph : PlanGraph} {plan other : Plan}

/-- Whatever is reachable is in the graph. -/
theorem represents (consistent : PlanGraph.ofRoots sharing roots = .ok graph)
    (reachable : Reachable roots plan) : graph.Represents plan := by
  have indexes := PlanGraph.ofRoots_indexes consistent
  induction reachable with
  | root member => exact indexes.represents _ member
  | operand _ member ih =>
    -- A node has all its operands in the graph.
    obtain ⟨node, inside, linked⟩ := ih
    obtain ⟨operand, member, linked⟩ := linked.exists_operand member
    obtain ⟨source, inside, first⟩ := (indexes.closed node inside).resolve_left nofun operand member
    exact ⟨source, inside, first.trans linked⟩

/-- Reachable plans of one name are linked when the roots form a graph. -/
theorem linked (consistent : PlanGraph.ofRoots sharing roots = .ok graph)
    (reachable : Reachable roots plan) (reachable' : Reachable roots other)
    (named : plan.name = other.name) : plan.Linked other := by
  have distinct := (PlanGraph.sound_ofRoots consistent).distinct
  obtain ⟨node, found, linked⟩ := (reachable.represents consistent).get? distinct
  obtain ⟨node', found', linked'⟩ := (reachable'.represents consistent).get? distinct
  rw [named, found'] at found
  cases found
  exact linked.symm.trans linked'

/-- The graph finds the name of whatever is reachable, at an equal plan. -/
theorem get? (consistent : PlanGraph.ofRoots sharing roots = .ok graph)
    (defined : ∀ other, Reachable roots other → other.isNaN = false)
    (reachable : Reachable roots plan) :
    ∃ node, graph.get? plan.name = some node ∧ node.same plan = true := by
  have distinct := (PlanGraph.ofRoots_indexes consistent).distinct (by simp)
  obtain ⟨node, found, linked⟩ := (reachable.represents consistent).get? distinct
  refine ⟨node, found, ?_⟩
  rcases linked.eq_or_same with rfl | same
  · exact reachable.same_refl defined
  · exact same

end Reachable

namespace PlanGraph

variable {sharing : Sharing} {roots others : List Plan} {graph : PlanGraph}

/-! ### Dependencies -/

/-- The dependencies of a name are the names at the sources of its position. -/
theorem mem_dependencies {name dependency : String} {position : Nat}
    (found : graph.position? name = some position) : dependency ∈ graph.dependencies name ↔
      ∃ source, (source, position) ∈ graph.edges ∧ graph.nameAt source = dependency := by
  simp [dependencies, found, sources]

/-- A dependency is listed once. -/
theorem Sound.nodup_dependencies (sound : Sound graph) (name : String) :
    (graph.dependencies name).Nodup := by
  unfold dependencies
  split
  · exact .nil
  · rename_i consumer found
    have fed : ∀ source ∈ graph.sources consumer, (source, consumer) ∈ graph.edges := by
      simp [sources]
    refine List.Nodup.map_on (fun source member other member' => ?_) ?_
    · exact sound.nameAt_inj (sound.inside (fed source member)).1
        (sound.inside (fed other member')).1
    · -- Edges that lead to one position differ in where they come from.
      refine (sound.simple.filter _).map_on fun edge member other member' same => ?_
      simp only [List.mem_filter, beq_iff_eq] at member member'
      exact Prod.ext same (member.2.trans member'.2.symm)

/-- The dependencies of a reachable plan are the names of its operands. -/
theorem dependencies_of_reachable (consistent : ofRoots sharing roots = .ok graph) {plan : Plan}
    (reachable : Reachable roots plan) : (graph.dependencies plan.name).Nodup ∧
      ∀ name, name ∈ graph.dependencies plan.name ↔ name ∈ plan.operands.map Plan.name := by
  obtain ⟨-, wired⟩ := insertAll_wires (insertAll_of_ofRoots consistent)
  have sound := sound_ofRoots consistent
  obtain ⟨node, found, linked⟩ := (reachable.represents consistent).get? sound.distinct
  obtain ⟨position, located, placed⟩ := graph.exists_position found
  refine ⟨sound.nodup_dependencies _, fun name => ?_⟩
  rw [mem_dependencies located, List.mem_map]
  constructor
  · rintro ⟨source, edge, rfl⟩
    -- The source equals an operand of the plan that is indexed, and so one of the plan.
    obtain ⟨first, reader, atSource, atConsumer, operand, member, equal⟩ := sound.feeds _ edge
    cases placed.symm.trans atConsumer
    obtain ⟨operand', member', equal'⟩ := linked.symm.exists_operand member
    exact ⟨operand', member', by rw [nameAt_of_getElem? atSource, equal'.name, equal.name]⟩
  · rintro ⟨operand, member, rfl⟩
    -- The plan that is indexed has an operand of the same name, which is linked.
    obtain ⟨operand', member', equal⟩ := linked.exists_operand member
    obtain ⟨source, first, edge, atSource, named⟩ :=
      wired position (Nat.zero_le _) node placed operand' member'
    exact ⟨source, edge, by rw [nameAt_of_getElem? atSource, named, equal.name]⟩

/-! ### Success -/

/-- When roots form a graph, reachable plans of one name are equal. -/
theorem agreeing_of_ofRoots (consistent : ofRoots sharing roots = .ok graph)
    (defined : ∀ plan, Reachable roots plan → plan.isNaN = false) : Agreeing roots := by
  intro plan other reachable reachable' named
  obtain ⟨node, found, same⟩ := reachable.get? consistent defined
  obtain ⟨node', found', same'⟩ := reachable'.get? consistent defined
  rw [named, found'] at found
  cases found
  exact Plan.same_trans (Plan.same_symm same) same'

/-- Roots form a graph when reachable plans of one name are equal. -/
theorem exists_ofRoots (agreeing : Agreeing roots) :
    ∃ graph, ofRoots sharing roots = .ok graph := by
  have refused := (insertAll_reaches sharing {} (List.Subset.refl roots) nofun).2
  unfold ofRoots
  split
  · exact ⟨_, rfl⟩
  · exact absurd agreeing (refused _ _ ‹_›)

/-- What is indexed is reachable. -/
theorem reachable_of_mem (consistent : ofRoots sharing roots = .ok graph) {node : Plan}
    (member : node ∈ graph.nodes) : Reachable roots node := by
  have reached := (insertAll_reaches sharing {} (List.Subset.refl roots) nofun).1
  rw [endState_of_ok (insertAll_of_ofRoots consistent)] at reached
  exact reached node member

/-- When roots form a graph, it is of exactly the reachable plans. -/
theorem indexed_of_ofRoots (consistent : ofRoots sharing roots = .ok graph)
    (defined : ∀ plan, Reachable roots plan → plan.isNaN = false) : graph.Indexed roots where
  names name := by
    constructor
    · intro found
      obtain ⟨node, found⟩ := Option.isSome_iff_exists.mp found
      obtain ⟨member, named⟩ := mem_of_get? found
      exact ⟨node, reachable_of_mem consistent member, named⟩
    · rintro ⟨plan, reachable, rfl⟩
      obtain ⟨node, found, -⟩ := reachable.get? consistent defined
      rw [found]
      rfl
  plans plan reachable := reachable.get? consistent defined
  size := by
    have distinct := (Indexes.distinct (ofRoots_indexes consistent)) (by simp)
    -- The names of the nodes are those of the reachable plans, and none is there twice.
    have names : {name | ∃ plan, Reachable roots plan ∧ plan.name = name}
        = ((graph.nodes.map Plan.name).toFinset : Set String) := by
      ext name
      simp only [Set.mem_ofPred_eq, List.coe_toFinset, List.mem_map]
      constructor
      · rintro ⟨plan, reachable, rfl⟩
        obtain ⟨node, member, linked⟩ := reachable.represents consistent
        exact ⟨node, member, linked.name⟩
      · exact fun ⟨node, member, named⟩ => ⟨node, reachable_of_mem consistent member, named⟩
    rw [names, Set.ncard_coe_finset, List.toFinset_card_of_nodup distinct, List.length_map]
    rfl
  dependencies plan reachable := dependencies_of_reachable consistent reachable

/--
Roots without undefined numbers form a graph just when any two reachable plans of one name are
equal, whatever the order of the roots and whichever plans are shared, and the graph is of exactly
the reachable plans.
-/
theorem ofRoots_exact (sharing : Sharing)
    (defined : ∀ plan, Reachable roots plan → plan.isNaN = false) :
    ((∃ graph, ofRoots sharing roots = .ok graph) ↔ Agreeing roots) ∧
      (∀ others, others.Perm roots → ∀ sharing' : Sharing,
        ((∃ graph, ofRoots sharing' others = .ok graph) ↔
          ∃ graph, ofRoots sharing roots = .ok graph)) ∧
      ∀ graph, ofRoots sharing roots = .ok graph → graph.Indexed roots := by
  have exact : ∀ others, others.Perm roots → ∀ sharing : Sharing,
      ((∃ graph, ofRoots sharing others = .ok graph) ↔ Agreeing roots) := by
    intro others perm sharing
    -- The same plans are reachable in any order of the roots.
    have same : ∀ plan, Reachable others plan ↔ Reachable roots plan := fun plan =>
      ⟨fun reachable => reachable.mono perm.subset,
        fun reachable => reachable.mono perm.symm.subset⟩
    have agreeing : Agreeing others ↔ Agreeing roots := by simp only [Agreeing, same]
    rw [← agreeing]
    exact ⟨fun ⟨graph, consistent⟩ =>
      agreeing_of_ofRoots consistent fun plan reachable => defined plan ((same plan).mp reachable),
      exists_ofRoots⟩
  refine ⟨exact roots (.refl roots) sharing, fun others perm sharing' => ?_,
    fun graph consistent => indexed_of_ofRoots consistent defined⟩
  rw [exact others perm sharing', exact roots (.refl roots) sharing]

end PlanGraph

/-- Two points, made of three numbers. -/
def Demo.twoPoints : List Plan :=
  [Demo.pointFrom "p" (Demo.int "x" 1) (Demo.int "y" 2),
    Demo.pointFrom "q" (Demo.int "y" 2) (Demo.int "z" 3)]

/-- Two points that share a number form a graph of five plans. -/
theorem PlanGraph.ofRoots_exact_twoPoints :
    (∀ plan, Reachable Demo.twoPoints plan → plan.isNaN = false) ∧ Agreeing Demo.twoPoints ∧
      ∃ graph, ofRoots .none Demo.twoPoints = .ok graph ∧ graph.Indexed Demo.twoPoints := by
  have defined : ∀ plan, Reachable Demo.twoPoints plan → plan.isNaN = false := by
    intro plan reachable
    -- Only the points and their numbers are reachable.
    have member := reachable.mem_of_closed
      (Demo.twoPoints ++ [Demo.int "x" 1, Demo.int "y" 2, Demo.int "z" 3])
      (List.subset_append_left _ _) ?_
    · simp only [Demo.twoPoints, List.cons_append, List.nil_append, List.mem_cons,
        List.not_mem_nil, or_false] at member
      rcases member with rfl | rfl | rfl | rfl | rfl <;> rfl
    · intro consumer member operand inside
      simp only [Demo.twoPoints, List.cons_append, List.nil_append, List.mem_cons,
        List.not_mem_nil, or_false] at member
      rcases member with rfl | rfl | rfl | rfl | rfl <;>
        simp [Demo.pointFrom, Demo.int, Plan.operands, Plan.kind, PlanKind.operands,
          Action.operands, Demo.twoPoints] at inside ⊢ <;> tauto
  obtain ⟨exact, -, indexed⟩ := ofRoots_exact .none defined
  obtain ⟨graph, consistent⟩ := exists_ok_of_isOk
    (show (ofRoots .none Demo.twoPoints).isOk = true by decide +kernel)
  exact ⟨defined, exact.mp ⟨graph, consistent⟩, graph, consistent, indexed graph consistent⟩

end TestPlan
