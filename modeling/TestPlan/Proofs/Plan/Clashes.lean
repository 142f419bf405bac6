import TestPlan.Proofs.Plan.Exact

/-! What insertions have indexed, also when some of those before them have stopped half way. -/

namespace TestPlan

namespace Reachable

variable {roots : List Plan} {plan other last : Plan}

/-- What is reachable from a reachable plan is reachable. -/
theorem trans (reachable : Reachable roots plan) (reachable' : Reachable [plan] last) :
    Reachable roots last := by
  induction reachable' with
  | root member => exact List.mem_singleton.mp member ▸ reachable
  | operand _ member ih => exact ih.operand member

/-- A plan reaches itself. -/
theorem self (plan : Plan) : Reachable [plan] plan :=
  .root (List.mem_singleton_self plan)

/-- Linked plans reach linked plans. -/
theorem exists_linked (linked : plan.Linked other) (reachable : Reachable [other] last) :
    ∃ first, Reachable [plan] first ∧ first.Linked last := by
  induction reachable with
  | root member =>
    cases List.mem_singleton.mp member
    exact ⟨plan, self plan, linked⟩
  | operand _ member ih =>
    obtain ⟨first, reached, linked⟩ := ih
    obtain ⟨operand, inside, linked'⟩ := linked.exists_operand member
    exact ⟨operand, reached.operand inside, linked'⟩

end Reachable

namespace PlanGraph

variable {sharing : Sharing} {graph before after : PlanGraph} {plan other : Plan}

/-! ### Clashes -/

/-- Something reachable from a plan has the name of an indexed plan that it does not equal. -/
def Clashes (graph : PlanGraph) (plan : Plan) : Prop :=
  ∃ other node, Reachable [plan] other ∧ node ∈ graph.nodes ∧ node.name = other.name ∧
    node.same other = false

/-- An operand is linked to its consumer, from a plan that equals it. -/
def Fed (graph : PlanGraph) (consumer : Nat) (operand : Plan) : Prop :=
  ∃ source node, (source, consumer) ∈ graph.edges ∧ graph.nodes[source]? = some node ∧
    node.Linked operand

/-- The plan at a position has all its operands linked to it, unless something below it clashes. -/
def Explained (graph : PlanGraph) (consumer : Nat) : Prop :=
  ∀ reader, graph.nodes[consumer]? = some reader →
    (∀ operand ∈ reader.operands, graph.Fed consumer operand) ∨ graph.Clashes reader

/-- A plan goes on clashing. -/
theorem Clashes.mono (clashes : before.Clashes plan) (changes : Changes before after) :
    after.Clashes plan := by
  obtain ⟨other, node, reachable, member, clash⟩ := clashes
  exact ⟨other, node, reachable, changes.prefix_nodes.subset member, clash⟩

/-- A plan that reaches a clashing plan clashes itself. -/
theorem Clashes.of_reachable (clashes : graph.Clashes other) (reachable : Reachable [plan] other) :
    graph.Clashes plan := by
  obtain ⟨last, node, reachable', clash⟩ := clashes
  exact ⟨last, node, reachable.trans reachable', clash⟩

/-- An operand stays linked to its consumer. -/
theorem Fed.mono {consumer : Nat} {operand : Plan} (fed : before.Fed consumer operand)
    (changes : Changes before after) : after.Fed consumer operand := by
  obtain ⟨source, node, edge, placed, linked⟩ := fed
  exact ⟨source, node, changes.subset_edges edge, changes.getElem?_nodes placed, linked⟩

/-- A position stays explained. -/
theorem Explained.mono {consumer : Nat} (explained : before.Explained consumer)
    (inside : consumer < before.size) (changes : Changes before after) :
    after.Explained consumer := by
  intro reader found
  -- The plan at the position is the one that has been there before.
  have kept := changes.getElem?_nodes (List.getElem?_eq_getElem inside)
  cases kept.symm.trans found
  refine (explained _ (List.getElem?_eq_getElem inside)).imp (fun fed operand member => ?_)
    fun clashes => clashes.mono changes
  exact (fed operand member).mono changes

/-- There is nothing to explain where there is no plan. -/
theorem explained_beyond {consumer : Nat} (beyond : graph.size ≤ consumer) :
    graph.Explained consumer := by
  intro reader found
  rw [List.getElem?_eq_none beyond] at found
  cases found

/-! ### Insertions, whether or not they succeed -/

/-- All that an insertion adds is explained, and it fails only over a clash. -/
def InsertExplains (sharing : Sharing) (plan : Plan) : Prop :=
  ∀ graph, (∀ consumer, graph.size ≤ consumer →
      (endState (insert sharing plan) graph).Explained consumer) ∧
    ∀ error after, insert sharing plan graph = .error error after → after.Clashes plan

/-- What inserting operands adds is explained; they are all linked, or one of them clashes. -/
theorem insertOperands_explains {plans : List Plan}
    (each : ∀ plan ∈ plans, InsertExplains sharing plan)
    {consumer : Nat} {reader : Plan} (found : graph.nodes[consumer]? = some reader)
    (operands : plans ⊆ reader.operands) :
    (∀ other, graph.size ≤ other →
        (endState (insertOperands sharing consumer plans) graph).Explained other) ∧
      (∀ after, insertOperands sharing consumer plans graph = .ok () after →
        ∀ plan ∈ plans, after.Fed consumer plan) ∧
      ∀ error after, insertOperands sharing consumer plans graph = .error error after →
        ∃ plan ∈ plans, after.Clashes plan := by
  -- The induction is on the operands, over every graph that those before them may leave.
  induction plans generalizing graph with
  | nil => exact ⟨fun other beyond => explained_beyond beyond, nofun, nofun⟩
  | cons plan rest ih =>
    obtain ⟨explained, clash⟩ := each plan List.mem_cons_self graph
    obtain ⟨changes, result⟩ := insert_changes sharing plan graph
    cases ran : insert sharing plan graph with
    | error error middle =>
      -- The clash of the first operand ends the insertion.
      rw [endState_of_error ran] at explained
      rw [endState_of_error (insertOperands_of_error ran), insertOperands_of_error ran]
      refine ⟨explained, nofun, ?_⟩
      rintro _ _ ⟨⟩
      exact ⟨plan, List.mem_cons_self, clash error middle ran⟩
    | ok position middle =>
      rw [endState_of_ok ran] at explained changes
      obtain ⟨node, placed, same⟩ := result position middle ran
      obtain ⟨linked, laid⟩ := exists_link position consumer middle
      obtain ⟨kept, edge⟩ := link_changes laid
        ⟨node, reader, placed, changes.getElem?_nodes found, plan, operands List.mem_cons_self,
          same⟩
      have fed : linked.Fed consumer plan :=
        ⟨position, node, edge, kept.getElem?_nodes placed, same⟩
      have found' := kept.getElem?_nodes (changes.getElem?_nodes found)
      have later : rest ⊆ reader.operands := fun plan member =>
        operands (List.mem_cons_of_mem _ member)
      have rest' := insertOperands_changes (fun plan _ => insert_changes sharing plan) found' later
      obtain ⟨explained', all, clash'⟩ := ih
        (fun plan member => each plan (List.mem_cons_of_mem _ member)) found' later
      simp only [endState, insertOperands_of_ok ran laid]
      refine ⟨fun other beyond => ?_, fun after inserted operand member => ?_,
        fun error after failed => ?_⟩
      · -- A plan is added with the first operand, or with those after it.
        rcases Nat.lt_or_ge other middle.size with inside | beyond'
        · exact (explained other beyond).mono inside (kept.trans rest')
        · exact explained' other (by rwa [size, nodes_of_link laid])
      · rcases List.mem_cons.mp member with rfl | inside
        · rw [endState_of_ok inserted] at rest'
          exact fed.mono rest'
        · exact all after inserted operand inside
      · obtain ⟨operand, inside, clashes⟩ := clash' error after failed
        exact ⟨operand, List.mem_cons_of_mem _ inside, clashes⟩

/-- What inserting a plan adds is explained, and inserting fails only over a clash. -/
theorem insert_explains (plan : Plan) : InsertExplains sharing plan := by
  -- The induction is on the plan, whose operands are inserted in the same way.
  induction plan using Plan.induction_operands with
  | step plan ih =>
    intro graph
    cases inserts sharing plan graph with
    | found _ _ ran =>
      rw [endState_of_ok ran, ran]
      exact ⟨fun consumer beyond => explained_beyond beyond, nofun⟩
    | @refused node member named different ran =>
      rw [endState_of_error ran, ran]
      refine ⟨fun consumer beyond => explained_beyond beyond, ?_⟩
      rintro _ _ ⟨⟩
      exact ⟨plan, node, .self plan, member, named, different⟩
    | added _ ran =>
      have placed := graph.getElem?_extend plan
      obtain ⟨explained, fed, clash⟩ :=
        insertOperands_explains ih placed (List.Subset.refl _)
      have changes := insertOperands_changes (fun plan _ => insert_changes sharing plan) placed
        (List.Subset.refl _)
      -- A clash of an operand is one of the plan itself.
      have clashes : ∀ error after,
          insertOperands sharing graph.size plan.operands (graph.extend plan) = .error error after →
            after.Clashes plan := by
        intro error after failed
        obtain ⟨operand, member, clash⟩ := clash error after failed
        exact clash.of_reachable ((Reachable.self plan).operand member)
      refine ⟨fun consumer beyond => ?_, fun error after failed => ?_⟩
      · rw [endState_of_added ran]
        -- The plan itself comes first, and its operands come after it.
        rcases Nat.eq_or_lt_of_le beyond with rfl | beyond
        · intro reader found
          cases (changes.getElem?_nodes placed).symm.trans found
          cases ended : insertOperands sharing graph.size plan.operands (graph.extend plan) with
          | ok _ last => exact .inl (endState_of_ok ended ▸ fed last ended)
          | error error last => exact .inr (endState_of_error ended ▸ clashes error last ended)
        · exact explained consumer (by simpa [size, extend] using beyond)
      · rw [ran] at failed
        rcases bind_eq_error_iff.mp failed with failed | ⟨_, _, _, ⟨⟩⟩
        exact clashes error after failed

/-- Every position of a graph that insertions make is explained, whether or not they succeed. -/
theorem explained_insertInTurn (sharing : Sharing) (plans : List Plan) (consumer : Nat) :
    (insertInTurn sharing plans).Explained consumer := by
  -- The induction is on the plans, over every graph that those before them may leave.
  suffices run : ∀ graph : PlanGraph, (∀ consumer, graph.Explained consumer) →
      ∀ consumer, PlanGraph.Explained
        (plans.foldl (fun graph plan => endState (insert sharing plan) graph) graph) consumer from
    run {} (fun _ => explained_beyond (Nat.zero_le _)) consumer
  induction plans with
  | nil => exact fun _ => id
  | cons plan rest ih =>
    refine fun graph explained => ih _ fun other => ?_
    -- A plan has been there before, or the insertion of this plan has added it.
    rcases Nat.lt_or_ge other graph.size with inside | beyond
    · exact (explained other).mono inside (insert_changes sharing plan graph).1
    · exact (insert_explains plan graph).1 other beyond

/-! ### What is fully indexed -/

/-- Whatever is reachable from a plan is indexed, and has its operands among its dependencies. -/
structure FullyIndexed (graph : PlanGraph) (plan : Plan) : Prop where
  plans : ∀ other, Reachable [plan] other → ∃ node, graph.get? other.name = some node ∧
    node.same other = true
  dependencies : ∀ other, Reachable [plan] other → (graph.get? other.name).isSome = true →
    ∀ operand ∈ other.operands, operand.name ∈ graph.dependencies other.name

/-- Nothing below a fully indexed plan clashes. -/
theorem FullyIndexed.not_clashes (indexed : graph.FullyIndexed plan) (sound : Sound graph) :
    ¬ graph.Clashes plan := by
  rintro ⟨other, node, reachable, member, named, different⟩
  obtain ⟨first, found, same⟩ := indexed.plans other reachable
  -- The name has one plan in the graph.
  obtain ⟨member', named'⟩ := mem_of_get? found
  cases List.inj_on_of_nodup_map sound.distinct member' member (named'.trans named.symm)
  rw [same] at different
  cases different

/-- Linked plans clash with the same plans. -/
theorem Clashes.of_linked (clashes : graph.Clashes other) (linked : plan.Linked other) :
    graph.Clashes plan := by
  obtain ⟨last, node, reachable, member, named, different⟩ := clashes
  obtain ⟨first, reachable', linked'⟩ := reachable.exists_linked linked
  refine ⟨first, node, reachable', member, named.trans linked'.name.symm, ?_⟩
  -- A plan that equals the first of two equal plans equals the second one.
  by_contra same
  rw [Bool.not_eq_false] at same
  rcases linked'.eq_or_same with rfl | same'
  · rw [same] at different
    cases different
  · rw [Plan.same_trans same same'] at different
    cases different

/-- An indexed plan with nothing that clashes below it has all below it indexed and linked. -/
theorem Represents.fed (indexed : graph.Represents plan)
    (explained : ∀ consumer, graph.Explained consumer) (agrees : ¬ graph.Clashes plan)
    (reachable : Reachable [plan] other) :
    ∃ position node, graph.nodes[position]? = some node ∧ node.Linked other ∧
      ∀ operand ∈ node.operands, graph.Fed position operand := by
  -- A position of an equal plan is explained, and nothing below the plan clashes.
  have fed : ∀ {other}, Reachable [plan] other → graph.Represents other →
      ∃ position node, graph.nodes[position]? = some node ∧ node.Linked other ∧
        ∀ operand ∈ node.operands, graph.Fed position operand := by
    rintro other reachable ⟨node, member, linked⟩
    obtain ⟨position, placed⟩ := List.mem_iff_getElem?.mp member
    refine ⟨position, node, placed, linked, (explained position node placed).resolve_right ?_⟩
    exact fun clashes => agrees ((clashes.of_linked linked.symm).of_reachable reachable)
  induction reachable with
  | root member =>
    cases List.mem_singleton.mp member
    exact fed (.self plan) indexed
  | operand reachable member ih =>
    -- The operand equals one of the plan that is indexed, and this one is linked from an equal one.
    obtain ⟨position, node, placed, linked, all⟩ := ih
    obtain ⟨operand, inside, linked'⟩ := linked.exists_operand member
    obtain ⟨source, first, -, placed', linked''⟩ := all operand inside
    exact fed (reachable.operand member)
      ⟨first, List.mem_of_getElem? placed', linked''.trans linked'⟩

/-- An indexed plan without undefined numbers, with no clash below it, is fully indexed. -/
theorem Represents.fullyIndexed (indexed : graph.Represents plan) (sound : Sound graph)
    (explained : ∀ consumer, graph.Explained consumer)
    (defined : ∀ other, Reachable [plan] other → other.isNaN = false)
    (agrees : ¬ graph.Clashes plan) : graph.FullyIndexed plan where
  plans other reachable := by
    obtain ⟨position, node, placed, linked, -⟩ := indexed.fed explained agrees reachable
    obtain ⟨first, found, linked'⟩ :=
      Represents.get? ⟨node, List.mem_of_getElem? placed, linked⟩ sound.distinct
    refine ⟨first, found, ?_⟩
    rcases linked'.eq_or_same with rfl | same
    · exact reachable.same_refl defined
    · exact same
  dependencies other reachable _ operand member := by
    obtain ⟨position, node, placed, linked, all⟩ := indexed.fed explained agrees reachable
    obtain ⟨operand', inside, linked'⟩ := linked.exists_operand member
    obtain ⟨source, first, edge, placed', linked''⟩ := all operand' inside
    -- The name of the plan has one position, at which the equal plan is.
    obtain ⟨reader, found, equal⟩ :=
      Represents.get? ⟨node, List.mem_of_getElem? placed, linked⟩ sound.distinct
    obtain ⟨consumer, located, placed''⟩ := graph.exists_position found
    have same : graph.nameAt consumer = graph.nameAt position := by
      rw [nameAt_of_getElem? placed'', nameAt_of_getElem? placed, equal.name, linked.name]
    have inside := (List.getElem?_eq_some_iff.mp placed'').1
    cases sound.nameAt_inj inside (List.getElem?_eq_some_iff.mp placed).1 same
    refine (mem_dependencies located).mpr ⟨source, edge, ?_⟩
    rw [nameAt_of_getElem? placed', linked''.name, linked'.name]

/--
After any insertions, whether or not they have succeeded, a plan without undefined numbers that is
inserted with success is fully indexed just when it reaches no name of an indexed plan that differs
from it, and one that is refused does reach such a name.
-/
theorem insert_fullyIndexed_iff (sharing : Sharing) (plans : List Plan) (plan : Plan)
    (defined : ∀ other, Reachable [plan] other → other.isNaN = false) :
    (∀ position after, insert sharing plan (insertInTurn sharing plans) = .ok position after →
        (after.FullyIndexed plan ↔ ¬ after.Clashes plan)) ∧
      ∀ error after, insert sharing plan (insertInTurn sharing plans) = .error error after →
        after.Clashes plan := by
  refine ⟨fun position after inserted => ?_, (insert_explains plan _).2⟩
  -- The insertion is one more of those that have been made before.
  have last : insertInTurn sharing (plans ++ [plan]) = after := by
    rw [insertInTurn, List.foldl_append, List.foldl_cons, List.foldl_nil]
    exact endState_of_ok inserted
  have sound := last ▸ sound_insertInTurn sharing (plans ++ [plan])
  have explained := last ▸ explained_insertInTurn sharing (plans ++ [plan])
  obtain ⟨node, placed, linked⟩ := (insert_changes sharing plan _).2 position after inserted
  have indexed : after.Represents plan := ⟨node, List.mem_of_getElem? placed, linked⟩
  exact ⟨fun full => full.not_clashes sound, indexed.fullyIndexed sound explained defined⟩

end PlanGraph

/-- A point of two numbers that have one name. -/
def Demo.clashingPoint : Plan :=
  Demo.pointFrom "a" (Demo.int "v" 1) (Demo.int "v" 2)

namespace PlanGraph

/-- Nothing that a point of two integers reaches is an undefined number. -/
theorem isNaN_of_pointFrom {name first second : String} {x y : Int32} {other : Plan}
    (reachable : Reachable [Demo.pointFrom name (Demo.int first x) (Demo.int second y)] other) :
    other.isNaN = false := by
  have member := reachable.mem_of_closed
    [Demo.pointFrom name (Demo.int first x) (Demo.int second y), Demo.int first x,
      Demo.int second y] (by simp) ?_
  · simp only [List.mem_cons, List.not_mem_nil, or_false] at member
    rcases member with rfl | rfl | rfl <;> rfl
  · intro consumer member operand inside
    simp only [List.mem_cons, List.not_mem_nil, or_false] at member
    -- The point reads both numbers, and these read nothing.
    rcases member with rfl | rfl | rfl
    · exact List.mem_cons_of_mem _ inside
    · cases inside
    · cases inside

/-- After the refusal of a clashing point, another point with one of its numbers is indexed. -/
theorem insert_fullyIndexed_iff_after_clash :
    (∀ other, Reachable [Demo.pointFrom "b" (Demo.int "v" 1) (Demo.int "w" 2)] other →
      other.isNaN = false) ∧
    ∃ position after, insert .none (Demo.pointFrom "b" (Demo.int "v" 1) (Demo.int "w" 2))
        (insertInTurn .none [Demo.clashingPoint]) = .ok position after ∧
      (after.FullyIndexed (Demo.pointFrom "b" (Demo.int "v" 1) (Demo.int "w" 2)) ↔
        ¬ after.Clashes (Demo.pointFrom "b" (Demo.int "v" 1) (Demo.int "w" 2))) := by
  obtain ⟨position, after, inserted⟩ := exists_ok_of_run'
    (show ((insert .none (Demo.pointFrom "b" (Demo.int "v" 1) (Demo.int "w" 2))).run'
      (insertInTurn .none [Demo.clashingPoint])).isSome = true by decide +kernel)
  refine ⟨fun _ => isNaN_of_pointFrom, position, after, inserted, ?_⟩
  exact (insert_fullyIndexed_iff .none [Demo.clashingPoint] _
    fun _ => isNaN_of_pointFrom).1 _ _ inserted

/-- A point that has been refused is accepted when it is inserted again, but not fully indexed. -/
theorem insert_fullyIndexed_iff_again :
    ¬ ∀ (plans : List Plan) (plan : Plan) (position : Nat) (after : PlanGraph),
      (∀ other, Reachable (plan :: plans) other → other.isNaN = false) →
      insert .none plan (insertInTurn .none plans) = .ok position after →
        after.FullyIndexed plan := by
  intro indexed
  obtain ⟨position, after, inserted⟩ := exists_ok_of_run'
    (show ((insert .none Demo.clashingPoint).run'
      (insertInTurn .none [Demo.clashingPoint])).isSome = true by decide +kernel)
  have defined : ∀ other, Reachable [Demo.clashingPoint, Demo.clashingPoint] other →
      other.isNaN = false := by
    intro other reachable
    have once : Reachable [Demo.clashingPoint] other := reachable.mono (by simp)
    exact isNaN_of_pointFrom once
  have full := indexed [Demo.clashingPoint] Demo.clashingPoint position after defined inserted
  -- Both numbers would have to be the one number that is indexed under their name.
  have reaches : ∀ value ∈ [Demo.int "v" 1, Demo.int "v" 2],
      Reachable [Demo.clashingPoint] value := fun value member =>
    (Reachable.self Demo.clashingPoint).operand member
  obtain ⟨node, found, same⟩ := full.plans (Demo.int "v" 1) (reaches _ (by simp))
  obtain ⟨node', found', same'⟩ := full.plans (Demo.int "v" 2) (reaches _ (by simp))
  cases found.symm.trans found'
  have equal := Plan.same_trans (Plan.same_symm same) same'
  exact absurd equal (by decide +kernel)

end PlanGraph

end TestPlan
